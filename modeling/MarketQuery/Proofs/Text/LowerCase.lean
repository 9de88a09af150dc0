import MarketQuery.Proofs.Text.Ascii
import MarketQuery.Proofs.Text.UpperCase

/-!
Texts that lower case makes a given word of. Most words of small letters come only from their own
letters, small or capital: outside them the tables bring in no small letter but `i`, of the capital
with a dot, and `k`, of the Kelvin sign.
-/
namespace MarketQuery.Text

/-- A small letter that lower case brings in for its own capital only. -/
def IsPlain (c : Char) : Prop :=
  'a' ≤ c ∧ c ≤ 'z' ∧ c ≠ 'i' ∧ c ≠ 'k'

instance : DecidablePred IsPlain :=
  fun _ => inferInstanceAs (Decidable (_ ∧ _ ∧ _ ∧ _))

theorem lowerChar_of_lt {c : Char} (h : c.toNat < 128) : lowerChar c = [c.toLower] := by
  have hascii : ∀ c : Char, c.toNat < 128 → lowerChar c = [c.toLower] :=
    forall_ascii (by decide +kernel)
  exact hascii c h

theorem not_isPlain_of_ge {c : Char} (h : 128 ≤ c.toNat) : ¬ IsPlain c := by
  rintro ⟨-, hle, -⟩
  have hz : c.toNat ≤ 122 := hle
  omega

/-- No code point above the first 128 is mapped to a plain letter. -/
theorem lowerRuns_images : ∀ r ∈ lowerRuns, ∀ n ∈ r.members, 128 ≤ n →
    ¬ IsPlain (Char.ofNat (n + r.shift).toNat) := by
  decide +kernel

theorem not_isPlain_lowerChar {c d : Char} (h : 128 ≤ c.toNat) (hd : d ∈ lowerChar c) :
    ¬ IsPlain d := by
  unfold lowerChar mapCase at hd
  split at hd
  · next points hlookup =>
    have hexpansions : ∀ e ∈ lowerExpansions, ∀ n ∈ e.2, ¬ IsPlain (Char.ofNat n) := by
      decide +kernel
    obtain ⟨n, hn, rfl⟩ := List.mem_map.mp hd
    exact hexpansions _ (mem_of_lookup hlookup) n hn
  · obtain rfl := List.mem_singleton.mp hd
    unfold shifted
    split
    · next r hfind =>
      have hholds := List.find?_some hfind
      simp only [Bool.and_eq_true, decide_eq_true_eq, beq_iff_eq] at hholds
      have hmember := CaseRun.mem_members hholds.1.1 hholds.1.2 hholds.2
      exact lowerRuns_images r (List.mem_of_find?_eq_some hfind) _ hmember h
    · rw [Char.ofNat_toNat]
      exact not_isPlain_of_ge h

theorem lowerChar_ne_nil (c : Char) : lowerChar c ≠ [] :=
  mapCase_ne_nil (by decide) lowerRuns c

/-- What stands for a character in the lower case of a text. -/
theorem lowerAfter_cons (before : List Char) (c : Char) (rest : List Char) :
    ∃ piece, lowerAfter before (c :: rest) = piece ++ lowerAfter (c :: before) rest ∧
      (c.toNat < 128 → piece = [c.toLower]) ∧
      (128 ≤ c.toNat → ∃ d ∈ piece, ¬ IsPlain d) := by
  refine ⟨_, rfl, ?_, ?_⟩
  · intro h
    have hne : c ≠ 'Σ' := by
      rintro rfl
      exact absurd h (by decide)
    rw [if_neg hne, lowerChar_of_lt h]
  · intro h
    split
    · refine ⟨_, List.mem_singleton_self _, ?_⟩
      split <;> decide
    · obtain ⟨d, hd⟩ := List.exists_mem_of_ne_nil _ (lowerChar_ne_nil c)
      exact ⟨d, hd, not_isPlain_lowerChar h hd⟩

theorem toLower_of_ge {c : Char} (h : 128 ≤ c.toNat) : c.toLower = c := by
  have hcapital : ¬ (c.val ≥ 65 ∧ c.val ≤ 90) := by
    rintro ⟨-, hle⟩
    have hnat : c.toNat ≤ 90 := hle
    omega
  exact dif_neg hcapital

theorem lowerAfter_eq_iff {before s word : List Char} (hword : ∀ c ∈ word, IsPlain c) :
    lowerAfter before s = word ↔ s.map Char.toLower = word := by
  induction s generalizing before word with
  | nil => rfl
  | cons c rest ih =>
    obtain ⟨piece, heq, hascii, hother⟩ := lowerAfter_cons before c rest
    rw [heq, List.map_cons]
    by_cases h : c.toNat < 128
    · rw [hascii h]
      cases word with
      | nil => simp
      | cons d word =>
        have hrest : ∀ c ∈ word, IsPlain c := fun c hc => hword c (List.mem_cons_of_mem _ hc)
        simp [ih hrest]
    · have hlarge : 128 ≤ c.toNat := by omega
      constructor
      · rintro rfl
        obtain ⟨d, hd, hplain⟩ := hother hlarge
        exact absurd (hword d (List.mem_append_left _ hd)) hplain
      · rintro rfl
        have hplain := hword c.toLower List.mem_cons_self
        rw [toLower_of_ge hlarge] at hplain
        exact absurd hplain (not_isPlain_of_ge hlarge)

/-- A text becomes a word of plain letters exactly if it spells it in small and capital letters. -/
theorem lower_eq_iff {s word : String} (hword : ∀ c ∈ word.toList, IsPlain c) :
    lower s = word ↔ s.toList.map Char.toLower = word.toList := by
  rw [lower, String.ext_iff, String.toList_ofList]
  exact lowerAfter_eq_iff hword

theorem isLower_of_mem_upperChar {c d : Char} (h : d ∈ upperChar c) : d.isLower = false := by
  have hascii : ∀ c : Char, c.toNat < 128 → c.isLower = true → upperChar c ≠ [c] :=
    forall_ascii (by decide +kernel)
  rw [Bool.eq_false_iff]
  intro hlower
  have hlt : d.toNat < 128 := by
    have hrange := toNat_of_isLower hlower
    omega
  exact hascii d hlt hlower (upperChar_of_mem h)

theorem toUpper_toLower {c : Char} (h : c.isLower = false) : c.toLower.toUpper = c := by
  by_cases hlt : c.toNat < 128
  · have hascii : ∀ c : Char, c.toNat < 128 → c.isLower = false → c.toLower.toUpper = c :=
      forall_ascii (by decide +kernel)
    exact hascii c hlt h
  · rw [toLower_of_ge (by omega)]
    have hsmall : ¬ (c.val ≥ 97 ∧ c.val ≤ 122) := by
      rintro ⟨-, hle⟩
      have hnat : c.toNat ≤ 122 := hle
      omega
    exact dif_neg hsmall

/-- Texts in upper case that differ only in the case of ASCII letters do not differ. -/
theorem upper_eq_of_map_toLower {s t : String}
    (h : (upper s).toList.map Char.toLower = (upper t).toList.map Char.toLower) :
    upper s = upper t := by
  have hback (s : String) : ((upper s).toList.map Char.toLower).map Char.toUpper =
      (upper s).toList := by
    rw [List.map_map]
    refine (List.map_congr_left fun c hc => ?_).trans (List.map_id _)
    rw [upper, String.toList_ofList] at hc
    obtain ⟨d, -, hd⟩ := List.mem_flatMap.mp hc
    exact toUpper_toLower (isLower_of_mem_upperChar hd)
  exact String.toList_injective ((hback s).symm.trans ((congrArg _ h).trans (hback t)))

end MarketQuery.Text
