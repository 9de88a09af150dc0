import Mathlib.Algebra.Group.Nat.Defs
import Mathlib.Data.List.Basic
import MarketQuery.Text.Blank
import MarketQuery.Text.LetterCase

/-!
Upper case is final. What it brings in has no upper case of its own, and it brings in no blanks.
Both are facts about the tables: the code points that they map to lie apart from those that they
map and from the blanks. A set of code points is held as one number here, with a binary digit for
each member, so that two sets are compared as a whole.
-/
namespace MarketQuery.Text

def CaseRun.members (r : CaseRun) : List Nat :=
  List.range' r.first ((r.last - r.first) / r.step + 1) r.step

def CaseRun.images (r : CaseRun) : List Nat :=
  r.members.map fun n : Nat => (n + r.shift).toNat

theorem CaseRun.mem_members {r : CaseRun} {n : Nat} (hfirst : r.first ≤ n) (hlast : n ≤ r.last)
    (hstep : (n - r.first) % r.step = 0) : n ∈ r.members := by
  have hn : n = r.first + r.step * ((n - r.first) / r.step) := by
    have hdiv := Nat.div_add_mod (n - r.first) r.step
    omega
  have hbound : (n - r.first) / r.step ≤ (r.last - r.first) / r.step :=
    Nat.div_le_div_right (by omega)
  rw [members, List.mem_range']
  exact ⟨(n - r.first) / r.step, by omega, hn⟩

/-- The code points with an upper case of their own. -/
def lowerPoints : List Nat :=
  upperRuns.flatMap CaseRun.members ++ upperExpansions.map Prod.fst

/-- The code points that upper case brings in. What is no code point counts as the first one. -/
def raisedPoints : List Nat :=
  0 :: (upperRuns.flatMap CaseRun.images ++ upperExpansions.flatMap Prod.snd)

def blankPoints : List Nat :=
  List.range' 9 5 ++ [0x20, 0x85, 0xA0, 0x1680] ++ List.range' 0x2000 11 ++
    [0x2028, 0x2029, 0x202F, 0x205F, 0x3000]

theorem mem_blankPoints {c : Char} (h : isBlank c = true) : c.toNat ∈ blankPoints := by
  simp only [isBlank, Bool.or_eq_true, Bool.and_eq_true, decide_eq_true_eq, beq_iff_eq] at h
  simp only [blankPoints, List.mem_append, List.mem_range'_1, List.mem_cons, List.not_mem_nil,
    or_false]
  omega

/-- The number whose binary digits are the members of a set. -/
def mask : List Nat → Nat
  | [] => 0
  | n :: rest => 2 ^ n ||| mask rest

theorem testBit_mask (points : List Nat) (n : Nat) :
    (mask points).testBit n = true ↔ n ∈ points := by
  induction points with
  | nil => simp [mask]
  | cons m rest ih => simp [mask, Nat.testBit_two_pow, ih, eq_comm (a := n)]

theorem not_mem_of_mask {front back : List Nat} (h : mask front &&& mask back = 0) {n : Nat}
    (hn : n ∈ front) : n ∉ back := by
  intro hback
  have hbit : (mask front &&& mask back).testBit n = true := by
    rw [Nat.testBit_and, (testBit_mask front n).mpr hn, (testBit_mask back n).mpr hback]
    rfl
  simp [h] at hbit

theorem mask_raisedPoints : mask raisedPoints &&& mask (lowerPoints ++ blankPoints) = 0 := by
  decide +kernel

theorem not_mem_of_raised {n : Nat} (h : n ∈ raisedPoints) :
    n ∉ lowerPoints ∧ n ∉ blankPoints := by
  have hnot := not_mem_of_mask mask_raisedPoints h
  simpa only [List.mem_append, not_or] using hnot

theorem toNat_ofNat_mem {n : Nat} (h : n ∈ raisedPoints) :
    (Char.ofNat n).toNat ∈ raisedPoints := by
  by_cases hvalid : n.isValidChar
  · have hchar : Char.ofNat n = Char.ofNatAux n hvalid := dif_pos hvalid
    rw [hchar]
    exact h
  · have hchar : Char.ofNat n = Char.ofNatAux 0 (.inl (by decide)) := dif_neg hvalid
    rw [hchar]
    exact List.mem_cons_self

theorem mem_of_lookup {n : Nat} {points : List Nat} {table : List (Nat × List Nat)}
    (h : table.lookup n = some points) : (n, points) ∈ table := by
  obtain ⟨front, back, rfl, -⟩ := List.lookup_eq_some_iff.mp h
  simp

/-- A code point that no run holds stays, and the others are raised. -/
theorem shifted_cases (n : Nat) :
    shifted upperRuns n = n ∨ n ∈ lowerPoints ∧ shifted upperRuns n ∈ raisedPoints := by
  unfold shifted
  split
  · next r hfind =>
    refine .inr ?_
    have hmem := List.mem_of_find?_eq_some hfind
    have hholds := List.find?_some hfind
    simp only [Bool.and_eq_true, decide_eq_true_eq, beq_iff_eq] at hholds
    have hmember := CaseRun.mem_members hholds.1.1 hholds.1.2 hholds.2
    refine ⟨List.mem_append_left _ (List.mem_flatMap.mpr ⟨r, hmem, hmember⟩), ?_⟩
    have himage : (n + r.shift).toNat ∈ r.images := List.mem_map.mpr ⟨n, hmember, rfl⟩
    exact List.mem_cons_of_mem _
      (List.mem_append_left _ (List.mem_flatMap.mpr ⟨r, hmem, himage⟩))
  · exact .inl rfl

theorem upperChar_cases (c : Char) :
    upperChar c = [c] ∨ ∀ d ∈ upperChar c, d.toNat ∈ raisedPoints := by
  unfold upperChar mapCase
  split
  · next points hlookup =>
    refine .inr fun d hd => ?_
    obtain ⟨n, hn, rfl⟩ := List.mem_map.mp hd
    have hpoint : n ∈ upperExpansions.flatMap Prod.snd :=
      List.mem_flatMap.mpr ⟨_, mem_of_lookup hlookup, hn⟩
    exact toNat_ofNat_mem (List.mem_cons_of_mem _ (List.mem_append_right _ hpoint))
  · rcases shifted_cases c.toNat with hsame | ⟨-, hraised⟩
    · exact .inl (by rw [hsame, Char.ofNat_toNat])
    · refine .inr fun d hd => ?_
      obtain rfl := List.mem_singleton.mp hd
      exact toNat_ofNat_mem hraised

theorem upperChar_of_not_mem {c : Char} (h : c.toNat ∉ lowerPoints) : upperChar c = [c] := by
  unfold upperChar mapCase
  split
  · next points hlookup =>
    have hkey : c.toNat ∈ upperExpansions.map Prod.fst :=
      List.mem_map.mpr ⟨_, mem_of_lookup hlookup, rfl⟩
    exact absurd (List.mem_append_right _ hkey) h
  · rcases shifted_cases c.toNat with hsame | ⟨hlower, -⟩
    · rw [hsame, Char.ofNat_toNat]
    · exact absurd hlower h

theorem upperChar_of_mem {c d : Char} (h : d ∈ upperChar c) : upperChar d = [d] := by
  rcases upperChar_cases c with hsame | hraised
  · obtain rfl : d = c := by simpa [hsame] using h
    exact hsame
  · obtain ⟨hlower, -⟩ := not_mem_of_raised (hraised d h)
    exact upperChar_of_not_mem hlower

theorem isBlank_of_mem_upperChar {c d : Char} (hc : isBlank c = false) (h : d ∈ upperChar c) :
    isBlank d = false := by
  rcases upperChar_cases c with hsame | hraised
  · obtain rfl : d = c := by simpa [hsame] using h
    exact hc
  · obtain ⟨-, hblank⟩ := not_mem_of_raised (hraised d h)
    exact Bool.eq_false_iff.mpr fun hd => hblank (mem_blankPoints hd)

theorem mapCase_ne_nil {expansions : List (Nat × List Nat)} (h : ∀ e ∈ expansions, e.2 ≠ [])
    (runs : List CaseRun) (c : Char) : mapCase expansions runs c ≠ [] := by
  unfold mapCase
  split
  · next points hlookup => simpa using h _ (mem_of_lookup hlookup)
  · simp

theorem upperChar_ne_nil (c : Char) : upperChar c ≠ [] :=
  mapCase_ne_nil (by decide) upperRuns c

theorem upper_upper (s : String) : upper (upper s) = upper s := by
  have hchar : ∀ c, (upperChar c).flatMap upperChar = upperChar c := by
    intro c
    calc (upperChar c).flatMap upperChar
        = (upperChar c).flatMap fun d => [d] := by
          rw [List.flatMap, List.flatMap, List.map_congr_left fun d hd => upperChar_of_mem hd]
      _ = upperChar c := List.flatMap_singleton' _
  simp [upper, List.flatMap_assoc, hchar]

theorem isBlank_head_upper {s : List Char} {c : Char}
    (hs : ∀ d, s.head? = some d → isBlank d = false) (h : (s.flatMap upperChar).head? = some c) :
    isBlank c = false := by
  cases s with
  | nil => simp at h
  | cons d rest =>
    rw [List.flatMap_cons, List.head?_append_of_ne_nil _ (upperChar_ne_nil d)] at h
    exact isBlank_of_mem_upperChar (hs d rfl) (List.mem_of_head? h)

theorem isBlank_getLast_upper {s : List Char} {c : Char}
    (hs : ∀ d, s.getLast? = some d → isBlank d = false)
    (h : (s.flatMap upperChar).getLast? = some c) : isBlank c = false := by
  rcases List.eq_nil_or_concat' s with rfl | ⟨front, d, rfl⟩
  · simp at h
  · rw [List.flatMap_append, List.flatMap_singleton,
      List.getLast?_append_of_ne_nil _ (upperChar_ne_nil d)] at h
    exact isBlank_of_mem_upperChar (hs d (by simp)) (List.mem_of_getLast? h)

/-- The upper case of a text without blanks at its ends has none there either. -/
theorem trimmed_upper_trimmed (s : String) :
    trimmed (upper (trimmed s)) = upper (trimmed s) := by
  have htext : (upper (trimmed s)).toList = (trim s.toList).flatMap upperChar := by
    simp [upper, toList_trimmed]
  apply String.toList_injective
  rw [toList_trimmed, htext]
  cases hhead : ((trim s.toList).flatMap upperChar).head? with
  | none =>
    rw [List.head?_eq_none_iff.mp hhead]
    rfl
  | some first =>
    obtain ⟨last, hlast⟩ := exists_getLast? hhead
    exact trim_eq_self hhead hlast (isBlank_head_upper (fun _ => isBlank_head_trim) hhead)
      (isBlank_getLast_upper (fun _ => isBlank_getLast_trim) hlast)

end MarketQuery.Text
