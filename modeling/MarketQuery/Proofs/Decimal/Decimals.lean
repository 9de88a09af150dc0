import MarketQuery.Proofs.Decimal.Places
import MarketQuery.Text.Search

/-!
Decimals and the numbers that they spell: digits, a point and more digits, with a minus sign in front
or without one. The digits behind the point count as many places, and no text spells two numbers.
-/
namespace MarketQuery.Decimal

inductive SpellsMagnitude (places : Nat) : List Char → ℚ → Prop
  | intro {whole fraction : List Char} (hwhole : whole ≠ []) (hlength : fraction.length = places)
      (hdigits : ∀ c ∈ whole ++ fraction, c.isDigit = true) :
      SpellsMagnitude places (whole ++ '.' :: fraction) (denoted (whole ++ fraction) / 10 ^ places)

/-- A decimal with so many places, with a minus sign in front or without one. -/
inductive SpellsDecimal (places : Nat) : List Char → ℚ → Prop
  | unsigned {text : List Char} {r : ℚ} (h : SpellsMagnitude places text r) :
      SpellsDecimal places text r
  | minus {text : List Char} {r : ℚ} (h : SpellsMagnitude places text r) :
      SpellsDecimal places ('-' :: text) (-r)

theorem SpellsMagnitude.unique {places places' : Nat} {text : List Char} {r s : ℚ}
    (hr : SpellsMagnitude places text r) (hs : SpellsMagnitude places' text s) :
    places = places' ∧ r = s := by
  generalize htext : text = text' at hs
  obtain @⟨whole, fraction, hwhole, hlength, hdigits⟩ := hr
  obtain @⟨whole', fraction', hwhole', hlength', hdigits'⟩ := hs
  obtain ⟨rfl, hrest⟩ := Text.run_append_inj (p := Char.isDigit)
    (fun c hc => hdigits c (List.mem_append_left _ hc))
    (fun c hc => hdigits' c (List.mem_append_left _ hc)) (by simp) (by simp) htext
  obtain rfl := List.tail_eq_of_cons_eq hrest
  obtain rfl := hlength.symm.trans hlength'
  exact ⟨rfl, rfl⟩

theorem SpellsMagnitude.digit_or_point {places : Nat} {text : List Char} {r : ℚ}
    (h : SpellsMagnitude places text r) : ∀ c ∈ text, c.isDigit = true ∨ c = '.' := by
  obtain ⟨hwhole, hlength, hdigits⟩ := h
  intro c hc
  rcases List.mem_append.mp hc with hc | hc
  · exact .inl (hdigits c (List.mem_append_left _ hc))
  · rcases List.mem_cons.mp hc with rfl | hc
    · exact .inr rfl
    · exact .inl (hdigits c (List.mem_append_right _ hc))

theorem SpellsMagnitude.not_minus {places : Nat} {text : List Char} {r : ℚ}
    (h : SpellsMagnitude places ('-' :: text) r) : False := by
  rcases h.digit_or_point '-' List.mem_cons_self with hdigit | hpoint
  · exact absurd hdigit (by decide)
  · exact absurd hpoint (by decide)

/-- A text spells one number at most. -/
theorem SpellsDecimal.unique {places places' : Nat} {text : List Char} {r s : ℚ}
    (hr : SpellsDecimal places text r) (hs : SpellsDecimal places' text s) :
    places = places' ∧ r = s := by
  cases hr with
  | unsigned hr =>
    cases hs with
    | unsigned hs => exact hr.unique hs
    | minus hs => exact hr.not_minus.elim
  | minus hr =>
    cases hs with
    | unsigned hs => exact hs.not_minus.elim
    | minus hs =>
      obtain ⟨rfl, rfl⟩ := hr.unique hs
      exact ⟨rfl, rfl⟩

theorem Pointed.spells {places n : Nat} {whole fraction : List Char}
    (h : Pointed places n whole fraction) :
    SpellsMagnitude places (whole ++ '.' :: fraction) (n / 10 ^ places) := by
  have hspells := SpellsMagnitude.intro h.whole_ne_nil h.length_fraction h.digits
  rwa [h.denoted_eq] at hspells

/-- The digits of a number, with a point before the last of them, spell the number divided by a power
of ten. -/
theorem spellsMagnitude_withPoint (places n : Nat) :
    SpellsMagnitude places (withPoint places n) (n / 10 ^ places) := by
  obtain ⟨whole, fraction, h⟩ := exists_pointed places n
  rw [h.text_eq]
  exact h.spells

end MarketQuery.Decimal
