import Mathlib.Data.Nat.Digits.Defs
import MarketQuery.Decimal.Numeral

/-!
What decimal numerals denote. A run of digits is read from the left, and its value is the sum of the
digits, each times a power of ten. A text is read as an integer of 64 bits exactly if it spells one:
the digits of the integer, with a sign in front or without one.
-/
namespace MarketQuery.Decimal

def IsInt64 (i : Int) : Prop :=
  -(signedLimit : Int) ≤ i ∧ i < signedLimit

/-- The number that digits denote: the last counts ones, the one before it tens, and so on. -/
def denoted (ds : List Char) : Nat :=
  Nat.ofDigits 10 (ds.map digitValue).reverse

/-- An integer in decimal: digits, with a sign in front or without one. -/
inductive SpellsInteger : List Char → Int → Prop
  | unsigned {ds : List Char} (hne : ds ≠ []) (hdigits : ∀ c ∈ ds, c.isDigit = true) :
      SpellsInteger ds (denoted ds)
  | plus {ds : List Char} (hne : ds ≠ []) (hdigits : ∀ c ∈ ds, c.isDigit = true) :
      SpellsInteger ('+' :: ds) (denoted ds)
  | minus {ds : List Char} (hne : ds ≠ []) (hdigits : ∀ c ∈ ds, c.isDigit = true) :
      SpellsInteger ('-' :: ds) (-(denoted ds : Int))

theorem foldl_digits (n : Nat) (ds : List Char) :
    ds.foldl (fun n c => 10 * n + digitValue c) n = 10 ^ ds.length * n + denoted ds := by
  induction ds generalizing n with
  | nil => simp [denoted]
  | cons c rest ih =>
    rw [List.foldl_cons, ih, denoted, denoted, List.map_cons, List.reverse_cons,
      Nat.ofDigits_append, Nat.ofDigits_singleton, List.length_reverse, List.length_map,
      List.length_cons, Nat.pow_succ]
    ring

theorem value_eq_denoted (ds : List Char) : value ds = denoted ds := by
  rw [value, foldl_digits, Nat.mul_zero, Nat.zero_add]

/-- More digits make no number smaller. -/
theorem value_le_append (digits more : List Char) : value digits ≤ value (digits ++ more) := by
  rw [value, value, List.foldl_append, foldl_digits _ more]
  exact Nat.le_add_right_of_le (Nat.le_mul_of_pos_left _ (Nat.pow_pos (by decide)))

/-- The digits of an integer are read as the number that they denote. -/
theorem natural?_eq_some_iff {ds : List Char} {i : Int} :
    (do let n ← natural? ds; pure (n : Int)) = some i ↔
      ds ≠ [] ∧ (∀ c ∈ ds, c.isDigit = true) ∧ denoted ds = i := by
  rw [natural?, value_eq_denoted]
  split
  · next h => simp_all
  · next h => simp_all

/-- A text is read as an integer of 64 bits exactly if it spells it. -/
theorem integerOfBits?_eq_some_iff {s : List Char} {i : Int} :
    integerOfBits? 64 s = some i ↔ SpellsInteger s i ∧ IsInt64 i := by
  have hlimit : ((Nat.pow 2 (64 - 1) : Nat) : Int) = signedLimit := rfl
  simp only [integerOfBits?, hlimit, Option.filter_eq_some_iff, decide_eq_true_eq]
  refine and_congr_left fun hi => ?_
  constructor
  · intro h
    split at h
    · obtain ⟨n, hn, rfl⟩ := Option.map_eq_some_iff.mp h
      obtain ⟨hne, hdigits, rfl⟩ := natural?_eq_some_iff.mp hn
      exact .minus hne hdigits
    · obtain ⟨n, hn, rfl⟩ := Option.map_eq_some_iff.mp h
      obtain ⟨hne, hdigits, rfl⟩ := natural?_eq_some_iff.mp hn
      exact .plus hne hdigits
    · obtain ⟨n, hn, rfl⟩ := Option.map_eq_some_iff.mp h
      obtain ⟨hne, hdigits, rfl⟩ := natural?_eq_some_iff.mp hn
      exact .unsigned hne hdigits
  · intro h
    cases h with
    | unsigned hne hdigits =>
      split
      · exact absurd (hdigits '-' List.mem_cons_self) (by decide)
      · exact absurd (hdigits '+' List.mem_cons_self) (by decide)
      · exact Option.map_eq_some_iff.mpr ⟨_, natural?_eq_some_iff.mpr ⟨hne, hdigits, rfl⟩, rfl⟩
    | plus hne hdigits =>
      exact Option.map_eq_some_iff.mpr ⟨_, natural?_eq_some_iff.mpr ⟨hne, hdigits, rfl⟩, rfl⟩
    | minus hne hdigits =>
      exact Option.map_eq_some_iff.mpr ⟨_, natural?_eq_some_iff.mpr ⟨hne, hdigits, rfl⟩, rfl⟩

end MarketQuery.Decimal
