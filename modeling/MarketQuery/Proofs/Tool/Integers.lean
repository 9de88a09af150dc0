import MarketQuery.Proofs.Decimal.Numerals
import MarketQuery.Proofs.Json.Numbers
import MarketQuery.Tool.Parameter

/-!
What integer parameters make of a value. A value stands for a number if it is one, or is a text
with an integer in decimal. A text is accepted exactly if its integer has 64 bits. A number is
accepted exactly if it is whole: as itself if it has 64 bits, otherwise as the least or the greatest
integer that has. So nothing is changed but whole numbers beyond 64 bits, which should be refused.
-/
namespace MarketQuery

open Decimal (IsInt64 SpellsInteger signedLimit)

theorem clampInt64_eq_self {z : Int} (h : IsInt64 z) : clampInt64 z = z := by
  obtain ⟨hlow, hhigh⟩ := h
  rw [clampInt64]
  omega

theorem isInt64_clampInt64 (z : Int) : IsInt64 (clampInt64 z) := by
  rw [IsInt64, clampInt64, signedLimit]
  omega

theorem Number.lt_of_integral? {n : Number} {i : Int} (h : n.integral? = some i) :
    i < signedLimit := by
  unfold integral? at h
  split at h
  · next k hk =>
    obtain rfl := Option.some.inj h
    cases n with
    | int j =>
      obtain ⟨hlt, rfl⟩ : j < signedLimit ∧ j = k := by simpa [int64?] using hk
      exact hlt
    | float x => simp [int64?] at hk
  · obtain ⟨z, -, rfl⟩ := Option.map_eq_some_iff.mp h
    exact (isInt64_clampInt64 z).2

/-- The integer of a number is the nearest one of 64 bits, if the number is whole. -/
theorem Number.IsProper.integral?_eq_some_iff {n : Number} (h : n.IsProper) {i : Int} :
    n.integral? = some i ↔ ∃ z : Int, n.value? = some (z : ℚ) ∧ clampInt64 z = i := by
  cases n with
  | float x =>
    change (Decimal.ofFloat x).integer?.map clampInt64 = some i ↔ _
    simp only [Option.map_eq_some_iff, Decimal.Binary.integer?_eq_some_iff, value?]
  | int k =>
    have hvalue : ∀ z : Int, (int k).value? = some (z : ℚ) ↔ z = k := by
      intro z
      rw [value?, Option.some.injEq, Int.cast_inj, eq_comm]
    simp only [hvalue, exists_eq_left]
    obtain ⟨hlow, hhigh⟩ := h
    by_cases hfits : k < signedLimit
    · rw [clampInt64_eq_self ⟨hlow, hfits⟩]
      simp [integral?, int64?, hfits]
    · -- The float of the word may be another number, but it is beyond the limit as the word is.
      obtain ⟨z, hz, hlarge⟩ := Decimal.exists_integer?_ofInt (Int.not_lt.mp hfits) hhigh
      have hclamp : clampInt64 z = clampInt64 k := by
        rw [clampInt64, clampInt64]
        omega
      simp [integral?, int64?, hfits, toFloat, hz, hclamp]

namespace Json

/-- The number that a value stands for: itself, or the integer in a text between blanks. -/
inductive Denotes : Json → ℚ → Prop
  | number {n : Number} {r : ℚ} (h : n.value? = some r) : Denotes (.number n) r
  | text {s : String} {i : Int} (h : SpellsInteger (Text.trim s.toList) i) : Denotes (.string s) i

theorem denotes_number {n : Number} {r : ℚ} : (number n).Denotes r ↔ n.value? = some r := by
  constructor
  · rintro ⟨h⟩
    exact h
  · exact .number

theorem denotes_number_inj {n : Number} {y z : Int} (hy : (number n).Denotes y)
    (hz : (number n).Denotes z) : y = z := by
  rw [denotes_number] at hy hz
  exact Int.cast_injective (Option.some.inj (hy.symm.trans hz))

theorem denotes_string {s : String} {z : Int} :
    (string s).Denotes z ↔ SpellsInteger (Text.trim s.toList) z := by
  constructor
  · intro h
    generalize hr : (z : ℚ) = r at h
    cases h with
    | text hspells =>
      obtain rfl := Int.cast_injective hr
      exact hspells
  · exact .text

/-- What integer parameters are meant to do with a value. If it is accepted, the argument is the
integer of 64 bits that it stands for; if it stands for none, it is refused. -/
structure IntegerKept (v : Json) : Prop where
  exact : ∀ a, ParameterKind.integer.coerce v = .ok a →
    ∃ i, a = .integer i ∧ IsInt64 i ∧ v.Denotes i
  refused : (∀ i, IsInt64 i → ¬ v.Denotes i) →
    ∃ fault, ParameterKind.integer.coerce v = .error fault

theorem coerce_integer_number {n : Number} (h : n.IsProper) {a : Argument} :
    ParameterKind.integer.coerce (.number n) = .ok a ↔
      ∃ z : Int, n.value? = some (z : ℚ) ∧ a = .integer (clampInt64 z) := by
  rw [ParameterKind.coerce]
  cases hread : n.integral? with
  | none =>
    refine ⟨fun heq => by simp at heq, ?_⟩
    rintro ⟨z, hz, -⟩
    rw [h.integral?_eq_some_iff.mpr ⟨z, hz, rfl⟩] at hread
    simp at hread
  | some i =>
    obtain ⟨z, hz, rfl⟩ := h.integral?_eq_some_iff.mp hread
    simp [hz, eq_comm]

theorem coerce_integer_string {s : String} {a : Argument} :
    ParameterKind.integer.coerce (.string s) = .ok a ↔
      ∃ i, SpellsInteger (Text.trim s.toList) i ∧ IsInt64 i ∧ a = .integer i := by
  rw [ParameterKind.coerce]
  simp only [← and_assoc, ← Decimal.integerOfBits?_eq_some_iff]
  cases hread : Decimal.integerOfBits? 64 (Text.trim s.toList) with
  | none => simp
  | some i => simp [eq_comm]

/-- A value is accepted if it stands for an integer. A text has to spell one of 64 bits; a whole
number becomes the nearest one. -/
theorem coerce_integer_eq_ok_iff {v : Json} (hproper : v.IsProper) {a : Argument} :
    ParameterKind.integer.coerce v = .ok a ↔
      ∃ z : Int, v.Denotes z ∧ ((∃ s, v = .string s) → IsInt64 z) ∧ a = .integer (clampInt64 z) := by
  cases v with
  | number n =>
    have hnumber : n.IsProper := hproper
    simp [coerce_integer_number hnumber, denotes_number]
  | string s =>
    simp only [coerce_integer_string, denotes_string, exists_apply_eq_apply', forall_const]
    refine exists_congr fun z => and_congr_right fun _ => and_congr_right fun hz => ?_
    rw [clampInt64_eq_self hz]
  | null | bool _ | array _ | object _ =>
    refine ⟨fun heq => by simp [ParameterKind.coerce] at heq, ?_⟩
    rintro ⟨z, ⟨⟩, -⟩

/-- What integer parameters do with the values that can be read. A text is accepted exactly if it
spells an integer of 64 bits, and becomes this integer. A number is accepted exactly if it is whole,
and becomes the nearest integer of 64 bits. So the number that is meant is kept, and what stands for
no integer of 64 bits is refused, exactly if the value is no whole number beyond 64 bits. -/
theorem integerKept_iff {v : Json} (hproper : v.IsProper) :
    (∀ a, ParameterKind.integer.coerce v = .ok a ↔
      ∃ z : Int, v.Denotes z ∧ ((∃ s, v = .string s) → IsInt64 z) ∧
        a = .integer (clampInt64 z)) ∧
    (v.IntegerKept ↔ ∀ n (z : Int), v = .number n → v.Denotes z → IsInt64 z) := by
  refine ⟨fun a => coerce_integer_eq_ok_iff hproper, ?_⟩
  constructor
  · rintro hkept n z rfl hz
    obtain ⟨i, -, hi, hdenotes⟩ := hkept.exact _ ((coerce_integer_eq_ok_iff hproper).mpr
      ⟨z, hz, fun ⟨s, hs⟩ => by simp at hs, rfl⟩)
    obtain rfl := denotes_number_inj hdenotes hz
    exact hi
  · intro hwithin
    have hexact : ∀ a, ParameterKind.integer.coerce v = .ok a →
        ∃ i, a = .integer i ∧ IsInt64 i ∧ v.Denotes i := by
      intro a ha
      obtain ⟨z, hz, htext, rfl⟩ := (coerce_integer_eq_ok_iff hproper).mp ha
      have hfits : IsInt64 z := by
        cases id hz with
        | number h => exact hwithin _ z rfl hz
        | text h => exact htext ⟨_, rfl⟩
      exact ⟨z, by rw [clampInt64_eq_self hfits], hfits, hz⟩
    refine ⟨hexact, fun hnone => ?_⟩
    cases hcoerce : ParameterKind.integer.coerce v with
    | error fault => exact ⟨fault, rfl⟩
    | ok a =>
      obtain ⟨i, -, hi, hdenotes⟩ := hexact a hcoerce
      exact absurd hdenotes (hnone i hi)

/-- The least integer of 64 bits, as a float, is kept. -/
theorem integerKept_iff_least :
    let v : Json := .number (.float (-9223372036854775808.0))
    v.IsProper ∧ v.IntegerKept ∧
      ParameterKind.integer.coerce v = .ok (.integer (-9223372036854775808)) := by
  intro v
  have hproper : v.IsProper := rfl
  have hfloat : Decimal.ofFloat (-9223372036854775808.0) = .finite true (2 ^ 52) 11 := by
    decide +kernel
  have hvalue : v.Denotes (-9223372036854775808 : Int) := by
    refine .number ?_
    rw [Number.value?, hfloat, Decimal.Binary.value?, Decimal.signedValue]
    norm_num
  obtain ⟨haccepts, hkept⟩ := integerKept_iff hproper
  refine ⟨hproper, hkept.mpr ?_, (haccepts _).mpr ⟨_, hvalue, ?_, rfl⟩⟩
  · rintro n z heq hz
    obtain rfl := Json.number.inj heq
    obtain rfl := denotes_number_inj hvalue hz
    exact ⟨by decide, by decide⟩
  · rintro ⟨s, hs⟩
    simp [v] at hs

/-- The integer after the greatest one of 64 bits becomes the greatest one. -/
theorem integer_beyond_kept :
    let v : Json := .number (.int 9223372036854775808)
    v.IsProper ∧ ¬ v.IntegerKept ∧
      ParameterKind.integer.coerce v = .ok (.integer 9223372036854775807) := by
  intro v
  have hread : (Number.int 9223372036854775808).integral? = some 9223372036854775807 := by
    decide +kernel
  have hcoerce : ParameterKind.integer.coerce v = .ok (.integer 9223372036854775807) := by
    simp only [v, ParameterKind.coerce, hread]
  have hproper : v.IsProper := ⟨by decide, by decide⟩
  refine ⟨hproper, fun hkept => ?_, hcoerce⟩
  obtain ⟨i, heq, -, hdenotes⟩ := hkept.exact _ hcoerce
  obtain rfl := Argument.integer.inj heq
  rw [denotes_number] at hdenotes
  simp [Number.value?] at hdenotes

end Json

end MarketQuery
