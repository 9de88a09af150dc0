import MarketQuery.Json.Value
import MarketQuery.Proofs.Decimal.Integers
import MarketQuery.Proofs.Decimal.Numerals
import MarketQuery.Proofs.Json.Equality

/-!
The numbers in JSON values. A number that is read from a text is an integer of 64 bits, with a sign
or without one, or a finite float. Each of these stands for one number, and has a finite float. A
float is read from all of its digits if they fit into a word, but not always to the nearest float.
-/
namespace MarketQuery

namespace Decimal

theorem takeDigits_of_lt {word : Nat} {ds : List Char}
    (h : ds.foldl (fun n c => 10 * n + digitValue c) word < wordLimit) :
    takeDigits word ds = (ds.foldl (fun n c => 10 * n + digitValue c) word, []) := by
  induction ds generalizing word with
  | nil => rfl
  | cons c rest ih =>
    rw [List.foldl_cons] at h ⊢
    have hnext : 10 * word + digitValue c < wordLimit := by
      have hpos : 0 < 10 ^ rest.length := Nat.pow_pos (by decide)
      have hle := Nat.le_mul_of_pos_left (10 * word + digitValue c) hpos
      rw [foldl_digits] at h
      omega
    rw [takeDigits]
    simp only [hnext, if_true]
    exact ih h

/-- No digit is dropped from a number whose digits fit into a word. -/
theorem Spelled.parts_of_lt {s : Spelled} (h : value (s.whole ++ s.fraction) < wordLimit) :
    s.parts = (value (s.whole ++ s.fraction), s.exponent - s.fraction.length) := by
  have hwhole : takeDigits 0 s.whole = (value s.whole, []) :=
    takeDigits_of_lt ((value_le_append s.whole s.fraction).trans_lt h)
  rw [value, List.foldl_append] at h ⊢
  have hfraction := takeDigits_of_lt h
  rw [← value] at hfraction ⊢
  simp [parts, hwhole, hfraction]

end Decimal

namespace Number

open Decimal (signedLimit wordLimit)

/-- The numbers that values hold: integers of 64 bits, with or without a sign, and finite floats. -/
def IsProper : Number → Prop
  | int i => -(signedLimit : Int) ≤ i ∧ i < wordLimit
  | float x => x.isFinite = true

def value? : Number → Option ℚ
  | int i => some i
  | float x => (Decimal.ofFloat x).value?

/-- No other numbers are read. -/
theorem isProper_of_ofLiteral? {text : List Char} {n : Number} (h : ofLiteral? text = some n) :
    n.IsProper := by
  have hfloat {negative : Bool} {spelled : Decimal.Spelled}
      (hx : spelled.scaled?.map (fun x => float (if negative then -x else x)) = some n) :
      n.IsProper := by
    obtain ⟨x, hscaled, rfl⟩ := Option.map_eq_some_iff.mp hx
    have hfinite := (Option.filter_eq_some_iff.mp hscaled).2
    cases negative with
    | false => exact hfinite
    | true => exact Decimal.isFinite_neg hfinite
  simp only [ofLiteral?] at h
  generalize (text.head? == some '-') = negative at h
  generalize (if negative = true then text.drop 1 else text) = body at h
  split at h
  · simp at h
  · split at h
    · cases negative with
      | false =>
        rw [if_neg Bool.false_ne_true] at h
        split at h
        · next hlimit =>
          obtain rfl := Option.some.inj h
          simp only [IsProper, signedLimit, wordLimit] at *
          omega
        · exact hfloat h
      | true =>
        rw [if_pos rfl] at h
        split at h
        · next hlimit =>
          obtain rfl := Option.some.inj h
          simp only [IsProper, signedLimit, wordLimit] at *
          omega
        · exact hfloat h
    · exact hfloat h

/-- The digits make a number of 54 bits. It is rounded to a float before the point is put in, and the
nearest float is missed. -/
example : ofLiteral? "1.0001499999999999".toList = some (.float 1.00015) := by
  decide +kernel

theorem IsProper.isFinite_toFloat {n : Number} (h : n.IsProper) : n.toFloat.isFinite = true := by
  cases n with
  | float x => exact h
  | int i =>
    obtain ⟨hlow, hhigh⟩ := h
    rcases Int.lt_or_le i signedLimit with hlt | hge
    · exact Decimal.isFinite_ofInt hlow hlt
    · obtain ⟨n, rfl⟩ := Int.eq_ofNat_of_zero_le (show 0 ≤ i by omega)
      exact (Decimal.within_toFloat (Int.ofNat_lt.mp hhigh)).isFinite

end Number

def Json.IsProper : Json → Prop
  | number n => n.IsProper
  | _ => True

end MarketQuery
