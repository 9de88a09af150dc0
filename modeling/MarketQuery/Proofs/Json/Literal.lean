import Mathlib.Data.List.DropRight
import Mathlib.Tactic.IntervalCases
import MarketQuery.Json.Printer
import MarketQuery.Json.Reader
import MarketQuery.Proofs.Answer.PathReading

/-!
The texts of numbers as literals. A literal is an optional minus sign and a body over which the
reader's number parts lead to a part where a number may end. The shortest digits of a positive
float begin with a digit that is not zero, so the text of every number is a literal, except for the
three words of the floats that are not finite. The digits of a word of 64 bits read as that word.
-/
namespace MarketQuery

namespace Decimal

/-- Digits of which the first is not zero. -/
structure IsNumeral (ds : List Char) : Prop where
  digits : ∀ c ∈ ds, c.isDigit = true
  head : ∃ c rest, ds = c :: rest ∧ c ≠ '0'

theorem isDigit_of_mem_digits {n : Nat} {c : Char} (h : c ∈ digits n) : c.isDigit = true :=
  Nat.isDigit_of_mem_toDigits (by decide) (by decide) h

theorem digitChar_ne_zero {n : Nat} (hpos : 0 < n) (hlt : n < 10) : n.digitChar ≠ '0' := by
  interval_cases n <;> decide

theorem isNumeral_digits {n : Nat} (h : 0 < n) : IsNumeral (digits n) := by
  refine ⟨fun c => isDigit_of_mem_digits, ?_⟩
  induction n using Nat.strong_induction_on with
  | _ n ih =>
    by_cases hlt : n < 10
    · exact ⟨n.digitChar, [], Nat.toDigits_of_lt_base hlt, digitChar_ne_zero h hlt⟩
    · obtain ⟨c, rest, hdigits, hc⟩ := ih (n / 10) (by omega) (by omega)
      refine ⟨c, rest ++ [(n % 10).digitChar], ?_, hc⟩
      rw [digits, Nat.toDigits_of_base_le (by decide) (by omega)]
      exact congrArg (· ++ [(n % 10).digitChar]) hdigits

/-- Cutting off the zeros at the end leaves a numeral. -/
theorem IsNumeral.trimmed {ds : List Char} (h : IsNumeral ds) :
    IsNumeral (ds.rdropWhile (· == '0')) := by
  obtain ⟨back, hback⟩ := List.rdropWhile_prefix (p := (· == '0')) (l := ds)
  obtain ⟨c, rest, hds, hc⟩ := h.head
  refine ⟨fun d hd => h.digits d ?_, ?_⟩
  · rw [← hback]
    exact List.mem_append_left _ hd
  · cases htrimmed : ds.rdropWhile (· == '0') with
    | nil =>
      have hzero := List.rdropWhile_eq_nil_iff.mp htrimmed c (by simp [hds])
      exact absurd (by simpa using hzero) hc
    | cons d front =>
      rw [htrimmed, hds, List.cons_append, List.cons.injEq] at hback
      exact ⟨d, front, rfl, hback.1 ▸ hc⟩

theorem isNumeral_of {k : Nat} (h : 0 < k) (place : Int) : IsNumeral (Digits.of k place).digits :=
  (isNumeral_digits h).trimmed

theorem Interval.holds_of_nearest {v : Interval} {tie : Tie} {k : Nat}
    (h : v.nearest? tie = some k) : v.holds k = true := by
  unfold Interval.nearest? at h
  dsimp only at h
  have hneighbour : (v.holds (v.mid / v.den) = true ∧ k = v.mid / v.den) ∨
      (v.holds (v.mid / v.den + 1) = true ∧ k = v.mid / v.den + 1) := by
    cases hlow : v.holds (v.mid / v.den) <;> cases hhigh : v.holds (v.mid / v.den + 1) <;>
      simp only [hlow, hhigh] at h <;> grind
  rcases hneighbour with ⟨hholds, rfl⟩ | ⟨hholds, rfl⟩ <;> exact hholds

/-- An interval that lies above zero holds nothing but positive numbers. -/
theorem Interval.pos_of_holds {v : Interval} {k : Nat} (hlow : 0 < v.low)
    (h : v.holds k = true) : 0 < k := by
  rcases Nat.eq_zero_or_pos k with rfl | hk
  · simp [Interval.holds] at h
    omega
  · exact hk

theorem low_interval_pos (p : Precision) {m : Nat} (hm : 0 < m) (q : Int) :
    0 < (interval p m q).low := by
  refine Nat.mul_pos ?_ (Nat.pow_pos (by decide))
  split <;> omega

theorem isNumeral_shortest (p : Precision) (tie : Tie) {m : Nat} (hm : 0 < m) (q : Int) :
    IsNumeral (shortest p tie m q).digits := by
  let v := interval p m q
  let found := (List.range 17).findSome? fun (n : Nat) =>
    ((v.inUnits (leadingExponent v.mid v.den - n)).nearest? tie).map fun k =>
      Digits.of k (leadingExponent v.mid v.den - n)
  change IsNumeral (found.getD (Digits.of m q)).digits
  cases hfound : found with
  | none => exact isNumeral_of hm q
  | some d =>
    obtain ⟨n, -, hn⟩ := List.exists_of_findSome?_eq_some hfound
    obtain ⟨k, hk, rfl⟩ := Option.map_eq_some_iff.mp hn
    have hlow : 0 < (v.inUnits (leadingExponent v.mid v.den - n)).low :=
      Nat.mul_pos (low_interval_pos p hm q) (Nat.pow_pos (by decide))
    exact isNumeral_of (Interval.pos_of_holds hlow (Interval.holds_of_nearest hk)) _

end Decimal

namespace Reader

/-- The part of a number in which a text ends, if a number may go on so. -/
def NumberPart.run? (part : NumberPart) (text : List Char) : Option NumberPart :=
  text.foldlM NumberPart.next? part

/-- The text of a JSON number without its sign. -/
def IsMagnitude (text : List Char) : Prop :=
  ∃ last, NumberPart.minus.run? text = some last ∧ last.mayEnd = true

def IsLiteral (text : List Char) : Prop :=
  ∃ body, (text = body ∨ text = '-' :: body) ∧ IsMagnitude body

namespace NumberPart

theorem run?_append {part mid : NumberPart} {front back : List Char}
    (h : part.run? front = some mid) : part.run? (front ++ back) = mid.run? back := by
  rw [run?, List.foldlM_append]
  exact congrArg (· >>= fun next => back.foldlM NumberPart.next? next) h

theorem run?_cons {part next : NumberPart} {c : Char} {rest : List Char}
    (h : part.next? c = some next) : part.run? (c :: rest) = next.run? rest := by
  rw [run?, List.foldlM_cons, h]
  rfl

/-- A part that goes on with a digit goes on with any number of them. -/
theorem run?_digits {part : NumberPart} (hpart : ∀ c, c.isDigit = true → part.next? c = some part)
    {ds : List Char} (h : ∀ c ∈ ds, c.isDigit = true) : part.run? ds = some part := by
  induction ds with
  | nil => rfl
  | cons c rest ih =>
    rw [run?_cons (hpart c (h c (by simp)))]
    exact ih fun d hd => h d (by simp [hd])

theorem run?_more {part next : NumberPart}
    (hpart : ∀ c, c.isDigit = true → part.next? c = some next)
    (hnext : ∀ c, c.isDigit = true → next.next? c = some next) {ds : List Char} (hne : ds ≠ [])
    (h : ∀ c ∈ ds, c.isDigit = true) : part.run? ds = some next := by
  obtain ⟨c, rest, rfl⟩ := List.exists_cons_of_ne_nil hne
  rw [run?_cons (hpart c (h c (by simp)))]
  exact run?_digits hnext fun d hd => h d (by simp [hd])

theorem run?_numeral {ds : List Char} (h : Decimal.IsNumeral ds) :
    NumberPart.minus.run? ds = some .whole := by
  obtain ⟨c, rest, rfl, hc⟩ := h.head
  have hfirst : NumberPart.minus.next? c = some .whole := by
    simp [next?, hc, h.digits c (by simp)]
  rw [run?_cons hfirst]
  exact run?_digits (fun d hd => by simp [next?, hd]) fun d hd => h.digits d (by simp [hd])

theorem run?_point {ds : List Char} (hne : ds ≠ []) (h : ∀ c ∈ ds, c.isDigit = true) :
    NumberPart.point.run? ds = some .fraction :=
  run?_more (fun d hd => by simp [next?, hd]) (fun d hd => by simp [next?, hd]) hne h

theorem run?_decimal {whole ds : List Char} {part : NumberPart}
    (hpart : part = .zero ∨ part = .whole) (hwhole : NumberPart.minus.run? whole = some part)
    (hne : ds ≠ []) (h : ∀ c ∈ ds, c.isDigit = true) :
    NumberPart.minus.run? (whole ++ '.' :: ds) = some .fraction := by
  have hpoint : part.next? '.' = some .point := by
    rcases hpart with rfl | rfl <;> rfl
  rw [run?_append hwhole, run?_cons hpoint]
  exact run?_point hne h

theorem run?_zeroPoint {ds : List Char} (hne : ds ≠ []) (h : ∀ c ∈ ds, c.isDigit = true) :
    NumberPart.minus.run? ('0' :: '.' :: ds) = some .fraction := by
  have hzero : NumberPart.minus.run? ['0'] = some .zero := rfl
  exact run?_decimal (.inl rfl) hzero hne h

/-- A number whose digits have ended goes on with a power of ten. -/
theorem run?_power {mantissa sign : List Char} {part : NumberPart}
    (hpart : part = .whole ∨ part = .fraction)
    (hmantissa : NumberPart.minus.run? mantissa = some part)
    (hsign : sign = [] ∨ sign = ['-'] ∨ sign = ['+']) (n : Nat) :
    NumberPart.minus.run? (mantissa ++ 'e' :: sign ++ Decimal.digits n) = some .exponent := by
  have hmark : part.next? 'e' = some .mark := by
    rcases hpart with rfl | rfl <;> rfl
  have hdigits : ∀ c ∈ Decimal.digits n, c.isDigit = true := fun c => Decimal.isDigit_of_mem_digits
  have hgrows : ∀ c, c.isDigit = true → exponent.next? c = some .exponent := fun c hc => by
    simp [next?, hc]
  rw [List.append_assoc, run?_append hmantissa, List.cons_append, run?_cons hmark]
  rcases hsign with rfl | hsigned
  · exact run?_more (fun c hc => by simp [next?, hc]) hgrows Nat.toDigits_ne_nil hdigits
  · have hmarkSign : NumberPart.mark.run? sign = some .markSign := by
      rcases hsigned with rfl | rfl <;> rfl
    rw [run?_append hmarkSign]
    exact run?_more (fun c hc => by simp [next?, hc]) hgrows Nat.toDigits_ne_nil hdigits

end NumberPart

end Reader

namespace Decimal

open Reader

theorem isMagnitude_plain {d : Digits} (h : IsNumeral d.digits) :
    IsMagnitude (plain d) := by
  obtain ⟨c, rest, hds, hc⟩ := h.head
  unfold plain
  dsimp only
  -- The first digit stands after the point, or all digits before it, or the point parts them.
  split
  · refine ⟨.fraction, NumberPart.run?_zeroPoint (by simp [hds]) fun e he => ?_, rfl⟩
    rcases List.mem_append.mp he with hzero | hdigit
    · rw [List.eq_of_mem_replicate hzero]
      rfl
    · exact h.digits e hdigit
  · split
    · have hwhole : NumberPart.minus.run?
          (d.digits ++ List.replicate (d.lead.toNat + 1 - d.digits.length) '0') = some .whole := by
        rw [NumberPart.run?_append (NumberPart.run?_numeral h)]
        refine NumberPart.run?_digits (fun e he => by simp [NumberPart.next?, he]) fun e he => ?_
        rw [List.eq_of_mem_replicate he]
        rfl
      have hzero : ∀ e ∈ ['0'], e.isDigit = true := List.all_eq_true.mp rfl
      exact ⟨.fraction, NumberPart.run?_decimal (.inr rfl) hwhole (by simp) hzero, rfl⟩
    · next hlong =>
      have hwhole : IsNumeral (d.digits.take (d.lead.toNat + 1)) :=
        ⟨fun e he => h.digits e (List.mem_of_mem_take he), c, rest.take d.lead.toNat,
          by rw [hds, List.take_succ_cons], hc⟩
      have hrest : d.digits.drop (d.lead.toNat + 1) ≠ [] := by
        rw [ne_eq, List.drop_eq_nil_iff]
        omega
      exact ⟨.fraction, NumberPart.run?_decimal (.inr rfl) (NumberPart.run?_numeral hwhole) hrest
        fun e he => h.digits e (List.mem_of_mem_drop he), rfl⟩

theorem isMagnitude_scientific {d : Digits} (h : IsNumeral d.digits) (plus : Bool) :
    IsMagnitude (scientific plus d) := by
  refine ⟨.exponent, ?_, rfl⟩
  have hsign : let sign := if d.lead < 0 then ['-'] else if plus then ['+'] else []
      sign = [] ∨ sign = ['-'] ∨ sign = ['+'] := by
    dsimp only
    split_ifs <;> simp
  obtain ⟨c, rest, hds, hc⟩ := h.head
  have hfirst : NumberPart.minus.run? [c] = some .whole :=
    NumberPart.run?_numeral ⟨fun e he => h.digits e (by simp_all), c, [], rfl, hc⟩
  unfold scientific
  rw [hds]
  cases rest with
  | nil => exact NumberPart.run?_power (.inl rfl) hfirst hsign _
  | cons e rest =>
    have hmantissa : NumberPart.minus.run? (c :: '.' :: e :: rest) = some .fraction :=
      NumberPart.run?_decimal (.inr rfl) hfirst (by simp) fun f hf => h.digits f (by simp_all)
    exact NumberPart.run?_power (.inr rfl) hmantissa hsign _

theorem isMagnitude_digitsText (l : Layout) {d : Digits} (h : IsNumeral d.digits) :
    IsMagnitude (l.digitsText d) := by
  unfold Layout.digitsText
  split
  · exact isMagnitude_plain h
  · exact isMagnitude_scientific h _

/-- A float is written as a literal, or as one of the words for what is not finite. -/
theorem isLiteral_layoutText (l : Layout) (p : Precision) (b : Binary) :
    IsLiteral (l.text p b) ∨ l.text p b ∈ ["NaN".toList, "-inf".toList, "inf".toList] := by
  cases b with
  | nan negative payload => simp [Layout.text]
  | infinite negative => cases negative <;> simp [Layout.text]
  | finite negative m q =>
    have hsigned : ∀ body, (if negative then ['-'] else []) ++ body = body ∨
        (if negative then ['-'] else []) ++ body = '-' :: body := fun body => by
      cases negative <;> simp
    left
    rw [Layout.text]
    refine ⟨_, hsigned _, ?_⟩
    rcases Nat.eq_zero_or_pos m with rfl | hm
    · exact ⟨.fraction, rfl, rfl⟩
    · rw [if_neg (Nat.ne_of_gt hm)]
      exact isMagnitude_digitsText l (isNumeral_shortest p l.tie hm q)

theorem isMagnitude_digits (n : Nat) : IsMagnitude (digits n) := by
  rcases Nat.eq_zero_or_pos n with rfl | hn
  · exact ⟨.zero, rfl, rfl⟩
  · exact ⟨.whole, NumberPart.run?_numeral (isNumeral_digits hn), rfl⟩

end Decimal

namespace Number

open Reader

theorem isLiteral_literal (n : Number) :
    IsLiteral n.literal ∨ n.literal ∈ ["NaN".toList, "-inf".toList, "inf".toList] := by
  cases n with
  | float x => exact Decimal.isLiteral_layoutText _ _ _
  | int i =>
    refine .inl ⟨Decimal.digits i.natAbs, ?_, Decimal.isMagnitude_digits _⟩
    change (if i < 0 then _ else _) = _ ∨ (if i < 0 then _ else _) = _
    split <;> simp

/-- The digits of a word of 64 bits read as that word. -/
theorem ofLiteral?_digits {n : Nat} (h : n < Decimal.wordLimit) :
    ofLiteral? (Decimal.digits n) = some (.int n) := by
  have hdigits : ∀ c ∈ Decimal.digits n, c.isDigit = true := fun c => Decimal.isDigit_of_mem_digits
  have hunsigned : ((Decimal.digits n).head? == some '-') = false := by
    cases hhead : (Decimal.digits n).head? with
    | none => rfl
    | some c =>
      have hc := hdigits c (List.mem_of_head? hhead)
      rw [beq_eq_false_iff_ne]
      intro heq
      obtain rfl := Option.some.inj heq
      exact absurd hc (by decide)
  have hspelled : Decimal.unsigned? (Decimal.digits n) = some ⟨Decimal.digits n, [], 0⟩ := by
    have htake := List.takeWhile_eq_self_iff.mpr hdigits
    have hdrop := List.dropWhile_eq_nil_iff.mpr hdigits
    have hne : Decimal.digits n ≠ [] := Nat.toDigits_ne_nil
    simp [Decimal.unsigned?, htake, hdrop, hne, Decimal.exponent?]
  have hall : (Decimal.digits n).all Char.isDigit = true := List.all_eq_true.mpr hdigits
  simp [ofLiteral?, hunsigned, hspelled, hall, Decimal.value_digits, h]

end Number

def Text.Flat (text : List Char) : Prop :=
  ∀ c ∈ text, 0x20 ≤ c.toNat

theorem Text.flat_of_all {text : List Char} (h : (text.all fun c => 0x20 ≤ c.toNat) = true) :
    Flat text := by
  simpa [Flat] using h

namespace Reader

theorem flat_of_isDigit {c : Char} (h : c.isDigit = true) : 0x20 ≤ c.toNat := by
  have hdigit := (Char.isDigit_iff_toNat.mp h).1
  exact Nat.le_trans (by decide) hdigit

theorem NumberPart.flat_of_next {part next : NumberPart} {c : Char}
    (h : part.next? c = some next) : 0x20 ≤ c.toNat := by
  have hmarks : Text.Flat ['0', '.', 'e', 'E', '+', '-'] := Text.flat_of_all rfl
  have hc : c.isDigit = true ∨ c ∈ ['0', '.', 'e', 'E', '+', '-'] := by
    cases part <;> grind [NumberPart.next?]
  rcases hc with hdigit | hmark
  · exact flat_of_isDigit hdigit
  · exact hmarks c hmark

theorem NumberPart.flat_of_run {part last : NumberPart} {text : List Char}
    (h : part.run? text = some last) : Text.Flat text := by
  induction text generalizing part with
  | nil => simp [Text.Flat]
  | cons c rest ih =>
    cases hnext : part.next? c with
    | none => simp [run?, hnext] at h
    | some next =>
      rw [run?_cons hnext] at h
      exact List.forall_mem_cons.mpr ⟨flat_of_next hnext, ih h⟩

end Reader

theorem Number.flat_literal (n : Number) : Text.Flat n.literal := by
  rcases n.isLiteral_literal with ⟨body, htext, last, hrun, -⟩ | hword
  · have hbody := Reader.NumberPart.flat_of_run hrun
    rcases htext with htext | htext
    · exact htext ▸ hbody
    · rw [htext]
      exact List.forall_mem_cons.mpr ⟨by decide, hbody⟩
  · simp only [List.mem_cons, List.not_mem_nil, or_false] at hword
    rcases hword with hword | hword | hword <;> exact hword ▸ Text.flat_of_all rfl

end MarketQuery
