import Mathlib.Algebra.Order.Field.Rat
import Mathlib.Algebra.Order.Field.Power
import Mathlib.Tactic.Linarith
import Mathlib.Tactic.Ring
import MarketQuery.Decimal.Binary

/-!
The order that the keys of floats stand for: the total order of all words. It begins with what is
not a number and has a sign, goes on with the negative infinity, the numbers by value and the
positive infinity, and ends with what is not a number and has no sign; there the payloads decide. Of
the two zeros the negative one stands lower. The bits behind the sign of a word grow with the
magnitude and with the payload that they stand for, and a key turns the words with a sign around.
-/
namespace MarketQuery.Decimal

def signedValue (negative : Bool) (m : Nat) (q : Int) : ℚ :=
  (if negative then -1 else 1) * (m * 2 ^ q)

/-- The five parts of the total order, from the lowest to the highest. -/
def Binary.tier : Binary → Nat
  | .nan true _ => 0
  | .infinite true => 1
  | .finite .. => 2
  | .infinite false => 3
  | .nan false _ => 4

theorem Binary.of_tier_eq {a b : Binary} (h : a.tier = b.tier) :
    (∃ negative negative' m m' q q',
      a = .finite negative m q ∧ b = .finite negative' m' q') ∨
    (∃ negative, a = .infinite negative ∧ b = .infinite negative) ∨
    (∃ negative payload payload', a = .nan negative payload ∧ b = .nan negative payload') := by
  unfold tier at h
  split at h <;> split at h <;> simp_all

/-- The first stands lower in the total order. -/
inductive Below : Binary → Binary → Prop
  | tier {a b : Binary} (h : a.tier < b.tier) : Below a b
  | negativePayload {payload payload' : Nat} (h : payload' < payload) :
      Below (.nan true payload) (.nan true payload')
  | value {negative negative' : Bool} {m m' : Nat} {q q' : Int}
      (h : signedValue negative m q < signedValue negative' m' q') :
      Below (.finite negative m q) (.finite negative' m' q')
  | zeros {q q' : Int} : Below (.finite true 0 q) (.finite false 0 q')
  | positivePayload {payload payload' : Nat} (h : payload < payload') :
      Below (.nan false payload) (.nan false payload')

theorem Below.tier_le {a b : Binary} (h : Below a b) : a.tier ≤ b.tier := by
  cases h with
  | tier hlt => exact hlt.le
  | negativePayload hlt => exact le_rfl
  | value hlt => exact le_rfl
  | zeros => exact le_rfl
  | positivePayload hlt => exact le_rfl

theorem Below.asymm {a b : Binary} (h : Below a b) : ¬ Below b a := by
  intro hback
  cases h with
  | tier hlt => exact hlt.not_ge hback.tier_le
  | negativePayload hlt =>
    cases hback with
    | tier hgt => exact lt_irrefl _ hgt
    | negativePayload hgt => exact lt_asymm hlt hgt
  | value hlt =>
    cases hback with
    | tier hgt => exact lt_irrefl _ hgt
    | value hgt => exact lt_asymm hlt hgt
    | zeros => simp [signedValue] at hlt
  | zeros =>
    cases hback with
    | tier hgt => exact lt_irrefl _ hgt
    | value hgt => simp [signedValue] at hgt
  | positivePayload hlt =>
    cases hback with
    | tier hgt => exact lt_irrefl _ hgt
    | positivePayload hgt => exact lt_asymm hlt hgt

def infinityBits : Nat := 0x7FF0000000000000

/-- The magnitude of a finite number in units of the smallest positive float. -/
def units (bits : Nat) : Nat :=
  if bits / 2 ^ 52 = 0 then bits else (2 ^ 52 + bits % 2 ^ 52) * 2 ^ (bits / 2 ^ 52 - 1)

theorem units_strictMono : StrictMono units := by
  intro a b hlt
  have hdiv : a / 2 ^ 52 ≤ b / 2 ^ 52 := Nat.div_le_div_right hlt.le
  have ha := Nat.div_add_mod a (2 ^ 52)
  have hb := Nat.div_add_mod b (2 ^ 52)
  have hmod : a % 2 ^ 52 < 2 ^ 52 := Nat.mod_lt a (by decide)
  unfold units
  split
  · next hfield =>
    split
    · exact hlt
    · have hpow : 1 ≤ 2 ^ (b / 2 ^ 52 - 1) := Nat.one_le_two_pow
      have hbound : 2 ^ 52 ≤ (2 ^ 52 + b % 2 ^ 52) * 2 ^ (b / 2 ^ 52 - 1) :=
        (Nat.le_add_right _ _).trans (Nat.le_mul_of_pos_right _ hpow)
      omega
  · next hfield =>
    rw [if_neg (by omega)]
    rcases hdiv.eq_or_lt with hsame | hless
    · rw [hsame]
      exact Nat.mul_lt_mul_of_pos_right (by omega) (Nat.two_pow_pos _)
    · calc (2 ^ 52 + a % 2 ^ 52) * 2 ^ (a / 2 ^ 52 - 1)
          < 2 ^ 53 * 2 ^ (a / 2 ^ 52 - 1) :=
            Nat.mul_lt_mul_of_pos_right (by omega) (Nat.two_pow_pos _)
        _ = 2 ^ 52 * 2 ^ (a / 2 ^ 52 - 1 + 1) := by ring
        _ ≤ 2 ^ 52 * 2 ^ (b / 2 ^ 52 - 1) :=
            Nat.mul_le_mul_left _ (Nat.pow_le_pow_right (by decide) (by omega))
        _ ≤ (2 ^ 52 + b % 2 ^ 52) * 2 ^ (b / 2 ^ 52 - 1) :=
            Nat.mul_le_mul_right _ (Nat.le_add_right _ _)

inductive Stands (negative : Bool) (bits : Nat) : Binary → Prop
  | finite {m : Nat} {q : Int} (hbits : bits < infinityBits)
      (hvalue : (m * 2 ^ q : ℚ) = units bits * 2 ^ (-1074 : Int)) :
      Stands negative bits (.finite negative m q)
  | infinite (hbits : bits = infinityBits) : Stands negative bits (.infinite negative)
  | nan {payload : Nat} (hpos : 0 < payload) (hbits : bits = infinityBits + payload) :
      Stands negative bits (.nan negative payload)

/-- A word splits into its sign and the bits behind it. -/
structure Splits (word : Nat) (negative : Bool) (bits : Nat) : Prop where
  bits_lt : bits < 2 ^ 63
  word_eq : word = negative.toNat * 2 ^ 63 + bits

theorem exists_splits {word : Nat} (h : word < 2 ^ 64) :
    ∃ negative bits, Splits word negative bits := by
  by_cases hsign : 2 ^ 63 ≤ word
  · exact ⟨true, word - 2 ^ 63, by omega, by simp only [Bool.toNat_true]; omega⟩
  · exact ⟨false, word, by omega, by simp⟩

theorem Splits.decode {word bits : Nat} {negative : Bool} (h : Splits word negative bits) :
    Precision.double.decode word =
      if bits / 2 ^ 52 = 2 ^ 11 - 1 then
        if bits % 2 ^ 52 = 0 then .infinite negative else .nan negative (bits % 2 ^ 52)
      else if bits / 2 ^ 52 = 0 then .finite negative (bits % 2 ^ 52) (-1074)
      else .finite negative (2 ^ 52 + bits % 2 ^ 52) ((bits / 2 ^ 52 : Nat) - 1075) := by
  obtain ⟨hbits, hword⟩ := h
  have hfraction : word % Nat.pow 2 52 = bits % 2 ^ 52 := by
    change word % 2 ^ 52 = _
    omega
  have hfield : word / Nat.pow 2 52 % Nat.pow 2 11 = bits / 2 ^ 52 := by
    change word / 2 ^ 52 % 2 ^ 11 = _
    omega
  have hsign : (word / Nat.pow 2 63 % 2 == 1) = negative := by
    have hdiv : word / Nat.pow 2 63 = negative.toNat := by
      change word / 2 ^ 63 = _
      omega
    rw [hdiv]
    cases negative <;> rfl
  have hexponent : ((bits / 2 ^ 52 : Nat) : Int) - 1075 = (bits / 2 ^ 52 : Nat) - 1023 - 52 := by
    omega
  rw [hexponent]
  simp only [Precision.decode, Precision.double, hfraction, hfield, hsign]
  rfl

theorem Splits.stands {word bits : Nat} {negative : Bool} (h : Splits word negative bits) :
    Stands negative bits (Precision.double.decode word) := by
  have hinfinity : infinityBits = (2 ^ 11 - 1) * 2 ^ 52 := rfl
  rw [h.decode]
  obtain ⟨hbits, -⟩ := h
  split
  · next hfield =>
    split
    · next hfraction => exact .infinite (by omega)
    · next hfraction => exact .nan (by omega) (by omega)
  · next hfield =>
    split
    · next hzero =>
      have hunits : units bits = bits % 2 ^ 52 := by
        rw [units, if_pos hzero]
        omega
      exact .finite (by omega) (by rw [hunits])
    · next hnonzero =>
      have hunits : units bits = (2 ^ 52 + bits % 2 ^ 52) * 2 ^ (bits / 2 ^ 52 - 1) :=
        if_neg hnonzero
      have hexponent : ((bits / 2 ^ 52 : Nat) : Int) - 1075 =
          (bits / 2 ^ 52 - 1 : Nat) + -1074 := by
        omega
      refine .finite (by omega) ?_
      rw [hunits, hexponent, zpow_add₀ two_ne_zero, zpow_natCast, Nat.cast_mul, Nat.cast_pow,
        Nat.cast_two, mul_assoc]

def splitKey (negative : Bool) (bits : Nat) : Int :=
  if negative then -1 - (bits : Int) else bits

@[simp] theorem splitKey_false (bits : Nat) : splitKey false bits = bits := rfl

@[simp] theorem splitKey_true (bits : Nat) : splitKey true bits = -1 - bits := rfl

theorem splitKey_inj {negative negative' : Bool} {bits bits' : Nat} :
    splitKey negative bits = splitKey negative' bits' ↔ negative = negative' ∧ bits = bits' := by
  cases negative <;> cases negative' <;> simp <;> omega

theorem Double.orderKey_eq {x : Double} {negative : Bool} {bits : Nat}
    (h : Splits x.word.toNat negative bits) : x.orderKey = splitKey negative bits := by
  obtain ⟨hbits, hword⟩ := h
  have hlimit : signedLimit = 2 ^ 63 := rfl
  rw [orderKey, hlimit]
  cases negative with
  | false =>
    simp only [Bool.toNat_false] at hword
    rw [if_pos (by omega), splitKey_false]
    omega
  | true =>
    simp only [Bool.toNat_true] at hword
    rw [if_neg (by omega), splitKey_true]
    omega

theorem below_of_units {negative negative' : Bool} {bits bits' m m' : Nat} {q q' : Int}
    (hvalue : (m * 2 ^ q : ℚ) = units bits * 2 ^ (-1074 : Int))
    (hvalue' : (m' * 2 ^ q' : ℚ) = units bits' * 2 ^ (-1074 : Int))
    (hlt : splitKey negative bits < splitKey negative' bits') :
    Below (.finite negative m q) (.finite negative' m' q') := by
  have hunit : (0 : ℚ) < 2 ^ (-1074 : Int) := zpow_pos two_pos _
  have hless {a b : Nat} (h : a < b) :
      (units a * 2 ^ (-1074 : Int) : ℚ) < units b * 2 ^ (-1074 : Int) :=
    mul_lt_mul_of_pos_right (Nat.cast_lt.mpr (units_strictMono h)) hunit
  cases negative <;> cases negative' <;> simp only [splitKey_false, splitKey_true] at hlt
  case false.false =>
    have hbits : bits < bits' := by omega
    refine .value ?_
    simpa [signedValue, hvalue, hvalue'] using hless hbits
  case false.true => omega
  case true.false =>
    -- On the two sides of zero the values differ, except when both are zero.
    by_cases hboth : units bits = 0 ∧ units bits' = 0
    · have hpow (q : Int) : (2 ^ q : ℚ) ≠ 0 := zpow_ne_zero q two_ne_zero
      obtain rfl : m = 0 := by simpa [hboth.1, hpow] using hvalue
      obtain rfl : m' = 0 := by simpa [hboth.2, hpow] using hvalue'
      exact .zeros
    · have hpositive : (0 : ℚ) < units bits + units bits' := by
        have : 0 < units bits + units bits' := by omega
        exact_mod_cast this
      have hsum := mul_pos hpositive hunit
      refine .value ?_
      simp only [signedValue, hvalue, hvalue', Bool.false_eq_true, if_false, if_true]
      linarith
  case true.true =>
    have hbits : bits' < bits := by omega
    refine .value ?_
    simpa [signedValue, hvalue, hvalue'] using hless hbits

theorem Stands.tier_eq {negative : Bool} {bits : Nat} {b : Binary} (h : Stands negative bits b) :
    b.tier =
      if bits < infinityBits then 2
      else if bits = infinityBits then if negative then 1 else 3
      else if negative then 0 else 4 := by
  cases h with
  | finite hbits hvalue =>
    rw [if_pos hbits]
    rfl
  | infinite hbits =>
    rw [if_neg (by omega), if_pos hbits]
    cases negative <;> rfl
  | nan hpos hbits =>
    rw [if_neg (by omega), if_neg (by omega)]
    cases negative <;> rfl

theorem Stands.tier_le {negative negative' : Bool} {bits bits' : Nat} {a b : Binary}
    (ha : Stands negative bits a) (hb : Stands negative' bits' b)
    (hlt : splitKey negative bits < splitKey negative' bits') : a.tier ≤ b.tier := by
  rw [ha.tier_eq, hb.tier_eq]
  cases negative <;> cases negative' <;>
    simp only [splitKey_false, splitKey_true, if_true, Bool.false_eq_true, if_false] at hlt ⊢
  all_goals split_ifs <;> omega

theorem Stands.below {negative negative' : Bool} {bits bits' : Nat} {a b : Binary}
    (ha : Stands negative bits a) (hb : Stands negative' bits' b)
    (hlt : splitKey negative bits < splitKey negative' bits') : Below a b := by
  rcases (ha.tier_le hb hlt).lt_or_eq with hless | hsame
  · exact .tier hless
  obtain ⟨_, _, _, _, _, _, rfl, rfl⟩ | ⟨_, rfl, rfl⟩ | ⟨_, _, _, rfl, rfl⟩ :=
    Binary.of_tier_eq hsame
  · cases ha with
    | finite hbits hvalue =>
      cases hb with
      | finite hbits' hvalue' => exact below_of_units hvalue hvalue' hlt
  · cases ha with
    | infinite hbits =>
      cases hb with
      | infinite hbits' =>
        rw [hbits, hbits'] at hlt
        exact absurd hlt (lt_irrefl _)
  · cases ha with
    | nan hpos hbits =>
      cases hb with
      | nan hpos' hbits' =>
        cases negative with
        | false =>
          simp only [splitKey_false] at hlt
          exact .positivePayload (by omega)
        | true =>
          simp only [splitKey_true] at hlt
          exact .negativePayload (by omega)

theorem Double.orderKey_injective : Function.Injective orderKey := by
  intro x y h
  obtain ⟨negative, bits, hx⟩ := exists_splits x.word.toNat_lt
  obtain ⟨negative', bits', hy⟩ := exists_splits y.word.toNat_lt
  rw [orderKey_eq hx, orderKey_eq hy] at h
  obtain ⟨rfl, rfl⟩ := splitKey_inj.mp h
  have hword : x.word = y.word := UInt64.toNat_inj.mp (hx.word_eq.trans hy.word_eq.symm)
  exact congrArg Double.mk hword

/-- The keys place all words as the total order does. -/
theorem Double.orderKey_lt_iff {x y : Double} :
    x.orderKey < y.orderKey ↔ Below x.binary y.binary := by
  have hbelow {x y : Double} (h : x.orderKey < y.orderKey) : Below x.binary y.binary := by
    obtain ⟨negative, bits, hx⟩ := exists_splits x.word.toNat_lt
    obtain ⟨negative', bits', hy⟩ := exists_splits y.word.toNat_lt
    rw [orderKey_eq hx, orderKey_eq hy] at h
    exact hx.stands.below hy.stands h
  constructor
  · exact hbelow
  · intro h
    rcases lt_trichotomy x.orderKey y.orderKey with hlt | heq | hgt
    · exact hlt
    · rw [orderKey_injective heq] at h
      exact absurd h h.asymm
    · exact absurd h (hbelow hgt).asymm

end MarketQuery.Decimal
