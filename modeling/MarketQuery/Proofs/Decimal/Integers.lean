import MarketQuery.Proofs.Decimal.Finite
import MarketQuery.Proofs.Decimal.TotalOrder

/-!
Floats that are integers. The integer of a float is the number that it stands for. An integer of
more than 53 bits is rounded to a float, and the unit of the float is a power of two that depends on
the number of bits: so the float is an integer too, and has no fewer bits.
-/
namespace MarketQuery.Decimal

theorem abs_signedValue (negative : Bool) (m : Nat) (q : Int) :
    |signedValue negative m q| = m * 2 ^ q := by
  have hnonneg : (0 : ℚ) ≤ m * 2 ^ q := by positivity
  cases negative <;> simp [signedValue, abs_of_nonneg hnonneg]

theorem signedValue_neg_iff {negative : Bool} {m : Nat} {q : Int} :
    signedValue negative m q < 0 ↔ negative = true ∧ m ≠ 0 := by
  have hpow : (0 : ℚ) < 2 ^ q := by positivity
  cases negative with
  | false =>
    have hnonneg : (0 : ℚ) ≤ m * 2 ^ q := by positivity
    simpa [signedValue] using hnonneg
  | true => simp [signedValue, hpow, Nat.pos_iff_ne_zero]

namespace Binary

def value? : Binary → Option ℚ
  | finite negative m q => some (signedValue negative m q)
  | _ => none

theorem value?_eq_some_iff {b : Binary} {r : ℚ} :
    b.value? = some r ↔ ∃ negative m q, b = finite negative m q ∧ signedValue negative m q = r := by
  cases b with
  | nan negative payload => simp [value?]
  | infinite negative => simp [value?]
  | finite negative m q => simp [value?]

theorem ratio_pos (m : Nat) (q : Int) : 0 < (ratio m q).2 := by
  unfold ratio
  split
  · exact Nat.one_pos
  · exact Nat.pow_pos (by decide)

theorem cast_ratio (m : Nat) (q : Int) : ((ratio m q).1 : ℚ) / (ratio m q).2 = m * 2 ^ q := by
  unfold ratio
  split
  · next hq =>
    have hpow : (2 : ℚ) ^ q = 2 ^ q.toNat := by
      rw [← zpow_natCast, Int.toNat_of_nonneg hq]
    simp [hpow]
  · next hq =>
    have hpow : (2 : ℚ) ^ q = (2 ^ (-q).toNat)⁻¹ := by
      rw [← zpow_natCast, Int.toNat_of_nonneg (by omega), zpow_neg, inv_inv]
    simp [hpow, div_eq_mul_inv]

theorem signedValue_eq (negative : Bool) (m : Nat) (q : Int) :
    signedValue negative m q =
      (if negative then -1 else 1) * (((ratio m q).1 : ℚ) / (ratio m q).2) := by
  rw [signedValue, cast_ratio]

theorem atLeast_finite_iff {n m : Nat} {q : Int} {negative : Bool} :
    (finite negative m q).atLeast n = true ↔ (n : ℚ) ≤ m * 2 ^ q := by
  have hpos : (0 : ℚ) < (ratio m q).2 := by exact_mod_cast ratio_pos m q
  rw [← cast_ratio, le_div_iff₀ hpos, atLeast, decide_eq_true_iff]
  norm_cast

/-- A float has an integer exactly if the number that it stands for is this integer. -/
theorem integer?_eq_some_iff {b : Binary} {z : Int} :
    b.integer? = some z ↔ b.value? = some (z : ℚ) := by
  cases b with
  | nan negative payload => simp [integer?, value?]
  | infinite negative => simp [integer?, value?]
  | finite negative m q =>
    have hden : ((ratio m q).2 : ℚ) ≠ 0 := by
      exact_mod_cast (ratio_pos m q).ne'
    rw [integer?, value?, signedValue_eq]
    dsimp only
    split
    · next hdvd =>
      have hquotient : ((ratio m q).1 : ℚ) / (ratio m q).2 =
          ((ratio m q).1 / (ratio m q).2 : Nat) :=
        (Nat.cast_div (Nat.dvd_of_mod_eq_zero hdvd) hden).symm
      rw [hquotient, Option.some.injEq, Option.some.injEq, ← Int.cast_inj (α := ℚ)]
      cases negative <;> simp only [Int.cast_neg, Int.cast_natCast, Bool.false_eq_true, if_false,
        if_true, one_mul, neg_mul]
    · next hdvd =>
      refine ⟨fun h => by simp at h, fun h => absurd ?_ hdvd⟩
      have hnum : ((ratio m q).1 : ℚ) = |(z : ℚ)| * (ratio m q).2 := by
        have habs := congrArg abs (Option.some.inj h)
        have hsign : |(if negative then (-1 : ℚ) else 1)| = 1 := by
          cases negative <;> simp
        rw [abs_mul, hsign, one_mul, abs_of_nonneg (by positivity)] at habs
        rw [← habs, div_mul_cancel₀ _ hden]
      have hnat : (ratio m q).1 = z.natAbs * (ratio m q).2 := by
        have hcast : |(z : ℚ)| = (z.natAbs : ℚ) := by
          rw [Nat.cast_natAbs, Int.cast_abs]
        rw [hcast] at hnum
        exact_mod_cast hnum
      rw [hnat, Nat.mul_mod_left]

end Binary

open Float.Model
open Float.Model.UnpackedFloat

theorem le_roundedMantissa (em : ExtendedMantissa) : em.mantissa ≤ em.roundedMantissa := by
  rw [ExtendedMantissa.roundedMantissa]
  rcases em.accuracy with _ | ⟨_ | _ | _⟩ <;> simp only [Accuracy.roundToNearestEven] <;> omega

theorem toNat_append {v w : Nat} (a : BitVec v) (b : BitVec w) :
    (a ++ b).toNat = a.toNat * 2 ^ w + b.toNat := by
  rw [BitVec.toNat_append, ← Nat.shiftLeft_add_eq_or_of_lt b.isLt, Nat.shiftLeft_eq]

/-- A number with a full mantissa is packed into a word and decoded from it unchanged. -/
theorem ofFloat_pack {m : Nat} {e : Int} (hm : 0 < m) (hlow : 2 ^ 52 ≤ m) (hhigh : m < 2 ^ 53)
    (hmin : -1074 ≤ e) (hmax : e ≤ 971) :
    ofFloat ⟨Float.Model.pack (.finite .positive m e hm)⟩ = .finite false m e := by
  have hlog : m.log2 + 1 = Format.binary64.mantissaBits := by
    rw [(Nat.log2_eq_iff hm.ne').mpr ⟨hlow, hhigh⟩]
    rfl
  have hbias : e + Format.binary64.exponentBias + (52 : Nat) = e + 1075 := by
    have : (Format.binary64.exponentBias : Int) = 1023 := rfl
    omega
  have hfinite : ¬ 2 ^ Format.binary64.exponentBits ≤ (e + 1075).toNat + 1 := by
    have : 2 ^ Format.binary64.exponentBits = 2048 := rfl
    omega
  have hword : (UnpackedFloat.pack .binary64 (.finite .positive m e hm)).toNat =
      (e + 1075).toNat * 2 ^ 52 + (m - 2 ^ 52) := by
    simp only [UnpackedFloat.pack, hlog, hbias, hfinite, if_false, if_true]
    change (0#1 ++ BitVec.ofNat 11 (e + 1075).toNat ++ BitVec.ofNat 52 m).toNat = _
    rw [toNat_append, toNat_append, BitVec.toNat_ofNat, BitVec.toNat_ofNat, BitVec.toNat_ofNat]
    omega
  have hsplits : Splits (UnpackedFloat.pack .binary64 (.finite .positive m e hm)).toNat false
      ((e + 1075).toNat * 2 ^ 52 + (m - 2 ^ 52)) :=
    ⟨by omega, by rw [hword, Bool.toNat_false]; omega⟩
  have hfield : ((e + 1075).toNat * 2 ^ 52 + (m - 2 ^ 52)) / 2 ^ 52 = (e + 1075).toNat := by omega
  have hfraction : ((e + 1075).toNat * 2 ^ 52 + (m - 2 ^ 52)) % 2 ^ 52 = m - 2 ^ 52 := by omega
  change Precision.double.decode (UnpackedFloat.pack .binary64 (.finite .positive m e hm)).toNat = _
  have hmantissa : 2 ^ 52 + (m - 2 ^ 52) = m := by omega
  have hexponent : ((e + 1075).toNat : Int) - 1075 = e := by omega
  rw [hsplits.decode, hfield, hfraction, if_neg (by omega), if_neg (by omega), hmantissa, hexponent]

/-- Shifting a mantissa to its target exponent keeps 53 bits of it. -/
theorem shiftToTargetExponent_exact {mantissa k : Nat} (exponent : Int) (hlow : 2 ^ k ≤ mantissa)
    (hhigh : mantissa < 2 ^ (k + 1)) (hk : 52 ≤ k) (hmin : -1074 ≤ exponent + (k - 52 : Nat)) :
    let shifted := shiftToTargetExponent .binary64 mantissa exponent .exact
    shifted.1.mantissa = mantissa / 2 ^ (k - 52) ∧ shifted.2 = exponent + (k - 52 : Nat) := by
  have hne : mantissa ≠ 0 := by
    have := Nat.two_pow_pos k
    omega
  have htarget : Format.binary64.targetExponent (totalExponent mantissa exponent) =
      max (mantissa.log2 + 1 + exponent - 53) (-1074) := rfl
  rw [(Nat.log2_eq_iff hne).mpr ⟨hlow, hhigh⟩] at htarget
  have hshift : (max ((k : Int) + 1 + exponent - 53) (-1074) - exponent).toNat = k - 52 := by omega
  simp only [shiftToTargetExponent, shiftToExponent, htarget, hshift, mantissa_shiftRight]
  exact ⟨rfl, trivial⟩

/-- Rounding a mantissa of more than 53 bits raises the exponent by the bits beyond, or by one more,
and loses no bit at the top. -/
theorem roundWithAccuracy_exact (sign : Sign) {mantissa k : Nat} (exponent : Int)
    (hlow : 2 ^ k ≤ mantissa) (hhigh : mantissa < 2 ^ (k + 1)) (hk : 52 ≤ k)
    (hmin : -1074 ≤ exponent + (k - 52 : Nat)) :
    ∃ (m : Nat) (e : Int) (hm : 0 < m),
      roundWithAccuracy .binary64 sign mantissa exponent .exact = .finite sign m e hm ∧
      2 ^ 52 ≤ m ∧ m < 2 ^ 53 ∧ exponent + (k - 52 : Nat) ≤ e ∧ e ≤ exponent + (k - 51 : Nat) := by
  obtain ⟨hfirst, hfirstExponent⟩ := shiftToTargetExponent_exact exponent hlow hhigh hk hmin
  have hsplit : 2 ^ 52 * 2 ^ (k - 52) = 2 ^ k := by rw [← Nat.pow_add, Nat.add_sub_cancel' hk]
  have hmantissa : 2 ^ 52 ≤ mantissa / 2 ^ (k - 52) := by
    rwa [Nat.le_div_iff_mul_le (Nat.two_pow_pos _), hsplit]
  have hmantissa' : mantissa / 2 ^ (k - 52) < 2 ^ 53 := by
    rw [Nat.div_lt_iff_lt_mul (Nat.two_pow_pos _)]
    omega
  rw [roundWithAccuracy]
  generalize shiftToTargetExponent .binary64 mantissa exponent .exact = first at *
  have hrounded := le_roundedMantissa first.1
  have hrounded' := roundedMantissa_le first.1
  rw [← hfirst] at hmantissa hmantissa'
  -- Rounding may carry into one more bit, which the second shift takes off again.
  have hsecond :
      let second := shiftToTargetExponent .binary64 first.1.roundedMantissa first.2 .exact
      2 ^ 52 ≤ second.1.mantissa ∧ second.1.mantissa < 2 ^ 53 ∧
        first.2 ≤ second.2 ∧ second.2 ≤ first.2 + 1 := by
    intro second
    by_cases hcarry : first.1.roundedMantissa < 2 ^ 53
    · obtain ⟨hm, he⟩ := shiftToTargetExponent_exact first.2 (hmantissa.trans hrounded) hcarry
        (by decide) (by omega)
      change second.1.mantissa = _ at hm
      change second.2 = _ at he
      omega
    · obtain ⟨hm, he⟩ := shiftToTargetExponent_exact first.2 (Nat.le_of_not_lt hcarry) (by omega)
        (by decide) (by omega)
      change second.1.mantissa = _ at hm
      change second.2 = _ at he
      omega
  dsimp only at hsecond ⊢
  generalize shiftToTargetExponent .binary64 first.1.roundedMantissa first.2 .exact = second at *
  have hne : second.1.mantissa ≠ 0 := by omega
  rw [dif_neg hne]
  exact ⟨_, _, Nat.pos_of_ne_zero hne, rfl, hsecond.1, hsecond.2.1, by omega, by omega⟩

/-- An integer of more than 53 bits has a float that is an integer with at least as many bits. -/
theorem ofFloat_ofNat {n k : Nat} (hk : 53 ≤ k) (hmax : k ≤ 1000) (hlow : 2 ^ k ≤ n)
    (hhigh : n < 2 ^ (k + 1)) :
    ∃ (m q : Nat), ofFloat (Float.ofNat n) = .finite false m q ∧ 2 ^ k ≤ m * 2 ^ q := by
  have hpow : 2 ^ 53 ≤ 2 ^ k := Nat.pow_le_pow_right (by decide) hk
  have hlarge : ¬ (n < 2 ^ 53 ∧ 0 ≤ 22) := by omega
  have hne : n ≠ 0 := by omega
  have hbits : (2 ^ Format.binary64.exponentBits : Int) = 2048 := rfl
  have hscaled : n <<< Format.binary64.mantissaBits * 10 ^ Int.toNat 0 = n * 2 ^ 53 := by
    rw [Int.toNat_zero, Nat.pow_zero, Nat.mul_one, Nat.shiftLeft_eq]
    rfl
  have hscientific : UnpackedFloat.ofScientific .binary64 n 0 =
      roundWithAccuracy .binary64 .positive (n * 2 ^ 53) (-53) .exact := by
    rw [UnpackedFloat.ofScientific, dif_neg hne, if_neg (by omega), if_neg (by omega),
      if_pos (by decide), mul_finite, hscaled]
    rfl
  have hfloat : Float.ofNat n =
      ⟨Float.Model.pack (roundWithAccuracy .binary64 .positive (n * 2 ^ 53) (-53) .exact)⟩ := by
    change Float.ofScientific n false 0 = _
    rw [Float.ofScientific, dif_neg hlarge, ← hscientific]
    rfl
  have hscaledLow : 2 ^ (k + 53) ≤ n * 2 ^ 53 := by rw [Nat.pow_add]; omega
  have hscaledHigh : n * 2 ^ 53 < 2 ^ (k + 53 + 1) := by
    rw [Nat.add_right_comm, Nat.pow_add]
    omega
  obtain ⟨m, e, hm, hround, hmantissa, hmantissa', he, he'⟩ :=
    roundWithAccuracy_exact .positive (-53) hscaledLow hscaledHigh (by omega) (by omega)
  rw [hfloat, hround, ofFloat_pack hm hmantissa hmantissa' (by omega) (by omega)]
  refine ⟨m, e.toNat, by rw [Int.toNat_of_nonneg (by omega)], ?_⟩
  calc 2 ^ k = 2 ^ 52 * 2 ^ (k - 52) := by rw [← Nat.pow_add, Nat.add_sub_cancel' (by omega)]
    _ ≤ m * 2 ^ e.toNat :=
      Nat.mul_le_mul hmantissa (Nat.pow_le_pow_right (by decide) (by omega))

/-- A word of 64 bits that is beyond the integers with a sign has a float that is beyond them. -/
theorem exists_integer?_ofInt {i : Int} (hlow : (signedLimit : Int) ≤ i) (hhigh : i < wordLimit) :
    ∃ z, (ofFloat (Float.ofInt i)).integer? = some z ∧ (signedLimit : Int) ≤ z := by
  obtain ⟨n, rfl⟩ := Int.eq_ofNat_of_zero_le (a := i) (by omega)
  have hlow' : 2 ^ 63 ≤ n := Int.ofNat_le.mp hlow
  have hhigh' : n < 2 ^ (63 + 1) := Int.ofNat_lt.mp hhigh
  obtain ⟨m, q, hfloat, hvalue⟩ := ofFloat_ofNat (by decide) (by decide) hlow' hhigh'
  refine ⟨(m * 2 ^ q : Nat), ?_, Int.ofNat_le.mpr hvalue⟩
  change (ofFloat (Float.ofNat n)).integer? = _
  rw [hfloat, Binary.integer?_eq_some_iff, Binary.value?, signedValue]
  simp

end MarketQuery.Decimal
