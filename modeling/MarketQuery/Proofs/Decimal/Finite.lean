import Mathlib
import MarketQuery.Decimal.Binary

/-!
Which floats are finite. A float that passes the test decodes to a finite binary number, and every
integer of 64 bits has a finite float. The second fact is read off the steps that make a float of an
integer: each of them keeps the mantissa below 53 bits and moves the exponent by a bounded amount,
and the sum of the amounts stays far below the exponent of an infinity. All of Mathlib is imported
here because no part of it brings in what is known of the words of floats.
-/
namespace MarketQuery.Decimal

open Float.Model
open Float.Model.UnpackedFloat

/-- A number whose mantissa has at most 53 bits and whose exponent is at most `limit`. -/
inductive Within (limit : Int) : UnpackedFloat → Prop
  | zero (sign : Sign) : Within limit (.zero sign)
  | finite (sign : Sign) {m : Nat} {e : Int} (hm : 0 < m) (hmantissa : m < 2 ^ 53)
      (hexponent : e ≤ limit) : Within limit (.finite sign m e hm)

theorem Within.mono {low high : Int} {u : UnpackedFloat} (h : Within low u) (hle : low ≤ high) :
    Within high u := by
  cases h with
  | zero sign => exact .zero sign
  | finite sign hm hmantissa hexponent =>
    exact .finite sign hm hmantissa (Int.le_trans hexponent hle)

theorem Within.neg {limit : Int} {u : UnpackedFloat} (h : Within limit u) : Within limit u.neg := by
  cases h with
  | zero sign => exact .zero _
  | finite sign hm hmantissa hexponent => exact .finite _ hm hmantissa hexponent

theorem Within.isFinite {limit : Int} {u : UnpackedFloat} (h : Within limit u) :
    u.isFinite = true := by
  cases h <;> rfl

theorem mantissa_shiftRight (em : ExtendedMantissa) (n : Nat) :
    (em >>> n).mantissa = em.mantissa / 2 ^ n := by
  induction n with
  | zero => simp [HShiftRight.hShiftRight, Nat.repeat]
  | succ n ih =>
    change (em >>> n).shiftRightOne.mantissa = _
    rw [ExtendedMantissa.shiftRightOne, ih, Nat.div_div_eq_div_mul, Nat.pow_succ]

theorem roundedMantissa_le (em : ExtendedMantissa) : em.roundedMantissa ≤ em.mantissa + 1 := by
  rw [ExtendedMantissa.roundedMantissa]
  rcases em.accuracy with _ | ⟨_ | _ | _⟩ <;> simp only [Accuracy.roundToNearestEven] <;> omega

/-- Shifting to the target exponent leaves 53 bits, and for every bit that it drops it raises the
exponent by one. -/
theorem shiftToTargetExponent_bounds {mantissa bits : Nat} (hbits : mantissa < 2 ^ bits)
    (exponent : Int) :
    let shifted := shiftToTargetExponent .binary64 mantissa exponent .exact
    shifted.1.mantissa < 2 ^ 53 ∧ shifted.2 ≤ max (exponent + bits) (-1074) := by
  have htarget : Format.binary64.targetExponent (totalExponent mantissa exponent) =
      max (mantissa.log2 + 1 + exponent - 53) (-1074) := rfl
  have hlog : mantissa.log2 ≤ bits := by
    by_cases hzero : mantissa = 0
    · simp [hzero]
    · exact Nat.le_of_lt ((Nat.log2_lt hzero).mpr hbits)
  intro shifted
  constructor
  · simp only [shifted, shiftToTargetExponent, shiftToExponent, mantissa_shiftRight]
    change mantissa / 2 ^ _ < 2 ^ 53
    rw [Nat.div_lt_iff_lt_mul (Nat.two_pow_pos _), ← Nat.pow_add]
    refine Nat.lt_of_lt_of_le Nat.lt_log2_self (Nat.pow_le_pow_right (by decide) ?_)
    omega
  · simp only [shifted, shiftToTargetExponent, shiftToExponent, htarget]
    omega

theorem within_roundWithAccuracy (sign : Sign) {mantissa bits : Nat} {exponent limit : Int}
    (hbits : mantissa < 2 ^ bits) (hlimit : exponent + bits + 54 ≤ limit) (hmin : -1020 ≤ limit) :
    Within limit (roundWithAccuracy .binary64 sign mantissa exponent .exact) := by
  obtain ⟨hfirst, hfirstExponent⟩ := shiftToTargetExponent_bounds hbits exponent
  rw [roundWithAccuracy]
  generalize shiftToTargetExponent .binary64 mantissa exponent .exact = first at *
  -- Rounding may carry into one more bit, which the second shift takes off again.
  have hrounded : first.1.roundedMantissa < 2 ^ 54 := by
    have := roundedMantissa_le first.1
    omega
  obtain ⟨hsecond, hsecondExponent⟩ := shiftToTargetExponent_bounds hrounded first.2
  dsimp only
  split
  · exact .zero sign
  · exact .finite sign _ hsecond (by omega)

theorem within_unpack {b : BitVec Format.binary64.numBits} (h : (unpackExponent b).toNat ≤ 2046) :
    Within (max (unpackExponent b).toNat 1 - 1075) (UnpackedFloat.unpack .binary64 b) := by
  have hfraction : (unpackMantissa b).toNat < 2 ^ 52 := (unpackMantissa b).isLt
  have hbias : (Format.binary64.exponentBias : Int) = 1023 := rfl
  have hfinite : unpackExponent b ≠ -1#_ := by
    intro heq
    rw [heq] at h
    exact absurd h (by decide)
  rw [UnpackedFloat.unpack]
  simp only [hfinite, if_false]
  split
  · next hzero =>
    have hfield : (unpackExponent b).toNat = 0 := by
      rw [hzero]
      rfl
    split
    · exact .zero _
    · exact .finite _ _ (by omega) (by rw [hbias]; omega)
  · have happend : (1#1 ++ unpackMantissa b).toNat < 2 ^ 53 := (1#1 ++ unpackMantissa b).isLt
    exact .finite _ _ happend (by rw [hbias]; omega)

theorem unpackExponent_pack {limit : Int} {u : UnpackedFloat} (h : Within limit u)
    (hlimit : limit ≤ 971) :
    ((unpackExponent (UnpackedFloat.pack .binary64 u)).toNat : Int) ≤ max (limit + 1075) 0 := by
  cases h with
  | zero sign =>
    simp [UnpackedFloat.pack, packedZero]
  | @finite sign m e hm hmantissa hexponent =>
    have hbias : (Format.binary64.exponentBias : Int) = 1023 := rfl
    have hbiased : e + Format.binary64.exponentBias + (52 : Nat) = e + 1075 := by omega
    have hsmall : ¬ 2 ^ Format.binary64.exponentBits ≤ (e + 1075).toNat + 1 := by
      have hpow : 2 ^ Format.binary64.exponentBits = 2048 := rfl
      omega
    simp only [UnpackedFloat.pack, hbiased, hsmall, if_false]
    split
    · rw [unpackExponent_packComponents, BitVec.toNat_ofNat]
      have := Nat.mod_le (e + 1075).toNat (2 ^ Format.binary64.exponentBits)
      omega
    · simp [unpackExponent_packComponents]

/-- Packing loses nothing that matters here. -/
theorem within_pack {limit : Int} {u : UnpackedFloat} (h : Within limit u) (hmin : -1074 ≤ limit)
    (hmax : limit ≤ 971) : Within limit (Float.Model.pack u).unpack := by
  have hfield := unpackExponent_pack h hmax
  have hunpack := within_unpack (b := UnpackedFloat.pack .binary64 u) (by omega)
  exact hunpack.mono (by omega)

theorem within_ofNat {n bits : Nat} (hbits : n < 2 ^ bits) {limit : Int}
    (hlimit : bits + 54 ≤ limit) : Within limit (UnpackedFloat.ofNat .binary64 n) := by
  rw [UnpackedFloat.ofNat, UnpackedFloat.ofInt, UnpackedFloat.normalize]
  split
  · next hlt => exact absurd (Int.compare_eq_lt.mp hlt) (by omega)
  · exact .zero _
  · rw [Int.toNat_natCast, UnpackedFloat.round, decreaseExponent]
    dsimp only
    generalize (0 - Format.binary64.targetExponent (totalExponent n 0)).toNat = shift
    have hshifted : n <<< shift < 2 ^ (bits + shift) := by
      rw [Nat.shiftLeft_eq, Nat.pow_add]
      exact Nat.mul_lt_mul_of_pos_right hbits (Nat.two_pow_pos shift)
    exact within_roundWithAccuracy .positive hshifted (by omega) (by omega)

theorem mul_finite {sign sign' : Sign} {m m' : Nat} {e e' : Int} (hm : 0 < m) (hm' : 0 < m') :
    mul .binary64 (.finite sign m e hm) (.finite sign' m' e' hm') =
      roundWithAccuracy .binary64 (sign * sign') (m * m') (e + e') .exact := rfl

theorem within_mul {limit limit' : Int} {a b : UnpackedFloat} (ha : Within limit a)
    (hb : Within limit' b) (hmin : -1180 ≤ limit + limit') :
    Within (limit + limit' + 160) (mul .binary64 a b) := by
  cases ha with
  | zero sign =>
    cases hb <;> exact .zero _
  | @finite sign m e hm hmantissa hexponent =>
    cases hb with
    | zero sign' => exact .zero _
    | @finite sign' m' e' hm' hmantissa' hexponent' =>
      have hproduct : m * m' < 2 ^ 106 := by
        calc m * m' < 2 ^ 53 * 2 ^ 53 := Nat.mul_lt_mul'' hmantissa hmantissa'
          _ = 2 ^ 106 := rfl
      rw [mul_finite]
      exact within_roundWithAccuracy _ hproduct (by omega) (by omega)

theorem within_ofScientific {n : Nat} (hne : n ≠ 0) (h : n < 2 ^ 64) :
    Within 118 (UnpackedFloat.ofScientific .binary64 n 0) := by
  have hbits : Format.binary64.mantissaBits = 53 := rfl
  have hpow : (2 ^ Format.binary64.exponentBits : Int) = 2048 := rfl
  have hshifted : n <<< Format.binary64.mantissaBits * 10 ^ Int.toNat 0 < 2 ^ 117 := by
    rw [hbits, Int.toNat_zero, Nat.pow_zero, Nat.mul_one, Nat.shiftLeft_eq]
    omega
  rw [UnpackedFloat.ofScientific, dif_neg hne, if_neg (by omega), if_neg (by omega),
    if_pos (by decide), mul_finite]
  exact within_roundWithAccuracy _ hshifted (by rw [hbits]; decide) (by decide)

/-- A word of 64 bits is far below the largest float. -/
theorem within_toFloat {n : Nat} (h : n < 2 ^ 64) : Within 300 (Float.ofNat n).toModel.unpack := by
  change Within 300 (Float.ofScientific n false 0).toModel.unpack
  rw [Float.ofScientific]
  split
  · have hword : Within 118 n.toUInt64.toFloat.toModel.unpack :=
      within_pack (within_ofNat n.toUInt64.toNat_lt (by decide)) (by decide) (by decide)
    have hone : Within (-52) (Float.ofBits 0x3FF0000000000000).toModel.unpack := by
      exact .finite _ _ (by decide) (by decide)
    have hproduct := within_mul hword hone (by decide)
    exact within_pack (hproduct.mono (by decide)) (by decide) (by decide)
  · next hlarge =>
    have hscaled := within_ofScientific (n := n) (by omega) h
    exact (within_pack hscaled (by decide) (by decide)).mono (by decide)

/-- Every integer of 64 bits has a finite float. -/
theorem isFinite_ofInt {i : Int} (hge : -(signedLimit : Int) ≤ i) (hlt : i < signedLimit) :
    (Float.ofInt i).isFinite = true := by
  have hlimit : (signedLimit : Int) < 2 ^ 64 := by decide
  cases i with
  | ofNat n =>
    have hn : n < 2 ^ 64 := by
      have : (n : Int) < signedLimit := hlt
      omega
    exact (within_toFloat hn).isFinite
  | negSucc n =>
    have hn : n + 1 < 2 ^ 64 := by omega
    exact (within_pack (within_toFloat hn).neg (by decide) (by decide)).isFinite

theorem unpackExponent_ne_of_isFinite {b : BitVec Format.binary64.numBits}
    (h : (UnpackedFloat.unpack .binary64 b).isFinite = true) : unpackExponent b ≠ -1#_ := by
  intro heq
  rw [UnpackedFloat.unpack] at h
  simp only [heq, if_true] at h
  split at h <;> simp [UnpackedFloat.isFinite] at h

theorem Precision.exists_decode (p : Precision) {word : Nat}
    (h : word / Nat.pow 2 p.fractionBits % Nat.pow 2 p.exponentBits ≠ Nat.pow 2 p.exponentBits - 1) :
    ∃ negative m q, p.decode word = .finite negative m q := by
  simp only [decode, if_neg h]
  split
  · exact ⟨_, _, _, rfl⟩
  · exact ⟨_, _, _, rfl⟩

theorem unpackExponent_le_of_isFinite {b : BitVec Format.binary64.numBits}
    (h : (UnpackedFloat.unpack .binary64 b).isFinite = true) : (unpackExponent b).toNat ≤ 2046 := by
  have hbound : (unpackExponent b).toNat < 2048 := (unpackExponent b).isLt
  have hne : (unpackExponent b).toNat ≠ 2047 :=
    fun heq => unpackExponent_ne_of_isFinite h (BitVec.eq_of_toNat_eq heq)
  omega

/-- The opposite of a finite float is finite. -/
theorem isFinite_neg {x : Float} (h : x.isFinite = true) : (-x).isFinite = true := by
  have hfield := unpackExponent_le_of_isFinite h
  have hunpack : Within 971 x.toModel.unpack := (within_unpack hfield).mono (by omega)
  exact (within_pack hunpack.neg (by decide) (by decide)).isFinite

/-- A finite float decodes to a finite number. -/
theorem exists_ofFloat {x : Float} (h : x.isFinite = true) :
    ∃ negative m q, ofFloat x = .finite negative m q := by
  apply Precision.exists_decode
  intro heq
  refine unpackExponent_ne_of_isFinite h (BitVec.eq_of_toNat_eq ?_)
  change x.toModel.toBits.toNat / 2 ^ 52 % 2 ^ 11 = 2 ^ 11 - 1 at heq
  simpa [unpackExponent, Nat.shiftRight_eq_div_pow] using heq

/-- The word of a finite figure survives the way through a `Float`. -/
theorem Double.ofFloat_toFloat {x : Double} (h : x.toFloat.isFinite = true) :
    ofFloat x.toFloat = x := by
  change (pack (UnpackedFloat.unpack .binary64 x.word.toBitVec)).unpack.isFinite = true at h
  have hvalid : Format.binary64.Valid x.word.toBitVec := by
    refine ⟨fun hexponent hmantissa => ?_⟩
    have hunpack : UnpackedFloat.unpack .binary64 x.word.toBitVec = .notANumber := by
      rw [UnpackedFloat.unpack]
      simp [hexponent, hmantissa]
    rw [hunpack] at h
    exact absurd h (by decide)
  have hword := pack_unpack_of_valid hvalid
  exact congrArg mk (UInt64.toBitVec_inj.mp hword)

end MarketQuery.Decimal
