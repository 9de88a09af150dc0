import MarketQuery.Proofs.Decimal.Integers

/-!
The opposite of a float. Its word has the other sign, and behind the sign the same bits. So it
decodes to the opposite number.
-/
namespace MarketQuery.Decimal

open Float.Model
open Float.Model.UnpackedFloat

/-- The sign goes into its own bit of the word; the rest of the word does not depend on it. -/
theorem exists_packComponents {u : UnpackedFloat} (h : u ≠ .notANumber) :
    ∃ (sign : Sign) (exponent : BitVec Format.binary64.exponentBits)
      (mantissa : BitVec Format.binary64.mantissaBitsWithoutImplicit),
      UnpackedFloat.pack .binary64 u = packComponents .binary64 sign exponent mantissa ∧
      UnpackedFloat.pack .binary64 u.neg = packComponents .binary64 (-sign) exponent mantissa := by
  cases u with
  | notANumber => exact absurd rfl h
  | infinity sign => exact ⟨sign, _, _, rfl, rfl⟩
  | zero sign => exact ⟨sign, _, _, rfl, rfl⟩
  | finite sign m e hm =>
    simp only [UnpackedFloat.neg, UnpackedFloat.pack]
    split
    · exact ⟨sign, _, _, rfl, rfl⟩
    · split
      · exact ⟨sign, _, _, rfl, rfl⟩
      · exact ⟨sign, _, _, rfl, rfl⟩

theorem splits_packComponents (sign : Sign) (exponent : BitVec Format.binary64.exponentBits)
    (mantissa : BitVec Format.binary64.mantissaBitsWithoutImplicit) :
    Splits (packComponents .binary64 sign exponent mantissa).toNat (sign == .negative)
      (exponent.toNat * 2 ^ 52 + mantissa.toNat) := by
  have hexponent : exponent.toNat < 2 ^ 11 := exponent.isLt
  have hmantissa : mantissa.toNat < 2 ^ 52 := mantissa.isLt
  refine ⟨by omega, ?_⟩
  change (sign.toBitVec ++ exponent ++ mantissa).toNat = _
  rw [toNat_append, toNat_append]
  cases sign with
  | positive =>
    change (0 * 2 ^ 11 + exponent.toNat) * 2 ^ 52 + mantissa.toNat = 0 * 2 ^ 63 + _
    omega
  | negative =>
    change (1 * 2 ^ 11 + exponent.toNat) * 2 ^ 52 + mantissa.toNat = 1 * 2 ^ 63 + _
    omega

/-- The bits behind the sign stay, unless the float is not a number. -/
theorem exists_splits_neg {x : Float} (h : ∀ negative payload, ofFloat x ≠ .nan negative payload) :
    ∃ negative bits, Splits x.toBits.toNat negative bits ∧
      Splits (-x).toBits.toNat (!negative) bits := by
  have hpack : UnpackedFloat.pack .binary64 x.toModel.unpack = x.toBits.toBitVec :=
    pack_unpack_of_valid x.toModel.valid
  have hnumber : x.toModel.unpack ≠ .notANumber := by
    intro hnan
    rw [hnan] at hpack
    have hword : x.toBits.toNat = 0x7FF8000000000000 := by
      change x.toBits.toBitVec.toNat = _
      rw [← hpack]
      rfl
    refine h false (2 ^ 51) ?_
    rw [ofFloat, hword]
    decide
  obtain ⟨sign, exponent, mantissa, hself, hneg⟩ := exists_packComponents hnumber
  rw [hpack] at hself
  refine ⟨sign == .negative, exponent.toNat * 2 ^ 52 + mantissa.toNat, ?_, ?_⟩
  · have hsplits := splits_packComponents sign exponent mantissa
    rwa [← hself] at hsplits
  · have hsplits := splits_packComponents (-sign) exponent mantissa
    rw [← hneg] at hsplits
    have hsign : (-sign == .negative) = !(sign == .negative) := by
      cases sign <;> rfl
    rwa [hsign] at hsplits

/-- The opposite of a float decodes to the opposite number. -/
theorem ofFloat_neg {x : Float} {negative : Bool} {m : Nat} {q : Int}
    (h : ofFloat x = .finite negative m q) : ofFloat (-x) = .finite (!negative) m q := by
  obtain ⟨negative', bits, hsplits, hopposite⟩ := exists_splits_neg (x := x) (by rw [h]; simp)
  rw [ofFloat, hsplits.decode] at h
  rw [ofFloat, hopposite.decode]
  split at h
  · split at h <;> simp at h
  · next hfield =>
    rw [if_neg hfield]
    split at h
    · next hzero =>
      rw [if_pos hzero]
      simp_all
    · next hnonzero =>
      rw [if_neg hnonzero]
      simp_all

end MarketQuery.Decimal
