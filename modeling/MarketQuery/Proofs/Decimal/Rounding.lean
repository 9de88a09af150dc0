import MarketQuery.Decimal.Fixed
import MarketQuery.Proofs.Decimal.Integers

/-!
What rounding keeps of a number. The integer that a number is rounded to is at most a half away from
it, and even if it is just a half away. These two facts alone say where the integers go: a larger
number has no smaller integer, and an integer stays what it is. So a number that is rounded to
decimal places keeps its order to every other one, also to one that is rounded to more places or to
fewer, as long as an integer lies between the two.
-/
namespace MarketQuery.Decimal

/-- The integer nearest to a number; of two equally near ones the even one. -/
structure Nearest (r : ℚ) (n : Nat) : Prop where
  within_half : |(n : ℚ) - r| ≤ 1 / 2
  even_of_half : |(n : ℚ) - r| = 1 / 2 → Even n

theorem nearest_natCast (n : Nat) : Nearest n n := by
  exact ⟨by norm_num, fun h => by norm_num at h⟩

/-- A number reaches an even integer where it comes within a half of it. -/
theorem Nearest.le_iff {r : ℚ} {n k : Nat} (h : Nearest r n) (hk : Even k) :
    k ≤ n ↔ (k : ℚ) - 1 / 2 ≤ r := by
  obtain ⟨hlow, hhigh⟩ := abs_le.mp h.within_half
  constructor
  · intro hle
    have hcast : (k : ℚ) ≤ n := by exact_mod_cast hle
    linarith
  · intro hle
    by_contra hlt
    have hnext : (n : ℚ) + 1 ≤ k := by exact_mod_cast Nat.lt_of_not_le hlt
    have hhalf : (n : ℚ) - r = -(1 / 2) := by linarith
    have heven : Even n := h.even_of_half (by rw [hhalf, abs_neg, abs_of_pos (by norm_num)])
    have hsucc : k = n + 1 := by
      have hcast : (k : ℚ) = (n + 1 : Nat) := by
        push_cast
        linarith
      exact_mod_cast hcast
    rw [hsucc] at hk
    exact Nat.even_add_one.mp hk heven

theorem Nearest.mono {r s : ℚ} {n k : Nat} (hn : Nearest r n) (hk : Nearest s k) (hle : r ≤ s) :
    n ≤ k := by
  by_contra hlt
  have hnext : (k : ℚ) + 1 ≤ n := by exact_mod_cast Nat.lt_of_not_le hlt
  obtain ⟨hlow, hhigh⟩ := abs_le.mp hn.within_half
  obtain ⟨hlow', hhigh'⟩ := abs_le.mp hk.within_half
  -- Both numbers are halfway between two integers that follow each other, and both are even.
  have hhalf : (n : ℚ) - r = 1 / 2 := by linarith
  have hhalf' : (k : ℚ) - s = -(1 / 2) := by linarith
  have heven : Even n := hn.even_of_half (by rw [hhalf, abs_of_pos (by norm_num)])
  have heven' : Even k := hk.even_of_half (by rw [hhalf', abs_neg, abs_of_pos (by norm_num)])
  have hsucc : n = k + 1 := by
    have hcast : (n : ℚ) = (k + 1 : Nat) := by
      push_cast
      linarith
    exact_mod_cast hcast
  rw [hsucc] at heven
  exact Nat.even_add_one.mp heven heven'

/-- The quotient is rounded by the part of the divisor that remains. -/
theorem nearest_roundHalfEven {num den : Nat} (hden : 0 < den) :
    Nearest ((num : ℚ) / den) (roundHalfEven num den) := by
  have hpos : (0 : ℚ) < den := by exact_mod_cast hden
  have hsplit : (num : ℚ) = den * (num / den : Nat) + (num % den : Nat) := by
    exact_mod_cast (Nat.div_add_mod num den).symm
  obtain ⟨part, hpart⟩ : ∃ part : ℚ, part = ((num % den : Nat) : ℚ) / den := ⟨_, rfl⟩
  have hquotient : (num : ℚ) / den = (num / den : Nat) + part := by
    rw [hpart]
    nth_rewrite 1 [hsplit]
    rw [add_div, mul_div_cancel_left₀ _ hpos.ne']
  have hnonneg : 0 ≤ part := by
    rw [hpart]
    positivity
  have hone : part < 1 := by
    rw [hpart, div_lt_one hpos]
    exact_mod_cast Nat.mod_lt num hden
  have hless : 2 * (num % den) < den ↔ part < 1 / 2 := by
    rw [hpart, div_lt_div_iff₀ hpos two_pos, one_mul, mul_comm]
    norm_cast
  have hmore : den < 2 * (num % den) ↔ 1 / 2 < part := by
    rw [hpart, div_lt_div_iff₀ two_pos hpos, one_mul, mul_comm]
    norm_cast
  rw [hquotient]
  simp only [roundHalfEven, hless, hmore]
  by_cases hlow : part < 1 / 2
  · rw [if_pos hlow]
    have hdistance : |((num / den : Nat) : ℚ) - ((num / den : Nat) + part)| = part := by
      rw [sub_add_cancel_left, abs_neg, abs_of_nonneg hnonneg]
    exact ⟨by rw [hdistance]; exact hlow.le, fun h => absurd (hdistance.symm.trans h) hlow.ne⟩
  · rw [if_neg hlow]
    have hdistance : |((num / den + 1 : Nat) : ℚ) - ((num / den : Nat) + part)| = 1 - part := by
      push_cast
      rw [add_sub_add_left_eq_sub, abs_of_pos (by linarith)]
    by_cases hhigh : 1 / 2 < part
    · rw [if_pos hhigh]
      refine ⟨by rw [hdistance]; linarith, fun h => ?_⟩
      rw [hdistance] at h
      linarith
    · rw [if_neg hhigh]
      have hhalf : part = 1 / 2 := by linarith
      split
      · next heven =>
        refine ⟨?_, fun _ => Nat.even_iff.mpr heven⟩
        rw [hhalf, sub_add_cancel_left, abs_neg, abs_of_pos (by norm_num)]
      · next hodd =>
        refine ⟨?_, fun _ => Nat.even_add_one.mpr fun heven => hodd (Nat.even_iff.mp heven)⟩
        rw [hdistance, hhalf]
        norm_num

/-- A number that is not negative, rounded to so many decimal places. -/
def RoundsTo (places : Nat) (r a : ℚ) : Prop :=
  ∃ n : Nat, Nearest (r * 10 ^ places) n ∧ a = n / 10 ^ places

namespace RoundsTo

variable {places places' : Nat} {r s a b : ℚ}

theorem nonneg (h : RoundsTo places r a) : 0 ≤ a := by
  obtain ⟨n, -, rfl⟩ := h
  positivity

/-- The rounded number is within half a unit of its last place. -/
theorem near (h : RoundsTo places r a) : |a - r| ≤ 1 / 2 / 10 ^ places := by
  obtain ⟨n, hn, rfl⟩ := h
  have hpos : (0 : ℚ) < 10 ^ places := by positivity
  have hscale : (n : ℚ) / 10 ^ places - r = (n - r * 10 ^ places) / 10 ^ places := by
    rw [sub_div, mul_div_cancel_right₀ _ hpos.ne']
  rw [hscale, abs_div, abs_of_pos hpos]
  exact div_le_div_of_nonneg_right hn.within_half hpos.le

theorem mono (ha : RoundsTo places r a) (hb : RoundsTo places s b) (hle : r ≤ s) : a ≤ b := by
  obtain ⟨n, hn, rfl⟩ := ha
  obtain ⟨k, hk, rfl⟩ := hb
  have hpos : (0 : ℚ) < 10 ^ places := by positivity
  have hnk : n ≤ k := hn.mono hk (mul_le_mul_of_nonneg_right hle hpos.le)
  exact div_le_div_of_nonneg_right (by exact_mod_cast hnk) hpos.le

theorem natCast (places n : Nat) : RoundsTo places n n := by
  refine ⟨n * 10 ^ places, ?_, ?_⟩
  · simpa using nearest_natCast (n * 10 ^ places)
  · have hpos : (0 : ℚ) < 10 ^ places := by positivity
    push_cast
    rw [mul_div_cancel_right₀ _ hpos.ne']

/-- The order is kept where the number of places changes, if an integer lies between. -/
theorem le_across {n : Nat} (ha : RoundsTo places r a) (hb : RoundsTo places' s b)
    (hr : r ≤ n) (hs : n ≤ s) : a ≤ b :=
  (ha.mono (natCast places n) hr).trans ((natCast places' n).mono hb hs)

/-- A number up to an integer is rounded to it if it reaches it. -/
theorem eq_natCast {n : Nat} (h : RoundsTo places r a) (hr : r ≤ n) (ha : n ≤ a) : a = n :=
  le_antisymm (h.mono (natCast places n) hr) ha

/-- With a place or more, an integer is reached from half a unit of the last place on. -/
theorem natCast_le_iff (h : RoundsTo places r a) (hplaces : places ≠ 0) (k : Nat) :
    (k : ℚ) ≤ a ↔ k - 1 / 2 / 10 ^ places ≤ r := by
  obtain ⟨n, hn, rfl⟩ := h
  have hpos : (0 : ℚ) < 10 ^ places := by positivity
  have heven : Even (k * 10 ^ places) := by
    have hten : Even (10 ^ places) := Nat.even_pow.mpr ⟨by decide, hplaces⟩
    exact hten.mul_left k
  calc (k : ℚ) ≤ n / 10 ^ places ↔ k * 10 ^ places ≤ n := by
        rw [le_div_iff₀ hpos]
        norm_cast
    _ ↔ ((k * 10 ^ places : Nat) : ℚ) - 1 / 2 ≤ r * 10 ^ places := hn.le_iff heven
    _ ↔ (k - 1 / 2 / 10 ^ places) * 10 ^ places ≤ r * 10 ^ places := by
        rw [sub_mul, div_mul_cancel₀ _ hpos.ne']
        push_cast
        rfl
    _ ↔ k - 1 / 2 / 10 ^ places ≤ r := mul_le_mul_iff_left₀ hpos

end RoundsTo

theorem roundsTo_scaled (places m : Nat) (q : Int) :
    RoundsTo places (m * 2 ^ q) (scaled places m q / 10 ^ places) := by
  refine ⟨scaled places m q, ?_, rfl⟩
  have hnum : (m : ℚ) * 2 ^ q * 10 ^ places =
      ((Binary.ratio m q).1 * Nat.pow 10 places : Nat) / ((Binary.ratio m q).2 : Nat) := by
    have hpow : ((Nat.pow 10 places : Nat) : ℚ) = 10 ^ places := by
      change ((10 ^ places : Nat) : ℚ) = _
      push_cast
      rfl
    rw [← Binary.cast_ratio, Nat.cast_mul, hpow, div_mul_eq_mul_div]
  rw [hnum]
  exact nearest_roundHalfEven (Binary.ratio_pos m q)

end MarketQuery.Decimal
