import MarketQuery.Decimal.Fixed
import MarketQuery.Proofs.Decimal.Finite
import MarketQuery.Proofs.Decimal.Numerals

/-!
What a float written with a fixed number of decimal places looks like. A finite float is a sign or
none, at least one digit, a point, and exactly so many digits; no other text comes out.
-/
namespace MarketQuery.Decimal

/-- A minus sign or none, digits, a point, and so many digits. -/
inductive HasPlaces (places : Nat) : List Char → Prop
  | intro {sign whole fraction : List Char} (hsign : sign = [] ∨ sign = ['-']) (hwhole : whole ≠ [])
      (hlength : fraction.length = places) (hdigits : ∀ c ∈ whole ++ fraction, c.isDigit = true) :
      HasPlaces places (sign ++ (whole ++ '.' :: fraction))

theorem value_zeros_append (k : Nat) (ds : List Char) :
    value (List.replicate k '0' ++ ds) = value ds := by
  induction k with
  | zero => rfl
  | succ k ih =>
    rw [List.replicate_succ, List.cons_append, ← ih]
    rfl

/-- A number with a point before the last of its digits: so many digits behind the point, and before
it those that are left, or a zero. -/
structure Pointed (places n : Nat) (whole fraction : List Char) : Prop where
  text_eq : withPoint places n = whole ++ '.' :: fraction
  digits : ∀ c ∈ whole ++ fraction, c.isDigit = true
  denoted_eq : denoted (whole ++ fraction) = n
  length_whole : whole.length = max 1 ((Decimal.digits n).length - places)
  length_fraction : fraction.length = places

theorem Pointed.whole_ne_nil {places n : Nat} {whole fraction : List Char}
    (h : Pointed places n whole fraction) : whole ≠ [] := by
  have hlength := h.length_whole
  exact List.ne_nil_of_length_pos (by omega)

theorem exists_pointed (places n : Nat) : ∃ whole fraction, Pointed places n whole fraction := by
  let padded := List.replicate (places + 1 - (digits n).length) '0' ++ digits n
  have hlength : padded.length = max (places + 1) (digits n).length := by
    simp only [padded, List.length_append, List.length_replicate]
    omega
  have hdigits : ∀ c ∈ padded, c.isDigit = true := by
    intro c hc
    rcases List.mem_append.mp hc with hzero | hdigit
    · rw [List.eq_of_mem_replicate hzero]
      decide
    · exact Nat.isDigit_of_mem_toDigits (by decide) (by decide) hdigit
  refine ⟨padded.take (padded.length - places), padded.drop (padded.length - places), rfl, ?_, ?_,
    ?_, ?_⟩
  · rwa [List.take_append_drop]
  · rw [List.take_append_drop, ← value_eq_denoted, value_zeros_append, value_digits]
  · rw [List.length_take]
    omega
  · rw [List.length_drop]
    omega

theorem hasPlaces_fixed (places : Nat) {x : Float} (h : x.isFinite = true) :
    HasPlaces places (fixed places x) := by
  obtain ⟨negative, m, q, hx⟩ := exists_ofFloat h
  obtain ⟨whole, fraction, hpointed⟩ := exists_pointed places (scaled places m q)
  have hsign : signMark false (.finite negative m q) = [] ∨
      signMark false (.finite negative m q) = ['-'] := by
    cases negative
    · exact .inl rfl
    · exact .inr rfl
  rw [fixed, hx, magnitude, hpointed.text_eq]
  exact .intro hsign hpointed.whole_ne_nil hpointed.length_fraction hpointed.digits

end MarketQuery.Decimal
