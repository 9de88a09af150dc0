import MarketQuery.Answer.Figures
import MarketQuery.Proofs.Decimal.Decimals
import MarketQuery.Proofs.Decimal.Grouping
import MarketQuery.Proofs.Decimal.Opposite
import MarketQuery.Proofs.Decimal.Rounding

/-!
What the texts of amounts say of the amounts. Dollars and reserves are written in one style: a minus
sign where the amount is below zero, and then, among marks that only help the eye, its magnitude
rounded to a number of places. The number of places depends on the magnitude and changes at integers
only. So the text of a larger amount shows no smaller number, with however many places.
-/
namespace MarketQuery.Figures

open Decimal

/-- A text shows a number with so many places: this decimal is left where its marks are erased. -/
def Shows (marks : List Char) (text : String) (places : Nat) (shown : ℚ) : Prop :=
  SpellsDecimal places (text.toList.filter fun c => !marks.contains c) shown

/-- What the readers of amounts rely on. A text shows a number within half a unit of its last place
of the amount, with a minus sign in front exactly below zero; opposite amounts differ by this sign
only; and the numbers shown are in the order of the amounts. -/
structure Faithful (marks : List Char) (write : Float → String) : Prop where
  near : ∀ x : Float, x.isFinite = true →
    ∃ r places shown, (ofFloat x).value? = some r ∧ Shows marks (write x) places shown ∧
      |shown - r| ≤ 1 / 2 / 10 ^ places ∧ ((write x).toList.head? = some '-' ↔ r < 0)
  opposite : ∀ (x : Float) (r : ℚ), (ofFloat x).value? = some r → 0 < r →
    write (-x) = "-" ++ write x
  ordered : ∀ (x y : Float) (r s : ℚ),
    (ofFloat x).value? = some r → (ofFloat y).value? = some s → r ≤ s →
    ∀ places shown places' shown', Shows marks (write x) places shown →
      Shows marks (write y) places' shown' → shown ≤ shown'

/-- A style in which amounts are written: behind a minus sign, if there is one, a body that is the
rounded magnitude but for its marks. An integer lies between magnitudes that have other places. -/
structure Style (marks : List Char) (write : Float → String) where
  body : Nat → Int → List Char
  places : ℚ → Nat
  toList_write : ∀ {x : Float} {negative : Bool} {m : Nat} {q : Int},
    ofFloat x = .finite negative m q →
      (write x).toList = (if negative = true ∧ m ≠ 0 then ['-'] else []) ++ body m q
  filter_body : ∀ (m : Nat) (q : Int), ((body m q).filter fun c => !marks.contains c) =
    withPoint (places (m * 2 ^ q)) (scaled (places (m * 2 ^ q)) m q)
  minus_not_mem : '-' ∉ marks
  places_eq : ∀ {r s : ℚ}, r ≤ s → places r = places s ∨ ∃ n : Nat, r ≤ n ∧ n ≤ s

namespace Style

variable {marks : List Char} {write : Float → String}

theorem head_body (style : Style marks write) (m : Nat) (q : Int) :
    (style.body m q).head? ≠ some '-' := by
  intro hhead
  obtain ⟨rest, hbody⟩ : ∃ rest, style.body m q = '-' :: rest := by
    cases h : style.body m q with
    | nil => simp [h] at hhead
    | cons c rest =>
      rw [h, List.head?_cons, Option.some.injEq] at hhead
      exact ⟨rest, by rw [hhead]⟩
  have hspells := spellsMagnitude_withPoint (style.places (m * 2 ^ q))
    (scaled (style.places (m * 2 ^ q)) m q)
  rw [← style.filter_body, hbody, List.filter_cons, if_pos (by simpa using style.minus_not_mem)]
    at hspells
  exact hspells.not_minus

theorem exists_body (style : Style marks write) {x : Float} {r : ℚ}
    (h : (ofFloat x).value? = some r) :
    ∃ (m : Nat) (q : Int), |r| = m * 2 ^ q ∧
      (write x).toList = (if r < 0 then ['-'] else []) ++ style.body m q := by
  obtain ⟨negative, m, q, hx, rfl⟩ := Binary.value?_eq_some_iff.mp h
  exact ⟨m, q, abs_signedValue negative m q, by
    simp only [style.toList_write hx, signedValue_neg_iff]⟩

/-- What is shown: the rounded magnitude, with the sign of the amount. -/
theorem shows_of_body (style : Style marks write) {x : Float} {r : ℚ} {m : Nat} {q : Int}
    (habs : |r| = m * 2 ^ q)
    (htext : (write x).toList = (if r < 0 then ['-'] else []) ++ style.body m q) :
    Shows marks (write x) (style.places |r|)
      (if r < 0 then -(scaled (style.places |r|) m q / 10 ^ style.places |r| : ℚ)
        else scaled (style.places |r|) m q / 10 ^ style.places |r|) := by
  have hspells := spellsMagnitude_withPoint (style.places |r|) (scaled (style.places |r|) m q)
  rw [Shows, htext, List.filter_append, style.filter_body, ← habs]
  split
  · have hminus : (['-'].filter fun c => !marks.contains c) = ['-'] := by
      simpa using style.minus_not_mem
    rw [hminus]
    exact .minus hspells
  · exact .unsigned hspells

theorem exists_shown (style : Style marks write) {x : Float} {r : ℚ}
    (h : (ofFloat x).value? = some r) :
    ∃ a, RoundsTo (style.places |r|) |r| a ∧
      Shows marks (write x) (style.places |r|) (if r < 0 then -a else a) := by
  obtain ⟨m, q, habs, htext⟩ := style.exists_body h
  have hround := roundsTo_scaled (style.places |r|) m q
  rw [← habs] at hround
  exact ⟨_, hround, style.shows_of_body habs htext⟩

theorem head_write_iff (style : Style marks write) {x : Float} {r : ℚ}
    (h : (ofFloat x).value? = some r) : (write x).toList.head? = some '-' ↔ r < 0 := by
  obtain ⟨m, q, -, htext⟩ := style.exists_body h
  rw [htext]
  split
  · next hneg => simpa using hneg
  · next hneg => exact iff_of_false (style.head_body m q) hneg

/-- The opposite of a positive amount has the same body. -/
theorem write_neg (style : Style marks write) {x : Float} {r : ℚ}
    (h : (ofFloat x).value? = some r) (hpos : 0 < r) : write (-x) = "-" ++ write x := by
  obtain ⟨negative, m, q, hx, rfl⟩ := Binary.value?_eq_some_iff.mp h
  have hm : m ≠ 0 := by
    rintro rfl
    simp [signedValue] at hpos
  have hsign : negative = false := by
    by_contra htrue
    exact hpos.not_gt (signedValue_neg_iff.mpr ⟨by simpa using htrue, hm⟩)
  rw [hsign] at hx
  have hbody : (write x).toList = style.body m q := by simp [style.toList_write hx]
  have hopposite : (write (-x)).toList = '-' :: style.body m q := by
    simp [style.toList_write (ofFloat_neg hx), hm]
  rw [← String.toList_inj, String.toList_append, hopposite, hbody]
  rfl

/-- Larger magnitudes are not rounded to smaller numbers. -/
theorem mono (style : Style marks write) {u v a b : ℚ} (ha : RoundsTo (style.places u) u a)
    (hb : RoundsTo (style.places v) v b) (hle : u ≤ v) : a ≤ b := by
  rcases style.places_eq hle with hplaces | ⟨n, hu, hv⟩
  · rw [hplaces] at ha
    exact ha.mono hb hle
  · exact ha.le_across hb hu hv

theorem faithful (style : Style marks write) : Faithful marks write := by
  constructor
  case near =>
    intro x hx
    obtain ⟨negative, m, q, hfloat⟩ := exists_ofFloat hx
    obtain ⟨r, hr⟩ : ∃ r, (ofFloat x).value? = some r := ⟨_, by rw [hfloat, Binary.value?]⟩
    obtain ⟨a, hround, hshows⟩ := style.exists_shown hr
    refine ⟨r, _, _, hr, hshows, ?_, style.head_write_iff hr⟩
    by_cases hneg : r < 0
    · have hdistance : |-a - r| = |a - (|r|)| := by
        rw [abs_of_neg hneg, ← abs_neg]
        congr 1
        ring
      rw [if_pos hneg, hdistance]
      exact hround.near
    · have hdistance : |a - r| = |a - (|r|)| := by rw [abs_of_nonneg (not_lt.mp hneg)]
      rw [if_neg hneg, hdistance]
      exact hround.near
  case opposite =>
    intro x r hr hpos
    exact style.write_neg hr hpos
  case ordered =>
    intro x y r s hr hs hle places shown places' shown' hshown hshown'
    obtain ⟨a, hround, hshows⟩ := style.exists_shown hr
    obtain ⟨b, hround', hshows'⟩ := style.exists_shown hs
    obtain ⟨-, rfl⟩ := hshown.unique hshows
    obtain ⟨-, rfl⟩ := hshown'.unique hshows'
    by_cases hneg : r < 0
    · rw [if_pos hneg]
      by_cases hneg' : s < 0
      · rw [if_pos hneg']
        have habs : |s| ≤ |r| := by
          rw [abs_of_neg hneg, abs_of_neg hneg']
          exact neg_le_neg hle
        exact neg_le_neg (style.mono hround' hround habs)
      · rw [if_neg hneg']
        exact (neg_nonpos.mpr hround.nonneg).trans hround'.nonneg
    · have hneg' : ¬ s < 0 := fun hs => hneg (hle.trans_lt hs)
      rw [if_neg hneg, if_neg hneg']
      have habs : |r| ≤ |s| := by
        rwa [abs_of_nonneg (not_lt.mp hneg), abs_of_nonneg (not_lt.mp hneg')]
      exact style.mono hround hround' habs

end Style

def placesOfDollars (r : ℚ) : Nat :=
  if 1000 ≤ r then 2 else if 1 ≤ r then 4 else 6

theorem dollarPlaces_finite (negative : Bool) (m : Nat) (q : Int) :
    dollarPlaces (.finite negative m q) = placesOfDollars (m * 2 ^ q) := by
  simp only [dollarPlaces, placesOfDollars, Binary.atLeast_finite_iff]
  norm_num

/-- The digits have separators from a thousand on. -/
theorem dollarDigits_finite (negative : Bool) (m : Nat) (q : Int) :
    dollarDigits (.finite negative m q) =
      let digits := withPoint (placesOfDollars (m * 2 ^ q))
        (scaled (placesOfDollars (m * 2 ^ q)) m q)
      if (1000 : ℚ) ≤ m * 2 ^ q then groupThousands digits else digits := by
  simp only [dollarDigits, dollarPlaces_finite, Binary.atLeast_finite_iff, magnitude]
  norm_num

/-- The places change at one dollar and at a thousand. -/
theorem placesOfDollars_eq {r s : ℚ} (hle : r ≤ s) :
    placesOfDollars r = placesOfDollars s ∨ ∃ n : Nat, r ≤ n ∧ n ≤ s := by
  unfold placesOfDollars
  by_cases hlarge : 1000 ≤ s
  · by_cases hlarge' : 1000 ≤ r
    · exact .inl (by rw [if_pos hlarge, if_pos hlarge'])
    · exact .inr ⟨1000, by exact_mod_cast (not_le.mp hlarge').le, by exact_mod_cast hlarge⟩
  · have hlarge' : ¬ 1000 ≤ r := fun h => hlarge (h.trans hle)
    rw [if_neg hlarge, if_neg hlarge']
    by_cases hone : 1 ≤ s
    · by_cases hone' : 1 ≤ r
      · exact .inl (by rw [if_pos hone, if_pos hone'])
      · exact .inr ⟨1, by exact_mod_cast (not_le.mp hone').le, by exact_mod_cast hone⟩
    · have hone' : ¬ 1 ≤ r := fun h => hone (h.trans hle)
      exact .inl (by rw [if_neg hone, if_neg hone'])

/-- No mark is a digit or a point, so a number without separators is left as it is. -/
theorem filter_withPoint (marks : List Char)
    (hmarks : ∀ c ∈ marks, ¬ (c.isDigit = true ∨ c = '.')) (places n : Nat) :
    ((withPoint places n).filter fun c => !marks.contains c) = withPoint places n := by
  refine List.filter_eq_self.mpr fun c hc => ?_
  have hshown := (spellsMagnitude_withPoint places n).digit_or_point c hc
  have hmark : c ∉ marks := fun hmem => hmarks c hmem hshown
  simpa using hmark

def usdStyle : Style ['$', ','] usd where
  body m q := '$' :: dollarDigits (.finite false m q)
  places := placesOfDollars
  toList_write := by
    intro x negative m q hx
    simp [usd, hx, Binary.isNegative, dollarDigits_finite]
  filter_body := by
    intro m q
    have hplain := filter_withPoint ['$', ','] (by simp) (placesOfDollars (m * 2 ^ q))
      (scaled (placesOfDollars (m * 2 ^ q)) m q)
    rw [List.filter_cons, if_neg (by decide), dollarDigits_finite]
    dsimp only
    split
    · rw [filter_groupThousands (by decide)]
      exact hplain
    · exact hplain
  minus_not_mem := by decide
  places_eq := placesOfDollars_eq

def reserveStyle : Style [','] reserve where
  body m q := groupThousands (magnitude 4 (.finite false m q))
  places _ := 4
  toList_write := by
    intro x negative m q hx
    have hdigits : magnitude 4 (.finite negative m q) = magnitude 4 (.finite false m q) := by
      simp only [magnitude]
    simp [reserve, hx, Binary.isNegative, hdigits]
  filter_body := by
    intro m q
    rw [filter_groupThousands (by decide)]
    exact filter_withPoint [','] (by simp) 4 (scaled 4 m q)
  minus_not_mem := by decide
  places_eq _ := .inl rfl

/-- Dollars and reserves can be relied on. -/
theorem amounts_faithful : Faithful ['$', ','] usd ∧ Faithful [','] reserve :=
  ⟨usdStyle.faithful, reserveStyle.faithful⟩

end MarketQuery.Figures
