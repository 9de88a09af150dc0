import MarketQuery.Proofs.Answer.Amounts

/-!
How dollar amounts are laid out. Who reads an amount expects separators and two decimals from a
thousand on, and four decimals from one on. The layout is chosen by the amount itself and not by the
number that is shown. So an amount that is rounded up to a thousand or to one still has the layout of
the smaller amounts, and no other amount has a wrong one.
-/
namespace MarketQuery.Figures

open Decimal

/-- The text of a dollar amount is a minus sign or none, the dollar sign, an integer part, a point
and decimals. -/
inductive DollarText : String → List Char → List Char → Prop
  | intro {sign whole fraction : List Char} (hsign : sign = [] ∨ sign = ['-'])
      (hwhole : '.' ∉ whole) :
      DollarText (String.ofList (sign ++ '$' :: (whole ++ '.' :: fraction))) whole fraction

/-- What is expected of an integer part and of decimals that show a magnitude. -/
structure LaidOut (whole fraction : List Char) (magnitude : ℚ) : Prop where
  separated : ∀ run, run <:+: whole → (∀ c ∈ run, c.isDigit = true) → run.length < 4
  large : 1000 ≤ magnitude → Grouped whole ∧ fraction.length = 2
  middling : 1 ≤ magnitude → magnitude < 1000 → fraction.length = 4

/-- The text of a dollar amount is laid out as the number that it shows should be. -/
def WellLaidOut (text : String) : Prop :=
  ∀ whole fraction places shown, DollarText text whole fraction →
    Shows ['$', ','] text places shown → LaidOut whole fraction |shown|

theorem DollarText.unique {text : String} {whole fraction whole' fraction' : List Char}
    (h : DollarText text whole fraction) (h' : DollarText text whole' fraction') :
    whole = whole' ∧ fraction = fraction' := by
  obtain @⟨sign, whole, fraction, hsign, hwhole⟩ := h
  generalize htext : String.ofList (sign ++ '$' :: (whole ++ '.' :: fraction)) = text at h'
  obtain @⟨sign', whole', fraction', hsign', hwhole'⟩ := h'
  have hparts : whole ++ '.' :: fraction = whole' ++ '.' :: fraction' := by
    have hlists := congrArg String.toList htext
    rw [String.toList_ofList, String.toList_ofList] at hlists
    rcases hsign with rfl | rfl
    · rcases hsign' with rfl | rfl
      · simpa using hlists
      · simp at hlists
    · rcases hsign' with rfl | rfl
      · simp at hlists
      · simpa using hlists
  have hrun {s : List Char} (h : '.' ∉ s) : ∀ c ∈ s, (c != '.') = true := by
    intro c hc
    simp only [bne_iff_ne]
    rintro rfl
    exact h hc
  obtain ⟨rfl, hrest⟩ :=
    Text.run_append_inj (hrun hwhole) (hrun hwhole') (by simp) (by simp) hparts
  exact ⟨rfl, List.tail_eq_of_cons_eq hrest⟩

theorem wellLaidOut_iff {text : String} {whole fraction : List Char} {places : Nat} {shown : ℚ}
    (htext : DollarText text whole fraction) (hshows : Shows ['$', ','] text places shown) :
    WellLaidOut text ↔ LaidOut whole fraction |shown| := by
  constructor
  · intro h
    exact h whole fraction places shown htext hshows
  · intro h whole' fraction' places' shown' htext' hshows'
    obtain ⟨rfl, rfl⟩ := htext.unique htext'
    obtain ⟨-, rfl⟩ := SpellsDecimal.unique hshows hshows'
    exact h

variable {n : Nat} {whole fraction : List Char} {r : ℚ}

theorem laidOut_of_large (h : Pointed 2 n whole fraction) (hround : RoundsTo 2 r (n / 10 ^ 2))
    (hr : 1000 ≤ r) : LaidOut (groupInteger whole) fraction (n / 10 ^ 2) := by
  have hdigits : ∀ c ∈ whole, c.isDigit = true :=
    fun c hc => h.digits c (List.mem_append_left _ hc)
  have hgrouped := grouped_groupInteger h.whole_ne_nil hdigits
  have hthousand : (1000 : ℚ) ≤ n / 10 ^ 2 := by
    refine (hround.natCast_le_iff (by decide) 1000).mpr ?_
    norm_num
    linarith
  refine ⟨fun run hin hrun => ?_, fun _ => ⟨hgrouped, h.length_fraction⟩, fun _ hless => ?_⟩
  · exact Nat.lt_succ_of_le (hgrouped.length_run_le hrun hin)
  · exact absurd hthousand (not_le.mpr hless)

/-- A number below a thousand has three digits at most before the point. -/
theorem length_run_lt {places : Nat} (h : Pointed places n whole fraction)
    (hsmall : (n : ℚ) / 10 ^ places < 1000) {run : List Char} (hin : run <:+: whole) :
    run.length < 4 := by
  have hn : n < 10 ^ (places + 3) := by
    rw [div_lt_iff₀ (by positivity)] at hsmall
    rw [Nat.pow_add, Nat.mul_comm]
    exact_mod_cast hsmall
  have hlength : (digits n).length ≤ places + 3 :=
    (Nat.length_toDigits_le_iff (by decide) (by omega)).mpr hn
  have hwhole := h.length_whole
  have hrun := hin.length_le
  omega

theorem thousand_le_iff (hround : RoundsTo 4 r (n / 10 ^ 4)) :
    ((1000 : Nat) : ℚ) ≤ n / 10 ^ 4 ↔ 999.99995 ≤ r := by
  have hiff := hround.natCast_le_iff (by decide) 1000
  norm_num at hiff ⊢
  exact hiff

theorem laidOut_middling_iff (h : Pointed 4 n whole fraction)
    (hround : RoundsTo 4 r (n / 10 ^ 4)) :
    LaidOut whole fraction (n / 10 ^ 4) ↔ r < 999.99995 := by
  rw [← not_le, ← thousand_le_iff hround]
  constructor
  · intro hlaid hreached
    have htwo := (hlaid.large (by exact_mod_cast hreached)).2
    rw [h.length_fraction] at htwo
    exact absurd htwo (by decide)
  · intro hless
    have hsmall : (n : ℚ) / 10 ^ 4 < 1000 := by exact_mod_cast not_le.mp hless
    exact ⟨fun run hin _ => length_run_lt h hsmall hin, fun hle => absurd hle (not_le.mpr hsmall),
      fun _ _ => h.length_fraction⟩

theorem one_le_iff (hround : RoundsTo 6 r (n / 10 ^ 6)) :
    ((1 : Nat) : ℚ) ≤ n / 10 ^ 6 ↔ 0.9999995 ≤ r := by
  have hiff := hround.natCast_le_iff (by decide) 1
  norm_num at hiff ⊢
  exact hiff

theorem laidOut_small_iff (h : Pointed 6 n whole fraction)
    (hround : RoundsTo 6 r (n / 10 ^ 6)) (hr : r < 1) :
    LaidOut whole fraction (n / 10 ^ 6) ↔ r < 0.9999995 := by
  have hbound : (n : ℚ) / 10 ^ 6 ≤ 1 := by
    exact_mod_cast hround.mono (.natCast 6 1) (by exact_mod_cast hr.le)
  rw [← not_le, ← one_le_iff hround]
  constructor
  · intro hlaid hreached
    have hfour := hlaid.middling (by exact_mod_cast hreached) (by linarith)
    rw [h.length_fraction] at hfour
    exact absurd hfour (by decide)
  · intro hless
    have hsmall : (n : ℚ) / 10 ^ 6 < 1 := by exact_mod_cast not_le.mp hless
    exact ⟨fun run hin _ => length_run_lt h (by linarith) hin, fun hle => by linarith,
      fun hle => absurd hle (not_le.mpr hsmall)⟩

theorem dollarText_of_toList {text : String}
    (htext : text.toList = (if r < 0 then ['-'] else []) ++ '$' :: (whole ++ '.' :: fraction))
    (hwhole : '.' ∉ whole) : DollarText text whole fraction := by
  have heq : text = String.ofList text.toList := String.ofList_toList.symm
  rw [heq, htext]
  refine .intro ?_ hwhole
  split
  · exact .inr rfl
  · exact .inl rfl

theorem eq_append_of_toList {text digits : String}
    (h : text.toList = (if r < 0 then ['-'] else []) ++ digits.toList) :
    text = (if r < 0 then "-" else "") ++ digits := by
  rw [← String.toList_inj, String.toList_append, h]
  split <;> rfl

theorem point_not_mem_groupInteger (h : '.' ∉ whole) : '.' ∉ groupInteger whole := by
  intro hmem
  have hfilter : '.' ∈ (groupInteger whole).filter (· != ',') :=
    List.mem_filter.mpr ⟨hmem, by decide⟩
  rw [filter_groupInteger (by decide)] at hfilter
  exact h (List.mem_of_mem_filter hfilter)

/-- What the text of an amount consists of: the digits of its rounded magnitude, with separators in
the integer part from a thousand on. -/
structure Parts (x : Float) (r : ℚ) (n : Nat) (whole fraction : List Char) (shown : ℚ) : Prop where
  pointed : Pointed (placesOfDollars |r|) n whole fraction
  rounds : RoundsTo (placesOfDollars |r|) |r| (n / 10 ^ placesOfDollars |r|)
  shows : Shows ['$', ','] (usd x) (placesOfDollars |r|) shown
  abs_shown : |shown| = n / 10 ^ placesOfDollars |r|
  toList_usd : (usd x).toList = (if r < 0 then ['-'] else []) ++
    '$' :: ((if 1000 ≤ |r| then groupInteger whole else whole) ++ '.' :: fraction)

variable {x : Float} {shown : ℚ}

theorem exists_parts (hr : (ofFloat x).value? = some r) :
    ∃ n whole fraction shown, Parts x r n whole fraction shown := by
  obtain ⟨m, q, habs, htext⟩ := usdStyle.exists_body hr
  obtain ⟨whole, fraction, h⟩ :=
    exists_pointed (placesOfDollars |r|) (scaled (placesOfDollars |r|) m q)
  have hround := roundsTo_scaled (placesOfDollars |r|) m q
  rw [← habs] at hround
  have hdigits : ∀ c ∈ whole, c.isDigit = true :=
    fun c hc => h.digits c (List.mem_append_left _ hc)
  have hbody : usdStyle.body m q =
      '$' :: ((if 1000 ≤ |r| then groupInteger whole else whole) ++ '.' :: fraction) := by
    change '$' :: dollarDigits (.finite false m q) = _
    rw [dollarDigits_finite, ← habs, h.text_eq]
    dsimp only
    split
    · rw [groupThousands_append hdigits]
    · rfl
  refine ⟨_, whole, fraction, _, h, hround, usdStyle.shows_of_body habs htext, ?_, ?_⟩
  · have hnonneg := hround.nonneg
    split
    · rw [abs_neg]
      exact abs_of_nonneg hnonneg
    · exact abs_of_nonneg hnonneg
  · rw [htext, hbody]

namespace Parts

variable (h : Parts x r n whole fraction shown)
include h

theorem dollarText :
    DollarText (usd x) (if 1000 ≤ |r| then groupInteger whole else whole) fraction := by
  have hwhole : '.' ∉ whole := by
    intro hmem
    exact absurd (h.pointed.digits '.' (List.mem_append_left _ hmem)) (by decide)
  refine dollarText_of_toList h.toList_usd ?_
  split
  · exact point_not_mem_groupInteger hwhole
  · exact hwhole

theorem wellLaidOut_iff : WellLaidOut (usd x) ↔
    LaidOut (if 1000 ≤ |r| then groupInteger whole else whole) fraction
      (n / 10 ^ placesOfDollars |r|) := by
  rw [← h.abs_shown]
  exact Figures.wellLaidOut_iff h.dollarText h.shows

/-- The text of an amount that is rounded up to an integer, but is below a thousand itself. -/
theorem usd_of_reached {places k : Nat} (hplaces : placesOfDollars |r| = places)
    (hsmall : |r| < 1000) (hr : |r| ≤ k) (hreached : (k : ℚ) ≤ n / 10 ^ places) {digits : String}
    (hdigits : '$' :: withPoint places (k * 10 ^ places) = digits.toList) :
    usd x = (if r < 0 then "-" else "") ++ digits := by
  obtain ⟨hpointed, hround, -, -, htext⟩ := h
  rw [hplaces] at hpointed hround
  have hpos : (0 : ℚ) < 10 ^ places := by positivity
  have hn : (n : ℚ) = (k * 10 ^ places : Nat) := by
    push_cast
    rw [← hround.eq_natCast hr hreached, div_mul_cancel₀ _ hpos.ne']
  obtain rfl : n = k * 10 ^ places := by exact_mod_cast hn
  rw [if_neg (not_le.mpr hsmall), ← hpointed.text_eq, hdigits] at htext
  exact eq_append_of_toList htext

theorem wellLaidOut_of_large (hr : 1000 ≤ |r|) : WellLaidOut (usd x) := by
  have hplaces : placesOfDollars |r| = 2 := if_pos hr
  obtain ⟨hpointed, hround, -⟩ := id h
  rw [hplaces] at hpointed hround
  rw [h.wellLaidOut_iff, if_pos hr, hplaces]
  exact laidOut_of_large hpointed hround hr

theorem wellLaidOut_middling_iff (hr : 1 ≤ |r|) (hr' : |r| < 1000) :
    (WellLaidOut (usd x) ↔ |r| < 999.99995) ∧
      (999.99995 ≤ |r| → usd x = (if r < 0 then "-" else "") ++ "$1000.0000") := by
  have hplaces : placesOfDollars |r| = 4 := by
    rw [placesOfDollars, if_neg (not_le.mpr hr'), if_pos hr]
  obtain ⟨hpointed, hround, -⟩ := id h
  rw [hplaces] at hpointed hround
  rw [h.wellLaidOut_iff, if_neg (not_le.mpr hr'), hplaces]
  refine ⟨laidOut_middling_iff hpointed hround, fun hreached => ?_⟩
  exact h.usd_of_reached hplaces hr' (by exact_mod_cast hr'.le)
    ((thousand_le_iff hround).mpr hreached) (by decide)

theorem wellLaidOut_small_iff (hr : |r| < 1) :
    (WellLaidOut (usd x) ↔ |r| < 0.9999995) ∧
      (0.9999995 ≤ |r| → usd x = (if r < 0 then "-" else "") ++ "$1.000000") := by
  have hless : |r| < 1000 := hr.trans (by norm_num)
  have hplaces : placesOfDollars |r| = 6 := by
    rw [placesOfDollars, if_neg (not_le.mpr hless), if_neg (not_le.mpr hr)]
  obtain ⟨hpointed, hround, -⟩ := id h
  rw [hplaces] at hpointed hround
  rw [h.wellLaidOut_iff, if_neg (not_le.mpr hless), hplaces]
  refine ⟨laidOut_small_iff hpointed hround hr, fun hreached => ?_⟩
  exact h.usd_of_reached hplaces hless (by exact_mod_cast hr.le)
    ((one_le_iff hround).mpr hreached) (by decide)

end Parts

/-- A dollar amount is laid out as the number that it shows should be, exactly if it is not rounded
up to a thousand or to one. There it has the decimals of the smaller amounts, and a thousand has no
separator. -/
theorem usd_wellLaidOut_iff {x : Float} (hx : x.isFinite = true) :
    ∃ r, (ofFloat x).value? = some r ∧
      (∃ whole fraction places shown, DollarText (usd x) whole fraction ∧
        Shows ['$', ','] (usd x) places shown) ∧
      (WellLaidOut (usd x) ↔
        ¬ (999.99995 ≤ |r| ∧ |r| < 1000) ∧ ¬ (0.9999995 ≤ |r| ∧ |r| < 1)) ∧
      (999.99995 ≤ |r| → |r| < 1000 → usd x = (if r < 0 then "-" else "") ++ "$1000.0000") ∧
      (0.9999995 ≤ |r| → |r| < 1 → usd x = (if r < 0 then "-" else "") ++ "$1.000000") := by
  obtain ⟨negative, m, q, hfloat⟩ := exists_ofFloat hx
  obtain ⟨r, hr⟩ : ∃ r, (ofFloat x).value? = some r := ⟨_, by rw [hfloat, Binary.value?]⟩
  obtain ⟨n, whole, fraction, shown, h⟩ := exists_parts hr
  refine ⟨r, hr, ⟨_, _, _, _, h.dollarText, h.shows⟩, ?_⟩
  rcases le_or_gt 1000 |r| with hlarge | hless
  · have hlaid := h.wellLaidOut_of_large hlarge
    refine ⟨iff_of_true hlaid ⟨?_, ?_⟩, ?_, ?_⟩
    · exact fun hrange => absurd hrange.2 (not_lt.mpr hlarge)
    · exact fun hrange => absurd hlarge (by linarith [hrange.2])
    · exact fun _ hless => absurd hless (not_lt.mpr hlarge)
    · exact fun _ hless => absurd hlarge (by linarith)
  · rcases le_or_gt 1 |r| with hone | hsmall
    · obtain ⟨hiff, htext⟩ := h.wellLaidOut_middling_iff hone hless
      refine ⟨hiff.trans ⟨fun hbelow => ⟨?_, ?_⟩, fun hrange => ?_⟩, ?_, ?_⟩
      · exact fun hrange => absurd hrange.1 (not_le.mpr hbelow)
      · exact fun hrange => absurd hrange.2 (not_lt.mpr hone)
      · exact not_le.mp fun hle => hrange.1 ⟨hle, hless⟩
      · exact fun hreached _ => htext hreached
      · exact fun _ hlt => absurd hlt (not_lt.mpr hone)
    · obtain ⟨hiff, htext⟩ := h.wellLaidOut_small_iff hsmall
      refine ⟨hiff.trans ⟨fun hbelow => ⟨?_, ?_⟩, fun hrange => ?_⟩, ?_, ?_⟩
      · exact fun hrange => absurd hrange.1 (by linarith)
      · exact fun hrange => absurd hrange.1 (not_le.mpr hbelow)
      · exact not_le.mp fun hle => hrange.2 ⟨hle, hsmall⟩
      · exact fun hreached _ => absurd hreached (by linarith)
      · exact fun hreached _ => htext hreached

/-- An amount just below a thousand that is not rounded up to it. -/
theorem usd_wellLaidOut_iff_below_thousand :
    (-999.9999 : Float).isFinite = true ∧ WellLaidOut (usd (-999.9999)) := by
  have hfinite : (-999.9999 : Float).isFinite = true := by decide +kernel
  have hfloat : ofFloat (-999.9999) = .finite true 8796092142598698 (-43) := by decide +kernel
  obtain ⟨r, hr, -, hiff, -⟩ := usd_wellLaidOut_iff hfinite
  rw [hfloat, Binary.value?, Option.some.injEq] at hr
  have habs : |r| = 8796092142598698 / 2 ^ 43 := by
    rw [← hr, abs_signedValue]
    norm_num
  refine ⟨hfinite, hiff.mpr ⟨fun hrange => ?_, fun hrange => ?_⟩⟩
  · rw [habs] at hrange
    norm_num at hrange
  · rw [habs] at hrange
    norm_num at hrange

/-- The same amount with one more decimal is rounded up, and has no separator. -/
theorem usd_rounded_up_to_thousand :
    (999.99999 : Float).isFinite = true ∧ usd 999.99999 = "$1000.0000" ∧
      ¬ WellLaidOut (usd 999.99999) := by
  have htext : usd 999.99999 = "$1000.0000" := by decide +kernel
  refine ⟨by decide +kernel, htext, fun hlaid => ?_⟩
  rw [htext] at hlaid
  have hdollar : DollarText "$1000.0000" "1000".toList "0000".toList :=
    @DollarText.intro [] "1000".toList "0000".toList (.inl rfl) (by decide)
  have hshows : Shows ['$', ','] "$1000.0000" 4 (denoted "10000000".toList / 10 ^ 4) :=
    .unsigned (@SpellsMagnitude.intro 4 "1000".toList "0000".toList (by decide) rfl (by simp))
  have hrun := (hlaid _ _ _ _ hdollar hshows).separated "1000".toList List.infix_rfl (by simp)
  exact absurd hrun (by decide)

end MarketQuery.Figures
