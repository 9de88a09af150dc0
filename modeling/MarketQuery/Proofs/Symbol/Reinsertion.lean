import MarketQuery.Proofs.Symbol.Displays

/-!
Which inserts a display symbol outlives. The insert of another symbol leaves it alone. When the
display symbol itself is inserted, its identifier goes to the first symbol in key order that points
there afterwards, and so it may go to a later synonym although nothing has been pointed elsewhere.
-/
namespace MarketQuery.SymbolTable

theorem firstAlias_le {ids : List (String × String)} (hsorted : Keyed.Sorted ids)
    {id first synonym : String} (hfirst : firstAlias ids id = some first)
    (hsynonym : Keyed.get? synonym ids = some id) : first ≤ synonym := by
  obtain ⟨e, hfind, rfl⟩ := Option.map_eq_some_iff.mp hfirst
  obtain ⟨-, front, back, rfl, hfront⟩ := List.find?_eq_some_iff_append.mp hfind
  rcases List.mem_append.mp (Keyed.mem_of_get? hsynonym) with hmem | hmem
  · simpa using hfront _ hmem
  · rcases List.mem_cons.mp hmem with rfl | hmem
    · exact String.le_refl _
    · have hback := (List.pairwise_append.mp hsorted).2.1
      exact Std.le_of_lt ((List.pairwise_cons.mp hback).1 _ hmem)

/-- No symbol in front of this one points to the identifier. -/
def Foremost (t : SymbolTable) (symbol id : String) : Prop :=
  ∀ synonym, Keyed.get? synonym t.ids = some id → symbol ≤ synonym

/-- The first symbol that points to an identifier is the least one that does. -/
theorem firstAlias_eq_some_iff {t : SymbolTable} (hsorted : Keyed.Sorted t.ids)
    {id symbol : String} (hsymbol : Keyed.get? symbol t.ids = some id) :
    firstAlias t.ids id = some symbol ↔ t.Foremost symbol id := by
  constructor
  · intro hfirst synonym hsynonym
    exact firstAlias_le hsorted hfirst hsynonym
  · intro hforemost
    obtain ⟨first, hfirst⟩ := Option.isSome_iff_exists.mp (isSome_firstAlias hsymbol)
    have hle : first ≤ symbol := firstAlias_le hsorted hfirst hsymbol
    have hge : symbol ≤ first := hforemost first (get?_of_firstAlias hsorted hfirst)
    rw [hfirst, String.le_antisymm hle hge]

/-- The insert of another symbol takes no display symbol away. -/
theorem Consistent.symbolFor_insert_of_ne {t : SymbolTable} (h : t.Consistent)
    {name id other display : String} (hdisplay : t.symbolFor other = some display)
    (hne : normalize name ≠ display) : (t.insert name id).symbolFor other = some display := by
  have hreleased : Keyed.get? other (t.released (normalize name) id) = some display := by
    have hnot : t.symbolFor other ≠ some (normalize name) := by
      rw [hdisplay]
      exact fun heq => hne (Option.some.inj heq).symm
    rw [h.get?_released, if_neg hnot, hdisplay]
  rw [symbolFor_insert]
  by_cases hother : other = id
  · subst hother
    rw [if_pos rfl, hreleased]
    rfl
  · rw [if_neg hother, hreleased]

/-- The insert of its display symbol gives an identifier to the first symbol that points there
afterwards, and to none if there is none. -/
theorem Consistent.symbolFor_insert_display {t : SymbolTable} (h : t.Consistent)
    {name other : String} (hdisplay : t.symbolFor other = some (normalize name)) (id : String) :
    (t.insert name id).symbolFor other = firstAlias (t.insert name id).ids other := by
  have hreleased : Keyed.get? other (t.released (normalize name) id) =
      firstAlias (t.insert name id).ids other := by
    rw [h.get?_released, if_pos hdisplay]
    rfl
  rw [symbolFor_insert]
  by_cases hother : other = id
  · subst hother
    have hname : Keyed.get? (normalize name) (t.insert name other).ids = some other := by
      simp [get?_ids_insert]
    obtain ⟨first, hfirst⟩ := Option.isSome_iff_exists.mp (isSome_firstAlias hname)
    rw [if_pos rfl, hreleased, hfirst]
    rfl
  · rw [if_neg hother, hreleased]

/-- An entry that the table holds adds nothing to its symbols. -/
theorem Consistent.ids_insert_of_held {t : SymbolTable} (h : t.Consistent) {name id : String}
    (hheld : Keyed.get? (normalize name) t.ids = some id) : (t.insert name id).ids = t.ids :=
  h.sorted.insert_eq_self hheld

theorem Consistent.symbolFor_insert_eq_iff {t : SymbolTable} (h : t.Consistent)
    {other display : String} (hdisplay : t.symbolFor other = some display) (name id : String) :
    (t.insert name id).symbolFor other = some display ↔
      normalize name ≠ display ∨ id = other ∧ t.Foremost display other := by
  by_cases hname : normalize name = display
  · subst hname
    rw [h.symbolFor_insert_display hdisplay]
    by_cases hother : id = other
    · subst hother
      have hheld := h.points hdisplay
      rw [h.ids_insert_of_held hheld, firstAlias_eq_some_iff h.sorted hheld]
      simp
    · have hmoved : firstAlias (t.insert name id).ids other ≠ some (normalize name) := by
        intro hfirst
        have hpoints := get?_of_firstAlias (h.insert name id).sorted hfirst
        rw [get?_ids_insert, if_pos rfl] at hpoints
        exact hother (Option.some.inj hpoints)
      simp [hmoved, hother]
  · simp [h.symbolFor_insert_of_ne hdisplay hname, hname]

/-- An entry that the table holds changes nothing exactly if it takes no display symbol away. -/
theorem Reachable.insert_eq_self_iff {t : SymbolTable} (ht : t.Reachable) {name id : String}
    (hheld : Keyed.get? (normalize name) t.ids = some id) :
    t.insert name id = t ↔
      (t.symbolFor id = some (normalize name) → t.Foremost (normalize name) id) := by
  have h := ht.consistent
  constructor
  · intro heq hdisplay
    have hkept : (t.insert name id).symbolFor id = some (normalize name) := by
      rw [heq, hdisplay]
    simpa using (h.symbolFor_insert_eq_iff hdisplay name id).mp hkept
  · intro hforemost
    have hids := h.ids_insert_of_held hheld
    have hsymbols : ∀ other, (t.insert name id).symbolFor other = t.symbolFor other := by
      intro other
      cases hdisplay : t.symbolFor other with
      | some display =>
        rw [h.symbolFor_insert_eq_iff hdisplay]
        by_cases hname : normalize name = display
        · subst hname
          obtain rfl : id = other := Option.some.inj (hheld.symm.trans (h.points hdisplay))
          exact .inr ⟨rfl, hforemost hdisplay⟩
        · exact .inl hname
      | none =>
        rw [Option.eq_none_iff_forall_ne_some]
        intro display hnew
        have hpoints := (h.insert name id).points hnew
        rw [hids] at hpoints
        have hsome := h.displayed hpoints
        simp [hdisplay] at hsome
    have hdisplays : (t.insert name id).displays = t.displays :=
      (sorted_displays_insert ht.sorted_displays name id).eq_of_get?_eq ht.sorted_displays hsymbols
    calc t.insert name id = ⟨(t.insert name id).ids, (t.insert name id).displays⟩ := rfl
      _ = t := by rw [hids, hdisplays]

/-- An insert leaves an identifier its display symbol exactly if it inserts another symbol, or
inserts the display symbol for this identifier again and no symbol in front of it points there.
Otherwise the first symbol that points there afterwards takes its place. So an entry that the table
holds changes nothing unless its symbol is a display symbol with a synonym in front of it. -/
theorem symbolFor_kept_iff {t : SymbolTable} (ht : t.Reachable) (name id : String) :
    (∀ other display, t.symbolFor other = some display →
      ((t.insert name id).symbolFor other = some display ↔
        normalize name ≠ display ∨ id = other ∧ t.Foremost display other) ∧
      (normalize name = display →
        (t.insert name id).symbolFor other = firstAlias (t.insert name id).ids other)) ∧
    (Keyed.get? (normalize name) t.ids = some id →
      (t.insert name id = t ↔
        (t.symbolFor id = some (normalize name) → t.Foremost (normalize name) id))) := by
  refine ⟨fun other display hdisplay => ⟨?_, ?_⟩, ht.insert_eq_self_iff⟩
  · exact ht.consistent.symbolFor_insert_eq_iff hdisplay name id
  · rintro rfl
    exact ht.consistent.symbolFor_insert_display hdisplay id

/-- A synonym in front of the display symbol, and one behind it. -/
theorem symbolFor_kept_iff_synonyms :
    let front := empty.insertAll [("sui", "0x2"), ("gas", "0x2")]
    let behind := empty.insertAll [("gas", "0x2"), ("sui", "0x2")]
    front.insert " Sui" "0x2" ≠ front ∧ behind.insert " Gas" "0x2" = behind ∧
      (behind.insert " Gas" "0x3").symbolFor "0x2" = some "SUI" := by
  intro front behind
  have hreachable : ∀ history, (empty.insertAll history).Reachable := fun _ => ⟨_, rfl⟩
  have hfront := symbolFor_kept_iff (hreachable [("sui", "0x2"), ("gas", "0x2")]) " Sui" "0x2"
  have hbehind := symbolFor_kept_iff (hreachable [("gas", "0x2"), ("sui", "0x2")]) " Gas"
  refine ⟨?_, ?_, ?_⟩
  · intro heq
    have hdisplay : front.symbolFor "0x2" = some (normalize " Sui") := by decide +kernel
    have hforemost := (hfront.2 rfl).mp heq hdisplay
    have hgas : ¬ normalize " Sui" ≤ "GAS" := by decide +kernel
    exact hgas (hforemost "GAS" rfl)
  · have hids : ∀ e ∈ behind.ids, normalize " Gas" ≤ e.1 := by decide +kernel
    have hforemost : behind.Foremost (normalize " Gas") "0x2" :=
      fun _ hsynonym => hids _ (Keyed.mem_of_get? hsynonym)
    exact ((hbehind "0x2").2 rfl).mpr fun _ => hforemost
  · exact ((hbehind "0x3").1 "0x2" "GAS" rfl).2 rfl

/-- The display symbol is lost to a synonym in front of it when an entry is inserted that the table
holds already. -/
theorem insert_again_takes_display :
    let t := empty.insertAll [("SUI", "0x2::sui::SUI"), ("GAS", "0x2::sui::SUI")]
    t.Reachable ∧ Keyed.get? (normalize "SUI") t.ids = some "0x2::sui::SUI" ∧
      t.symbolFor "0x2::sui::SUI" = some "SUI" ∧
      (t.insert "SUI" "0x2::sui::SUI").symbolFor "0x2::sui::SUI" = some "GAS" :=
  ⟨⟨_, rfl⟩, rfl, rfl, rfl⟩

end MarketQuery.SymbolTable
