import MarketQuery.Symbol.Coins

/-!
The two maps of a symbol table. Whatever has been inserted, the identifiers that have a display
symbol are those that some symbol points to, and a display symbol points to its identifier. One
insert keeps this: it takes at most one identifier away from its display symbol, and hands it to
another symbol that points to it if there is one.
-/
namespace MarketQuery.SymbolTable

def Points (t : SymbolTable) (id : String) : Prop :=
  ∃ symbol, Keyed.get? symbol t.ids = some id

/-- The two maps of a table agree. -/
structure Consistent (t : SymbolTable) : Prop where
  sorted : Keyed.Sorted t.ids
  points : ∀ {id symbol}, t.symbolFor id = some symbol → Keyed.get? symbol t.ids = some id
  displayed : ∀ {symbol id}, Keyed.get? symbol t.ids = some id → (t.symbolFor id).isSome = true

theorem Consistent.isSome_symbolFor_iff {t : SymbolTable} (h : t.Consistent) (id : String) :
    (t.symbolFor id).isSome = true ↔ t.Points id := by
  constructor
  · intro hsome
    obtain ⟨symbol, hsymbol⟩ := Option.isSome_iff_exists.mp hsome
    exact ⟨symbol, h.points hsymbol⟩
  · rintro ⟨symbol, hsymbol⟩
    exact h.displayed hsymbol

def firstAlias (ids : List (String × String)) (id : String) : Option String :=
  (ids.find? fun e => e.2 = id).map Prod.fst

theorem get?_of_firstAlias {ids : List (String × String)} (hsorted : Keyed.Sorted ids)
    {id symbol : String} (h : firstAlias ids id = some symbol) :
    Keyed.get? symbol ids = some id := by
  obtain ⟨e, he, rfl⟩ := Option.map_eq_some_iff.mp h
  have hid : e.2 = id := by simpa using List.find?_some he
  rw [← hid]
  exact hsorted.get?_of_mem (List.mem_of_find?_eq_some he)

theorem isSome_firstAlias {ids : List (String × String)} {id symbol : String}
    (h : Keyed.get? symbol ids = some id) : (firstAlias ids id).isSome = true := by
  rw [firstAlias, Option.isSome_map, List.find?_isSome]
  exact ⟨(symbol, id), Keyed.mem_of_get? h, by simp⟩

/-- Handing on touches one identifier, and that one only if the symbol was its display symbol. -/
theorem get?_handOn (symbol old id : String) (ids displays : List (String × String)) :
    Keyed.get? id (handOn symbol old ids displays) =
      if id = old ∧ Keyed.get? old displays = some symbol then firstAlias ids old
      else Keyed.get? id displays := by
  unfold handOn firstAlias
  by_cases howner : Keyed.get? old displays = some symbol
  · simp only [howner, if_true, and_true]
    cases ids.find? fun e => e.2 = old with
    | some e =>
      simp only [Keyed.get?_insert, Keyed.get?_erase, Option.map_some]
      by_cases hid : id = old <;> simp [hid]
    | none => simp [Keyed.get?_erase]
  · simp [howner]

theorem get?_adopt (symbol id other : String) (displays : List (String × String)) :
    Keyed.get? other (adopt symbol id displays) =
      if other = id then some ((Keyed.get? id displays).getD symbol)
      else Keyed.get? other displays := by
  unfold adopt
  cases hid : Keyed.get? id displays with
  | some owner =>
    by_cases ho : other = id
    · simp [ho, hid]
    · simp [ho]
  | none => simp [Keyed.get?_insert]

/-- The display symbols after a symbol has been taken away from what it pointed to, and before it
is offered to its new identifier. -/
def released (t : SymbolTable) (symbol id : String) : List (String × String) :=
  match Keyed.get? symbol t.ids with
  | some old => handOn symbol old (Keyed.insert symbol id t.ids) t.displays
  | none => t.displays

theorem get?_ids_insert (t : SymbolTable) (name id symbol : String) :
    Keyed.get? symbol (t.insert name id).ids =
      if symbol = normalize name then some id else Keyed.get? symbol t.ids :=
  Keyed.get?_insert (normalize name) symbol id t.ids

theorem symbolFor_insert (t : SymbolTable) (name id other : String) :
    (t.insert name id).symbolFor other =
      if other = id then
        some ((Keyed.get? id (t.released (normalize name) id)).getD (normalize name))
      else Keyed.get? other (t.released (normalize name) id) :=
  get?_adopt (normalize name) id other (t.released (normalize name) id)

theorem Consistent.get?_released {t : SymbolTable} (h : t.Consistent) (symbol id other : String) :
    Keyed.get? other (t.released symbol id) =
      if t.symbolFor other = some symbol then firstAlias (Keyed.insert symbol id t.ids) other
      else t.symbolFor other := by
  cases hold : Keyed.get? symbol t.ids with
  | none =>
    have hnot : t.symbolFor other ≠ some symbol := by
      intro howner
      simp [h.points howner] at hold
    simp only [released, hold, if_neg hnot]
    rfl
  | some old =>
    simp only [released, hold, get?_handOn]
    by_cases howner : t.symbolFor other = some symbol
    · obtain rfl : old = other := Option.some.inj (hold.symm.trans (h.points howner))
      have hdisplay : Keyed.get? old t.displays = some symbol := howner
      simp [hdisplay, howner]
    · have hnot : ¬ (other = old ∧ Keyed.get? old t.displays = some symbol) := by
        rintro ⟨rfl, hdisplay⟩
        exact howner hdisplay
      rw [if_neg hnot, if_neg howner]
      rfl

/-- A display symbol that is left points to its identifier after the insert too. -/
theorem Consistent.points_released {t : SymbolTable} (h : t.Consistent) {symbol id other : String}
    {display : String} (hdisplay : Keyed.get? other (t.released symbol id) = some display) :
    Keyed.get? display (Keyed.insert symbol id t.ids) = some other := by
  rw [h.get?_released] at hdisplay
  by_cases howner : t.symbolFor other = some symbol
  · rw [if_pos howner] at hdisplay
    exact get?_of_firstAlias (h.sorted.insert symbol id) hdisplay
  · rw [if_neg howner] at hdisplay
    have hne : display ≠ symbol := by
      rintro rfl
      exact howner hdisplay
    rw [Keyed.get?_insert, if_neg hne]
    exact h.points hdisplay

/-- Every identifier but the new one that is pointed to after the insert has a display symbol. -/
theorem Consistent.displayed_released {t : SymbolTable} (h : t.Consistent)
    {symbol id other synonym : String} (hne : other ≠ id)
    (hsynonym : Keyed.get? synonym (Keyed.insert symbol id t.ids) = some other) :
    (Keyed.get? other (t.released symbol id)).isSome = true := by
  rw [h.get?_released]
  by_cases howner : t.symbolFor other = some symbol
  · rw [if_pos howner]
    exact isSome_firstAlias hsynonym
  · rw [if_neg howner]
    have hother : synonym ≠ symbol := by
      rintro rfl
      rw [Keyed.get?_insert, if_pos rfl] at hsynonym
      exact hne (Option.some.inj hsynonym).symm
    rw [Keyed.get?_insert, if_neg hother] at hsynonym
    exact h.displayed hsynonym

theorem Consistent.insert {t : SymbolTable} (h : t.Consistent) (name id : String) :
    (t.insert name id).Consistent where
  sorted := h.sorted.insert (normalize name) id
  points := by
    intro other display hdisplay
    rw [symbolFor_insert] at hdisplay
    by_cases hother : other = id
    · subst hother
      rw [if_pos rfl] at hdisplay
      cases hreleased : Keyed.get? other (t.released (normalize name) other) with
      | some owner =>
        obtain rfl : owner = display := by simpa [hreleased] using hdisplay
        exact h.points_released hreleased
      | none =>
        obtain rfl : normalize name = display := by simpa [hreleased] using hdisplay
        simp [get?_ids_insert]
    · rw [if_neg hother] at hdisplay
      exact h.points_released hdisplay
  displayed := by
    intro synonym other hsynonym
    rw [symbolFor_insert]
    by_cases hother : other = id
    · simp [hother]
    · rw [if_neg hother]
      exact h.displayed_released hother hsynonym

theorem consistent_empty : empty.Consistent where
  sorted := List.Pairwise.nil
  points := by
    intro id symbol h
    simp [symbolFor, empty, Keyed.get?_nil] at h
  displayed := by
    intro symbol id h
    simp [empty, Keyed.get?_nil] at h

/-- What every insert keeps, every history of inserts keeps. -/
theorem insertAll_keeps {P : SymbolTable → Prop} (hP : ∀ t name id, P t → P (t.insert name id))
    {t : SymbolTable} (h : P t) (entries : List (String × String)) : P (t.insertAll entries) := by
  induction entries generalizing t with
  | nil => exact h
  | cons e rest ih => exact ih (hP t e.1 e.2 h)

theorem Consistent.insertAll {t : SymbolTable} (h : t.Consistent)
    (entries : List (String × String)) : (t.insertAll entries).Consistent :=
  insertAll_keeps (fun _ name id ht => ht.insert name id) h entries

/-- The table comes from the empty one by inserts. -/
def Reachable (t : SymbolTable) : Prop :=
  ∃ history, t = empty.insertAll history

theorem reachable_builtin (history : List (String × String)) :
    (builtin.insertAll history).Reachable :=
  ⟨Coin.known ++ history, by simp [builtin, insertAll]⟩

theorem Reachable.consistent {t : SymbolTable} (h : t.Reachable) : t.Consistent := by
  obtain ⟨history, rfl⟩ := h
  exact consistent_empty.insertAll history

theorem sorted_handOn (symbol old : String) (ids : List (String × String))
    {displays : List (String × String)} (h : Keyed.Sorted displays) :
    Keyed.Sorted (handOn symbol old ids displays) := by
  unfold handOn
  split
  · split
    · exact (h.erase old).insert old _
    · exact h.erase old
  · exact h

theorem sorted_adopt (symbol id : String) {displays : List (String × String)}
    (h : Keyed.Sorted displays) : Keyed.Sorted (adopt symbol id displays) := by
  unfold adopt
  split
  · exact h
  · exact h.insert id symbol

theorem sorted_displays_insert {t : SymbolTable} (h : Keyed.Sorted t.displays)
    (name id : String) : Keyed.Sorted (t.insert name id).displays := by
  have hreleased : Keyed.Sorted (t.released (normalize name) id) := by
    unfold released
    split
    · exact sorted_handOn _ _ _ h
    · exact h
  exact sorted_adopt _ _ hreleased

theorem Reachable.sorted_displays {t : SymbolTable} (h : t.Reachable) :
    Keyed.Sorted t.displays := by
  obtain ⟨history, rfl⟩ := h
  have hempty : Keyed.Sorted empty.displays := List.Pairwise.nil
  exact insertAll_keeps (P := fun t => Keyed.Sorted t.displays)
    (fun _ name id ht => sorted_displays_insert ht name id) hempty history

end MarketQuery.SymbolTable
