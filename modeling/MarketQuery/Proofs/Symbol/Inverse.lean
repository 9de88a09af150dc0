import MarketQuery.Proofs.Symbol.History
import MarketQuery.Proofs.Text.UpperCase

/-!
Reading the symbol table backwards. The identifiers with a display symbol are those that some
symbol points to, and each of them comes back when its display symbol is resolved. That a symbol
is found under its own spelling needs upper case to be final: symbols are kept in upper case, and
they are raised and trimmed again before they are looked up.
-/
namespace MarketQuery.SymbolTable

theorem normalize_normalize (symbol : String) : normalize (normalize symbol) = normalize symbol :=
  calc Text.upper (Text.trimmed (Text.upper (Text.trimmed symbol)))
      = Text.upper (Text.upper (Text.trimmed symbol)) := by rw [Text.trimmed_upper_trimmed]
    _ = Text.upper (Text.trimmed symbol) := Text.upper_upper _

def Normal (t : SymbolTable) : Prop :=
  ∀ symbol id, Keyed.get? symbol t.ids = some id → normalize symbol = symbol

theorem Normal.insert {t : SymbolTable} (h : t.Normal) (name id : String) :
    (t.insert name id).Normal := by
  intro symbol found hfound
  rw [get?_ids_insert] at hfound
  by_cases hsymbol : symbol = normalize name
  · rw [hsymbol, normalize_normalize]
  · rw [if_neg hsymbol] at hfound
    exact h symbol found hfound

theorem Reachable.normal {t : SymbolTable} (h : t.Reachable) : t.Normal := by
  obtain ⟨history, rfl⟩ := h
  have hempty : empty.Normal := by
    intro symbol id hfound
    simp [empty, Keyed.get?_nil] at hfound
  exact insertAll_keeps (fun _ name id ht => ht.insert name id) hempty history

theorem Normal.resolve_symbol {t : SymbolTable} (h : t.Normal) {symbol id : String}
    (hsymbol : Keyed.get? symbol t.ids = some id) : t.resolve symbol = .ok id := by
  have hlookup : Keyed.get? (Text.upper (Text.trimmed symbol)) t.ids = some id :=
    (congrArg (Keyed.get? · t.ids) (h symbol id hsymbol)).trans hsymbol
  simp only [resolve, hlookup]

/-- The display symbols say of the identifiers what the symbols say. -/
structure Reversible (t : SymbolTable) : Prop where
  /-- An identifier that some symbol points to has one display symbol. -/
  displayed : ∀ id, t.Points id → ∃! symbol, (id, symbol) ∈ t.displays
  /-- No other identifier has one. -/
  undisplayed : ∀ id symbol, (id, symbol) ∈ t.displays → t.Points id
  /-- It is the symbol that is shown. -/
  shown : ∀ id symbol, t.symbolFor id = some symbol ↔ (id, symbol) ∈ t.displays
  /-- It points to its identifier and is resolved to it. -/
  back : ∀ id symbol, t.symbolFor id = some symbol →
    Keyed.get? symbol t.ids = some id ∧ t.resolve symbol = .ok id
  /-- It is the display symbol of no other identifier. -/
  apart : ∀ id other symbol, t.symbolFor id = some symbol → t.symbolFor other = some symbol →
    id = other

theorem Reachable.reversible {t : SymbolTable} (h : t.Reachable) : t.Reversible := by
  have hconsistent := h.consistent
  have hshown : ∀ id symbol, t.symbolFor id = some symbol ↔ (id, symbol) ∈ t.displays :=
    fun _ _ => h.sorted_displays.get?_eq_some_iff
  refine ⟨?_, ?_, hshown, ?_, ?_⟩
  · intro id hpoints
    obtain ⟨symbol, hsymbol⟩ := Option.isSome_iff_exists.mp
      ((hconsistent.isSome_symbolFor_iff id).mpr hpoints)
    refine ⟨symbol, (hshown id symbol).mp hsymbol, fun other hother => ?_⟩
    have hsame := (hshown id other).mpr hother
    exact Option.some.inj (hsame.symm.trans hsymbol)
  · intro id symbol hmem
    exact ⟨symbol, hconsistent.points ((hshown id symbol).mpr hmem)⟩
  · intro id symbol hsymbol
    have hpoints := hconsistent.points hsymbol
    exact ⟨hpoints, h.normal.resolve_symbol hpoints⟩
  · intro id other symbol hid hother
    have hsame := (hconsistent.points hid).symm.trans (hconsistent.points hother)
    exact Option.some.inj hsame

/-- Whatever is inserted into the empty table or into the one with the known coins, the display
symbols stay the inverse of the symbols, and the identifiers that have one are those that the last
insert of some symbol points to. -/
theorem reversible_insertAll (history : List (String × String)) :
    ((empty.insertAll history).Reversible ∧
      ∀ id, (empty.insertAll history).Points id ↔ Live history id) ∧
    ((builtin.insertAll history).Reversible ∧
      ∀ id, (builtin.insertAll history).Points id ↔ Live (Coin.known ++ history) id) := by
  refine ⟨⟨Reachable.reversible ⟨history, rfl⟩, points_insertAll_iff history⟩,
    (reachable_builtin history).reversible, fun id => ?_⟩
  rw [builtin, ← insertAll_append]
  exact points_insertAll_iff (Coin.known ++ history) id

end MarketQuery.SymbolTable
