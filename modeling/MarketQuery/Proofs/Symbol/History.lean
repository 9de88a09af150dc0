import Mathlib.Data.List.Induction
import MarketQuery.Proofs.Symbol.Displays

/-!
What a symbol resolves to, said by the history of inserts alone. The last insert of a symbol
decides, whatever was inserted before it and under whatever spelling. A text that is no symbol
stands for itself if it is an identifier to which the last insert of some symbol points.
-/
namespace MarketQuery.SymbolTable

/-- The last insert of the symbol, in whatever spelling, gave it this identifier. -/
def LastInsert (history : List (String × String)) (symbol id : String) : Prop :=
  ∃ before name after, history = before ++ (name, id) :: after ∧ normalize name = symbol ∧
    ∀ e ∈ after, normalize e.1 ≠ symbol

def Live (history : List (String × String)) (id : String) : Prop :=
  ∃ symbol, LastInsert history symbol id

inductive Resolves (history : List (String × String)) (text : String) :
    Except UnknownSymbol String → Prop
  | symbol {id : String} (hlast : LastInsert history (normalize text) id) :
      Resolves history text (.ok id)
  | identifier (hnone : ∀ e ∈ history, normalize e.1 ≠ normalize text)
      (hlive : Live history (Text.trimmed text)) :
      Resolves history text (.ok (Text.trimmed text))
  | unknown (hnone : ∀ e ∈ history, normalize e.1 ≠ normalize text)
      (hdead : ¬ Live history (Text.trimmed text)) :
      Resolves history text (.error ⟨Text.trimmed text⟩)

theorem lastInsert_concat (history : List (String × String)) (name new symbol id : String) :
    LastInsert (history ++ [(name, new)]) symbol id ↔
      (normalize name = symbol ∧ id = new) ∨
        (normalize name ≠ symbol ∧ LastInsert history symbol id) := by
  constructor
  · rintro ⟨before, found, after, heq, hfound, hafter⟩
    induction after using List.reverseRecOn with
    | nil =>
      obtain ⟨-, hlast⟩ := List.append_inj' heq rfl
      simp only [List.cons.injEq, Prod.mk.injEq, and_true] at hlast
      exact .inl ⟨hlast.1 ▸ hfound, hlast.2.symm⟩
    | append_singleton front last _ =>
      have hsplit : history ++ [(name, new)] = (before ++ (found, id) :: front) ++ [last] := by
        simpa using heq
      obtain ⟨hhistory, hlast⟩ := List.append_inj' hsplit rfl
      obtain rfl : (name, new) = last := by simpa using hlast
      refine .inr ⟨hafter (name, new) (by simp), before, found, front, hhistory, hfound, ?_⟩
      exact fun e he => hafter e (by simp [he])
  · rintro (⟨hname, rfl⟩ | ⟨hname, before, found, after, rfl, hfound, hafter⟩)
    · exact ⟨history, name, [], rfl, hname, by simp⟩
    · refine ⟨before, found, after ++ [(name, new)], by simp, hfound, ?_⟩
      intro e he
      rcases List.mem_append.mp he with hmem | hmem
      · exact hafter e hmem
      · obtain rfl : e = (name, new) := by simpa using hmem
        exact hname

theorem insertAll_concat (t : SymbolTable) (history : List (String × String))
    (e : String × String) :
    t.insertAll (history ++ [e]) = (t.insertAll history).insert e.1 e.2 := by
  simp [insertAll]

theorem insertAll_append (t : SymbolTable) (first second : List (String × String)) :
    t.insertAll (first ++ second) = (t.insertAll first).insertAll second := by
  simp [insertAll]

/-- A symbol points where its last insert told it to. -/
theorem get?_insertAll_iff (history : List (String × String)) (symbol id : String) :
    Keyed.get? symbol (empty.insertAll history).ids = some id ↔ LastInsert history symbol id := by
  induction history using List.reverseRecOn generalizing id with
  | nil => simp [insertAll, empty, Keyed.get?_nil, LastInsert]
  | append_singleton history e ih =>
    obtain ⟨name, new⟩ := e
    rw [insertAll_concat, get?_ids_insert, lastInsert_concat, ← ih]
    by_cases hsymbol : symbol = normalize name
    · simp [hsymbol, Eq.comm]
    · simp [hsymbol, Ne.symm hsymbol]

theorem points_insertAll_iff (history : List (String × String)) (id : String) :
    (empty.insertAll history).Points id ↔ Live history id := by
  simp only [Points, Live, get?_insertAll_iff]

theorem get?_insertAll_eq_none {history : List (String × String)} {symbol : String}
    (h : Keyed.get? symbol (empty.insertAll history).ids = none) :
    ∀ e ∈ history, normalize e.1 ≠ symbol := by
  induction history using List.reverseRecOn with
  | nil => simp
  | append_singleton history e ih =>
    rw [insertAll_concat, get?_ids_insert] at h
    by_cases hsymbol : symbol = normalize e.1
    · simp [hsymbol] at h
    · rw [if_neg hsymbol] at h
      intro other hmem
      rcases List.mem_append.mp hmem with hmem | hmem
      · exact ih h other hmem
      · obtain rfl : other = e := by simpa using hmem
        exact Ne.symm hsymbol

theorem resolves_insertAll (history : List (String × String)) (text : String) :
    Resolves history text ((empty.insertAll history).resolve text) := by
  have hconsistent : (empty.insertAll history).Consistent := consistent_empty.insertAll history
  cases hsymbol : Keyed.get? (normalize text) (empty.insertAll history).ids with
  | some id =>
    have hlookup : Keyed.get? (Text.upper (Text.trimmed text)) (empty.insertAll history).ids =
        some id := hsymbol
    simp only [resolve, hlookup]
    exact .symbol ((get?_insertAll_iff history _ id).mp hsymbol)
  | none =>
    have hlookup : Keyed.get? (Text.upper (Text.trimmed text)) (empty.insertAll history).ids =
        none := hsymbol
    have hnone := get?_insertAll_eq_none hsymbol
    have hdisplay : (Keyed.get? (Text.trimmed text) (empty.insertAll history).displays).isSome =
        true ↔ Live history (Text.trimmed text) :=
      (hconsistent.isSome_symbolFor_iff _).trans (points_insertAll_iff history _)
    simp only [resolve, hlookup]
    by_cases hlive : Live history (Text.trimmed text)
    · rw [if_pos (hdisplay.mpr hlive)]
      exact .identifier hnone hlive
    · rw [if_neg (mt hdisplay.mp hlive)]
      exact .unknown hnone hlive

/-- Resolution is last write wins. From the empty table, and from the one with the known coins, of
which these are then the first inserts: a symbol that was inserted resolves to the identifier of
its last insert, any other text to itself if the last insert of some symbol points to it, and to
nothing else. -/
theorem resolve_last_write (history : List (String × String)) (text : String) :
    Resolves history text ((empty.insertAll history).resolve text) ∧
      Resolves (Coin.known ++ history) text ((builtin.insertAll history).resolve text) := by
  refine ⟨resolves_insertAll history text, ?_⟩
  rw [builtin, ← insertAll_append]
  exact resolves_insertAll (Coin.known ++ history) text

-- The identifier that `sui` leaves stays known while `gas` points to it.
example : (empty.insertAll [("sui", "0x1"), ("gas", "0x1"), (" SUI", "0x2")]).resolve "0x1" =
    .ok "0x1" := rfl

example : (empty.insertAll [("sui", "0x1"), ("gas", "0x1"), (" SUI", "0x2"),
    ("Gas", "0x3")]).resolve "0x1" = .error ⟨"0x1"⟩ := rfl

end MarketQuery.SymbolTable
