import MarketQuery.Keyed
import MarketQuery.Text.Blank
import MarketQuery.Text.LetterCase

/-!
The symbol table. It maps the symbols people write (`SUI`, `usdc`) to canonical asset identifiers
and back. Several symbols may point to one identifier; one of them is its display symbol. The
display symbols change only by `insert`, which hands an identifier on when its own symbol is
pointed elsewhere.
-/
namespace MarketQuery

structure SymbolTable where
  /-- The identifier of each symbol, in symbol order. -/
  ids : List (String × String)
  /-- The display symbol of each identifier. -/
  displays : List (String × String)

/-- No entry of the table answers to this symbol or identifier. -/
structure UnknownSymbol where
  symbol : String

namespace SymbolTable

def empty : SymbolTable := ⟨[], []⟩

/-- Symbols are told apart without regard to letter case and to blanks around them. -/
def normalize (symbol : String) : String :=
  Text.upper (Text.trimmed symbol)

/-- The symbol `symbol` has just been pointed away from `old`. If it was the display symbol of
`old`, the first symbol that still points there takes its place. -/
def handOn (symbol old : String) (ids displays : List (String × String)) :
    List (String × String) :=
  if Keyed.get? old displays = some symbol then
    match ids.find? fun e => e.2 = old with
    | some e => Keyed.insert old e.1 (Keyed.erase old displays)
    | none => Keyed.erase old displays
  else displays

/-- An identifier without a display symbol takes this one. -/
def adopt (symbol id : String) (displays : List (String × String)) : List (String × String) :=
  match Keyed.get? id displays with
  | some _ => displays
  | none => Keyed.insert id symbol displays

/-- Adds or replaces the entry of a symbol. -/
def insert (t : SymbolTable) (symbol id : String) : SymbolTable :=
  let symbol := normalize symbol
  let ids := Keyed.insert symbol id t.ids
  let displays := match Keyed.get? symbol t.ids with
    | some old => handOn symbol old ids t.displays
    | none => t.displays
  { ids, displays := adopt symbol id displays }

def insertAll (t : SymbolTable) (entries : List (String × String)) : SymbolTable :=
  entries.foldl (fun t e => t.insert e.1 e.2) t

/-- The identifier of a symbol. A known identifier stands for itself. -/
def resolve (t : SymbolTable) (symbol : String) : Except UnknownSymbol String :=
  let bare := Text.trimmed symbol
  match Keyed.get? (Text.upper bare) t.ids with
  | some id => .ok id
  | none => if (Keyed.get? bare t.displays).isSome then .ok bare else .error ⟨bare⟩

def symbolFor (t : SymbolTable) (id : String) : Option String :=
  Keyed.get? id t.displays

/-- What follows the last double colon, or the whole text if there is none. -/
def afterLastDoubleColon (s : List Char) : List Char :=
  let rec go : List Char → List Char → List Char
    | best, [] => best
    | best, [_] => best
    | _, ':' :: ':' :: rest => go rest (':' :: rest)
    | best, _ :: d :: rest => go best (d :: rest)
  go s s

/-- The display symbol, or the last part of an identifier that has none. -/
def displayName (t : SymbolTable) (id : String) : String :=
  match t.symbolFor id with
  | some symbol => symbol
  | none => String.ofList (afterLastDoubleColon id.toList)

/-- Symbols and identifiers, in symbol order. -/
def entries (t : SymbolTable) : List (String × String) :=
  t.ids

def size (t : SymbolTable) : Nat :=
  t.ids.length

def isEmpty (t : SymbolTable) : Bool :=
  t.ids.isEmpty

end SymbolTable

end MarketQuery
