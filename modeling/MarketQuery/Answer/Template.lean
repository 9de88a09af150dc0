import MarketQuery.Answer.Layouts
import MarketQuery.Answer.Path
import MarketQuery.Query.Execution

/-!
Templates for answers. A placeholder `$\{…}` names a value in the results by a path; a placeholder
that names nothing stays as it is. A template without placeholders is a heading over the layouts of
all results.
-/
namespace MarketQuery

/-- A value in the results, with what is known of its shape. -/
structure Node where
  value : Json
  shape : Option OutputShape
  label : Option String
  input : Option Json

namespace Node

/-- A value of no particular shape. -/
def plain (v : Json) : Node := ⟨v, none, none, none⟩

def ofResult (t : SymbolTable) (r : ActionResult) : Node where
  value := r.output
  shape := some r.shape
  label :=
    if r.shape = .pricedAsset then ((r.input.get? "symbol").bind Json.string?).map t.displayName
    else none
  input := some r.input

/-- The text of a value without a layout. -/
def leaf : Json → String
  | .number n => Figures.number n.toFloat
  | .array [] => Layouts.noData
  | .array items => (Json.array items).pretty
  | .object fields => (Json.object fields).pretty
  | .string s => s
  | .bool b => if b then "true" else "false"
  | .null => Layouts.noDataAvailable

/-- The layout of a value of known shape. -/
def layout? (t : SymbolTable) (n : Node) : Option String :=
  match n.shape with
  | some .pricedAsset => Layouts.pricedAsset (n.label.getD "Price") n.value
  | some .pricedAssetMap => Layouts.pricedAssetMap t n.value
  | some .poolSnapshot => Layouts.poolSnapshot t n.value
  | some .poolList => Layouts.poolList t n.value
  | some .spotPrice => n.input.bind fun input => Layouts.spotPrice t input n.value
  | some .scalar => none
  | none => none

def text (t : SymbolTable) (n : Node) : String :=
  (n.layout? t).getD (leaf n.value)

def sameName (a b : String) : Bool :=
  a.toList.map Char.toLower == b.toList.map Char.toLower

/-- The price in a map of prices, by identifier or else by display name. -/
def pricedEntry? (t : SymbolTable) (map : Json) (key : String) : Option Node := do
  let fields ← map.fields?
  let entry ← (fields.find? fun e => e.1 = key).or
    (fields.find? fun e => sameName (t.displayName e.1) key)
  some ⟨entry.2, some .pricedAsset, some (t.displayName entry.1), none⟩

/-- The part of a value that a segment names. -/
def child? (t : SymbolTable) (n : Node) (segment : Path.Segment) : Option Node :=
  match n.value with
  | .object fields =>
    if n.shape = some .pricedAssetMap then pricedEntry? t n.value segment.asKey
    else (Keyed.get? segment.asKey fields).map plain
  | .array items =>
    (segment.asIndex?.bind fun i => items[i]?).map fun item =>
      { plain item with
        shape := if n.shape = some .poolList then some .poolSnapshot else none }
  | _ => none

def walk (t : SymbolTable) : Node → List Path.Segment → Option Node
  | n, [] => some n
  | n, segment :: rest => (n.child? t segment).bind fun next => walk t next rest

end Node

namespace Template

def resultText (t : SymbolTable) (r : ActionResult) : String :=
  (Node.ofResult t r).text t

/-- A heading, if there is one, over the layouts of the results. -/
def summary (t : SymbolTable) (heading : String) (results : List ActionResult) : String :=
  let heading := Text.trimmed heading
  let blocks := (if heading = "" then [] else [heading]) ++ results.map (resultText t)
  if blocks.isEmpty then Layouts.noDataAvailable else Layouts.lines blocks

/-- A result by its number, by the name of its tool, or as an entry of a map of prices. -/
def keyed? (t : SymbolTable) (results : List ActionResult) (key : Path.Segment) : Option Node :=
  match key.asIndex?.bind fun i => results[i]? with
  | some r => some (Node.ofResult t r)
  | none =>
    match results.find? fun r => r.tool = key.asKey with
    | some r => some (Node.ofResult t r)
    | none =>
      (results.filter fun r => r.shape = .pricedAssetMap).findSome? fun r =>
        Node.pricedEntry? t r.output key.asKey

/-- The text of what a path names. -/
def resolve? (t : SymbolTable) (results : List ActionResult) (path : Path) : Option String :=
  match path.root, path.segments with
  | .result, [] => results.head?.map (resultText t)
  | .results, [] => if results.isEmpty then none else some (summary t "" results)
  | .result, segments =>
    (results.head?.bind fun r => (Node.ofResult t r).walk t segments).map fun n => n.text t
  | .results, first :: rest =>
    ((keyed? t results first).bind fun n => n.walk t rest).map fun n => n.text t

/-- The text of the value that an expression names. -/
def evaluate? (t : SymbolTable) (results : List ActionResult) (expression : List Char) :
    Option (List Char) :=
  match Path.parse (String.ofList expression) with
  | .ok path => (resolve? t results path).map String.toList
  | .error _ => none

/-- The quote that is open after a character. One opens only as the first thing in a bracket. -/
def nextQuote (quote : Option Char) (afterBracket : Bool) (c : Char) : Option Char :=
  match quote with
  | some q => if c = q then none else some q
  | none => if afterBracket ∧ (c = '\'' ∨ c = '"') then some c else none

/-- Whether a quote may open behind a character. Blanks make no difference. -/
def nextAfterBracket (quote : Option Char) (afterBracket : Bool) (c : Char) : Bool :=
  if Text.isBlank c then afterBracket
  else (nextQuote quote afterBracket c).isNone && c == '['

/-- The expression of a placeholder and what follows its closing brace. A brace in a quoted key
closes nothing. -/
def expression? (quote : Option Char) (afterBracket : Bool) :
    List Char → Option (List Char × List Char)
  | [] => none
  | c :: rest =>
    if quote = none ∧ c = '\x7d' then some ([], rest)
    else
      let quoteNext := nextQuote quote afterBracket c
      (expression? quoteNext (nextAfterBracket quote afterBracket c) rest).map fun parts =>
        (c :: parts.1, parts.2)

theorem expression_eq_append {quote : Option Char} {afterBracket : Bool}
    {s expression rest : List Char}
    (h : expression? quote afterBracket s = some (expression, rest)) :
    s = expression ++ '\x7d' :: rest := by
  induction s generalizing quote afterBracket expression with
  | nil => simp [expression?] at h
  | cons c tail ih =>
    unfold expression? at h
    split at h
    · next hclose =>
      simp only [Option.some.injEq, Prod.mk.injEq] at h
      simp [← h.1, ← h.2, hclose.2]
    · obtain ⟨⟨e, r⟩, hparts, heq⟩ := Option.map_eq_some_iff.mp h
      simp only [Prod.mk.injEq] at heq
      obtain ⟨rfl, rfl⟩ := heq
      rw [ih hparts, List.cons_append]

theorem length_expression {quote : Option Char} {afterBracket : Bool}
    {s expression rest : List Char}
    (h : expression? quote afterBracket s = some (expression, rest)) :
    rest.length < s.length := by
  rw [expression_eq_append h]
  simp only [List.length_append, List.length_cons]
  omega

def opening : List Char := ['$', '\x7b']

/-- Puts texts in the place of placeholders, in one pass. An expression without a text stays, and
so does a placeholder that is never closed. -/
def fill (evaluate : List Char → Option (List Char)) : List Char → List Char
  | [] => []
  | c :: rest =>
    if opening.isPrefixOf (c :: rest) then
      match _closed : expression? none false (rest.drop 1) with
      | none => c :: rest
      | some (expression, after) =>
        (match evaluate expression with
          | some text => text
          | none => opening ++ expression ++ ['\x7d']) ++ fill evaluate after
    else c :: fill evaluate rest
termination_by s => s.length
decreasing_by
  · have h := length_expression _closed
    simp only [List.length_drop] at h
    simp only [List.length_cons]
    omega
  · simp

def hasPlaceholder (template : String) : Bool :=
  (Text.cutAt opening template.toList).isSome

/-- A template with the texts of the results in the place of its placeholders. -/
def substitute (t : SymbolTable) (results : List ActionResult) (template : String) : String :=
  String.ofList (fill (evaluate? t results) template.toList)

/-- The answer that a template gives for the results. -/
def render (t : SymbolTable) (template : String) (results : List ActionResult) : String :=
  if hasPlaceholder template then substitute t results template
  else summary t template results

end Template

end MarketQuery
