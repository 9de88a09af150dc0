import MarketQuery.Plan.Basic
import MarketQuery.Query.Error
import MarketQuery.Tool.Registry

/-!
From the input of a proposed action to the arguments of a tool call. Parameters are taken in the
order of declaration. A value from the input that names assets is resolved through the symbol
table; then every value is coerced to the parameter's kind.
-/
namespace MarketQuery

/-- The identifier of a symbol, as a step of a query. -/
def SymbolTable.resolveOrFail (t : SymbolTable) (symbol : String) : Except QueryError String :=
  match t.resolve symbol with
  | .ok id => .ok id
  | .error unknown => .error (.unknownSymbol unknown.symbol)

def SymbolTable.resolveAll (t : SymbolTable) : List String → Except QueryError (List String)
  | [] => .ok []
  | symbol :: rest =>
    match t.resolveOrFail symbol with
    | .error e => .error e
    | .ok id => (t.resolveAll rest).map (id :: ·)

/-- A text with commas is a list of symbols and stays one. -/
def SymbolTable.resolveText (t : SymbolTable) (text : String) : Except QueryError String :=
  if text.toList.contains ',' then (t.resolveAll (commaParts text)).map (",".intercalate ·)
  else t.resolveOrFail text

/-- Items that are no texts are left for coercion to refuse. -/
def SymbolTable.resolveItems (t : SymbolTable) : List Json → Except QueryError (List Json)
  | [] => .ok []
  | .string symbol :: rest =>
    match t.resolveOrFail symbol with
    | .error e => .error e
    | .ok id => (t.resolveItems rest).map (.string id :: ·)
  | item :: rest => (t.resolveItems rest).map (item :: ·)

/-- Resolves the symbols in a value. Other values are left for coercion to refuse. -/
def SymbolTable.resolveAssets (t : SymbolTable) (v : Json) : Except QueryError Json :=
  match v with
  | .string text => (t.resolveText text).map .string
  | .array items => (t.resolveItems items).map .array
  | v => .ok v

namespace ToolDefinition

/-- The value that a parameter takes before coercion, if it takes any. Null counts as absent. -/
def rawValue (d : ToolDefinition) (t : SymbolTable) (input : Fields) (p : Parameter) :
    Except QueryError (Option Json) :=
  match (Keyed.get? p.name input).filter fun v => !v.isNull with
  | some v => if p.assetReference then (t.resolveAssets v).map some else .ok (some v)
  | none =>
    match p.default with
    | some default => .ok (some default)
    | none => if p.required then .error (.missingParameter d.name p.name) else .ok none

/-- The argument of a parameter, if it has one. -/
def argument? (d : ToolDefinition) (t : SymbolTable) (input : Fields) (p : Parameter) :
    Except QueryError (Option Argument) :=
  match d.rawValue t input p with
  | .error e => .error e
  | .ok none => .ok none
  | .ok (some raw) =>
    match p.kind.coerce raw with
    | .ok a => .ok (some a)
    | .error fault => .error (.invalidParameter d.name p.name fault)

def argumentsOf (d : ToolDefinition) (t : SymbolTable) (input : Fields) :
    List Parameter → Except QueryError Arguments
  | [] => .ok []
  | p :: rest =>
    match d.argument? t input p with
    | .error e => .error e
    | .ok none => d.argumentsOf t input rest
    | .ok (some a) => (d.argumentsOf t input rest).map ((p.name, a) :: ·)

/-- The arguments of a call with this input. -/
def arguments (d : ToolDefinition) (t : SymbolTable) (input : Fields) :
    Except QueryError Arguments :=
  d.argumentsOf t input d.parameters

end ToolDefinition

namespace Registry

variable {σ : Type}

def lookup (r : Registry σ) (name : String) : Except QueryError (Tool σ) :=
  match r.find? name with
  | some tool => .ok tool
  | none => .error (.unknownTool name)

/-- The tool of an action and the arguments it would be called with. -/
def prepare (r : Registry σ) (t : SymbolTable) (action : Action) :
    Except QueryError (Tool σ × Arguments) :=
  match r.lookup action.tool with
  | .error e => .error e
  | .ok tool => (tool.definition.arguments t action.input).map fun args => (tool, args)

end Registry

end MarketQuery
