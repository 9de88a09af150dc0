import MarketQuery.Json.Printer
import MarketQuery.Text.Quoted

/-!
Typed arguments of a tool call. The list of arguments is in the order in which the tool declares
its parameters; the first argument of a name is the one that counts for the tool.
-/
namespace MarketQuery

inductive Argument where
  | string (s : String)
  | number (x : Float)
  /-- An integer of 64 bits. -/
  | integer (i : Int)
  | boolean (b : Bool)
  | stringList (items : List String)

namespace Argument

def json : Argument → Json
  | string s => .string s
  | number x => .ofFloat x
  | integer i => .ofInt i
  | boolean b => .bool b
  | stringList items => .ofStrings items

/-- The argument with its type, as it is shown when the type is the wrong one. -/
def shown : Argument → String
  | string s => "String(" ++ Text.quoted s ++ ")"
  | number x => "Number(" ++ String.ofList (Decimal.argumentText x) ++ ")"
  | integer i => "Integer(" ++ (Number.int i).text ++ ")"
  | boolean b => "Boolean(" ++ (if b then "true" else "false") ++ ")"
  | stringList items => "StringList([" ++ ", ".intercalate (items.map Text.quoted) ++ "])"

end Argument

/-- What a tool finds wrong with its arguments. -/
inductive ArgumentFault where
  | missing (name : String)
  | mismatch (name expected : String) (got : Argument)
  | noSymbols
  | limitBelowOne
  | unsupportedRanking (key : String)
  | compoundsBelowOne
  | ratioNotPositive
  | other (reason : String)

def ArgumentFault.message : ArgumentFault → String
  | missing name => "Missing '" ++ name ++ "'"
  | mismatch name expected got =>
    "'" ++ name ++ "' should be a " ++ expected ++ ", got " ++ got.shown
  | noSymbols => "'symbols' must name at least one token"
  | limitBelowOne => "'limit' must be at least 1"
  | unsupportedRanking key => "Unsupported sort_by '" ++ key ++ "'. Supported: tvl, apr"
  | compoundsBelowOne => "'compounds_per_year' must be at least 1"
  | ratioNotPositive => "'price_ratio' must be positive"
  | other reason => reason

/-- The arguments of a call, by name and in order. -/
abbrev Arguments := List (String × Argument)

namespace Arguments

def get? (args : Arguments) (name : String) : Option Argument :=
  args.lookup name

def json (args : Arguments) : Json :=
  .ofFields (args.map fun a => (a.1, a.2.json))

def string (args : Arguments) (name : String) : Except ArgumentFault String :=
  match args.get? name with
  | some (.string s) => .ok s
  | some other => .error (.mismatch name "string" other)
  | none => .error (.missing name)

/-- An integer is a number too. -/
def number (args : Arguments) (name : String) : Except ArgumentFault Float :=
  match args.get? name with
  | some (.number x) => .ok x
  | some (.integer i) => .ok (Float.ofInt i)
  | some other => .error (.mismatch name "number" other)
  | none => .error (.missing name)

def integer (args : Arguments) (name : String) : Except ArgumentFault Int :=
  match args.get? name with
  | some (.integer i) => .ok i
  | some other => .error (.mismatch name "integer" other)
  | none => .error (.missing name)

def boolean (args : Arguments) (name : String) : Except ArgumentFault Bool :=
  match args.get? name with
  | some (.boolean b) => .ok b
  | some other => .error (.mismatch name "boolean" other)
  | none => .error (.missing name)

def stringList (args : Arguments) (name : String) : Except ArgumentFault (List String) :=
  match args.get? name with
  | some (.stringList items) => .ok items
  | some other => .error (.mismatch name "string list" other)
  | none => .error (.missing name)

end Arguments

end MarketQuery
