import MarketQuery.Decimal.Reading
import MarketQuery.Text.Blank
import MarketQuery.Text.LetterCase
import MarketQuery.Tool.Argument

/-!
Declared parameters. A parameter has a kind, and the kind says which JSON values it accepts and
what argument each of them becomes: numbers and truth values may also come as text, a list of
strings also as one text with commas.
-/
namespace MarketQuery

inductive ParameterKind where
  | string
  | number
  | integer
  | boolean
  | stringList
  deriving DecidableEq

def ParameterKind.name : ParameterKind → String
  | string => "string"
  | number => "number"
  | integer => "integer"
  | boolean => "boolean"
  | stringList => "string[]"

/-- Why a value is no argument of a kind. -/
inductive CoercionFault where
  | notNumber (text : String)
  | notIntegral (n : Number)
  | notInteger (text : String)
  | notBoolean (text : String)
  | itemNotString (item : Json)
  | wrongType (kind : ParameterKind) (v : Json)

def CoercionFault.message : CoercionFault → String
  | notNumber text => "'" ++ text ++ "' is not a number"
  | notIntegral n => n.text ++ " is not an integer"
  | notInteger text => "'" ++ text ++ "' is not an integer"
  | notBoolean text => "'" ++ text ++ "' is not a boolean"
  | itemNotString item => "list item " ++ item.compact ++ " is not a string"
  | wrongType kind v => "expected " ++ kind.name ++ ", got " ++ v.compact

/-- The nearest integer of 64 bits. -/
def clampInt64 (i : Int) : Int :=
  max (-Decimal.signedLimit) (min i (Decimal.signedLimit - 1))

/-- The integer that a number is. A whole number beyond 64 bits becomes the nearest one within. -/
def Number.integral? (n : Number) : Option Int :=
  match n.int64? with
  | some i => some i
  | none => (Decimal.ofFloat n.toFloat).integer?.map clampInt64

/-- The parts of a text between commas, without blanks around them and without empty parts. -/
def commaParts (s : String) : List String :=
  ((s.toList.splitOn ',').map Text.trim).filter (· ≠ []) |>.map String.ofList

def boolean? (s : String) : Option Bool :=
  let word := Text.lower (Text.trimmed s)
  if word = "true" ∨ word = "yes" then some true
  else if word = "false" ∨ word = "no" then some false
  else none

/-- Every item must be a string; the first that is none is the fault. -/
def stringItems : List Json → Except CoercionFault (List String)
  | [] => .ok []
  | .string s :: rest => (stringItems rest).map (s :: ·)
  | item :: _ => .error (.itemNotString item)

namespace ParameterKind

def coerce : ParameterKind → Json → Except CoercionFault Argument
  | string, .string s => .ok (.string s)
  | string, .number n => .ok (.string n.text)
  | number, .number n => .ok (.number n.toFloat)
  | number, .string s =>
    match Decimal.float? (Text.trim s.toList) with
    | some x => .ok (.number x)
    | none => .error (.notNumber s)
  | integer, .number n =>
    match n.integral? with
    | some i => .ok (.integer i)
    | none => .error (.notIntegral n)
  | integer, .string s =>
    match Decimal.integerOfBits? 64 (Text.trim s.toList) with
    | some i => .ok (.integer i)
    | none => .error (.notInteger s)
  | boolean, .bool b => .ok (.boolean b)
  | boolean, .string s =>
    match boolean? s with
    | some b => .ok (.boolean b)
    | none => .error (.notBoolean s)
  | stringList, .array items => (stringItems items).map .stringList
  | stringList, .string s => .ok (.stringList (commaParts s))
  | kind, v => .error (.wrongType kind v)

end ParameterKind

/-- A declared parameter of a tool. -/
structure Parameter where
  name : String
  kind : ParameterKind
  description : String
  required : Bool
  default : Option Json := none
  /-- The value names an asset and is resolved through the symbol table. -/
  assetReference : Bool := false

end MarketQuery
