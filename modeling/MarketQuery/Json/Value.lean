import MarketQuery.Decimal.Binary
import MarketQuery.Decimal.Scaling
import MarketQuery.Keyed

/-!
JSON values. Integers of 64 bits, signed or unsigned, stay apart from floats: `1` and `1.0` are
different values. The members of an object are kept in key order.
-/
namespace MarketQuery

inductive Number where
  | int (i : Int)
  | float (x : Float)

inductive Json where
  | null
  | bool (b : Bool)
  | number (n : Number)
  | string (s : String)
  | array (items : List Json)
  | object (fields : List (String × Json))

/-- The members of an object. -/
abbrev Fields := List (String × Json)

namespace Number

def toFloat : Number → Float
  | int i => Float.ofInt i
  | float x => x

/-- The integer itself, if it fits 64 bits with a sign. -/
def int64? : Number → Option Int
  | int i => if i < Decimal.signedLimit then some i else none
  | float _ => none

/-- The number that a JSON number literal denotes. A literal without point and exponent is an
integer if one of the two kinds of integer holds it; a float may not be infinite. -/
def ofLiteral? (text : List Char) : Option Number :=
  let negative := text.head? == some '-'
  let body := if negative then text.drop 1 else text
  match Decimal.unsigned? body with
  | none => none
  | some spelled =>
    let float := spelled.scaled?.map fun x => .float (if negative then -x else x)
    if body.all Char.isDigit then
      let n := Decimal.value body
      if negative then
        if n ≠ 0 ∧ n ≤ Decimal.signedLimit then some (.int (-(n : Int))) else float
      else if n < Decimal.wordLimit then some (.int n) else float
    else float

end Number

namespace Json

/-- A float as a value: what is not finite has no spelling and becomes null. -/
def ofFloat (x : Float) : Json :=
  if x.isFinite then .number (.float x) else .null

def ofInt (i : Int) : Json :=
  .number (.int i)

def ofStrings (items : List String) : Json :=
  .array (items.map .string)

/-- An object whose members are given in any order; the last of a repeated key counts. -/
def ofFields (fields : List (String × Json)) : Json :=
  .object (Keyed.ofList fields)

def isNull : Json → Bool
  | null => true
  | _ => false

def string? : Json → Option String
  | string s => some s
  | _ => none

def float? : Json → Option Float
  | number n => some n.toFloat
  | _ => none

def bool? : Json → Option Bool
  | bool b => some b
  | _ => none

def items? : Json → Option (List Json)
  | array items => some items
  | _ => none

def fields? : Json → Option Fields
  | object fields => some fields
  | _ => none

/-- The member of an object under a key. -/
def get? (key : String) : Json → Option Json
  | object fields => Keyed.get? key fields
  | _ => none

end Json

end MarketQuery
