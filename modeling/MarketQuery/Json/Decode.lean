import MarketQuery.Json.Printer
import MarketQuery.Text.Quoted

/-!
Reading typed data out of JSON values, and what is said when a value does not fit. A record is read
from an object, or from an array that holds its fields in the order of declaration. The members of
an object are looked at in key order, and only then is it seen which fields are missing.
-/
namespace MarketQuery

inductive DecodeFault where
  | missingField (field : String)
  | wrongType (found : Json) (expected : String)
  | wrongValue (found : Json) (expected : String)
  | wrongLength (length : Nat) (expected : String)

/-- A value as a message names it. -/
def Json.sort : Json → String
  | null => "null"
  | bool b => "boolean \x60" ++ (if b then "true" else "false") ++ "\x60"
  | number (.int i) => "integer \x60" ++ (Number.int i).text ++ "\x60"
  | number (.float x) => "floating point \x60" ++ (Number.float x).text ++ "\x60"
  | string s => "string " ++ Text.quoted s
  | array _ => "sequence"
  | object _ => "map"

def DecodeFault.message : DecodeFault → String
  | missingField field => "missing field \x60" ++ field ++ "\x60"
  | wrongType found expected => "invalid type: " ++ found.sort ++ ", expected " ++ expected
  | wrongValue found expected => "invalid value: " ++ found.sort ++ ", expected " ++ expected
  | wrongLength length expected =>
    "invalid length " ++ Decimal.natText length ++ ", expected " ++ expected

abbrev Decoder (α : Type) := Json → Except DecodeFault α

namespace Decoder

def text : Decoder String
  | .string s => .ok s
  | v => .error (.wrongType v "a string")

def float : Decoder Float
  | .number n => .ok n.toFloat
  | v => .error (.wrongType v "f64")

/-- An integer of 64 bits with a sign. -/
def int64 : Decoder Int
  | .number (.int i) =>
    if i < Decimal.signedLimit then .ok i else .error (.wrongValue (.ofInt i) "i64")
  | v => .error (.wrongType v "i64")

def all {α : Type} (item : Decoder α) : List Json → Except DecodeFault (List α)
  | [] => .ok []
  | v :: rest =>
    match item v with
    | .error fault => .error fault
    | .ok a => (all item rest).map (a :: ·)

def list {α : Type} (item : Decoder α) : Decoder (List α)
  | .array items => all item items
  | v => .error (.wrongType v "a sequence")

end Decoder

/-- A field of a record of type `α`: how a value sets it, and whether it has to be there. -/
structure Field (α : Type) where
  name : String
  set : Json → α → Except DecodeFault α
  required : Bool := true

/-- A required field that is read by a decoder. -/
def Field.of {α β : Type} (name : String) (decoder : Decoder β) (update : β → α → α) :
    Field α where
  name := name
  set v a := (decoder v).map fun b => update b a

/-- A record: what messages call it, a blank one, and its fields in the order of declaration. -/
structure RecordLayout (α : Type) where
  title : String
  blank : α
  fields : List (Field α)

namespace RecordLayout

variable {α : Type}

/-- Members that are no fields are passed over. -/
def setMembers (l : RecordLayout α) : Fields → α → Except DecodeFault α
  | [], a => .ok a
  | (key, v) :: rest, a =>
    match l.fields.find? fun f => f.name = key with
    | none => l.setMembers rest a
    | some field =>
      match field.set v a with
      | .error fault => .error fault
      | .ok next => l.setMembers rest next

def missing? (l : RecordLayout α) (members : Fields) : Option (Field α) :=
  l.fields.find? fun f => f.required && (Keyed.get? f.name members).isNone

def ofMembers (l : RecordLayout α) (members : Fields) : Except DecodeFault α :=
  match l.setMembers members l.blank with
  | .error fault => .error fault
  | .ok a =>
    match l.missing? members with
    | some field => .error (.missingField field.name)
    | none => .ok a

/-- How many items the record has. -/
def sizeText (l : RecordLayout α) : String :=
  l.title ++ " with " ++ Decimal.natText l.fields.length ++
    (if l.fields.length = 1 then " element" else " elements")

/-- Sets fields by position; `done` items have been used. -/
def setItems (l : RecordLayout α) (done : Nat) :
    List (Field α) → List Json → α → Except DecodeFault α
  | [], [], a => .ok a
  | [], extra, _ => .error (.wrongLength (done + extra.length) "fewer elements in array")
  | field :: fields, [], a =>
    if field.required then .error (.wrongLength done l.sizeText)
    else l.setItems (done + 1) fields [] a
  | field :: fields, v :: rest, a =>
    match field.set v a with
    | .error fault => .error fault
    | .ok next => l.setItems (done + 1) fields rest next

def decode (l : RecordLayout α) : Decoder α
  | .object members => l.ofMembers members
  | .array items => l.setItems 0 l.fields items l.blank
  | v => .error (.wrongType v l.title)

end RecordLayout

end MarketQuery
