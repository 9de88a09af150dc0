import MarketQuery.Json.Printer

/-!
Reading typed data out of JSON text. A form names the fields of a record. It is filled from an
object, in which a field may stand once and other members are passed over unread, or from an array
that holds the fields in order and may end early.
-/
namespace MarketQuery

/-- A field: how a document fills it, and whether it has to be filled. -/
structure FormField (α : Type) where
  name : String
  fill : Document → α → Option α
  required : Bool := false

structure Form (α : Type) where
  /-- What holds where no field is filled. -/
  blank : α
  fields : List (FormField α)

namespace Form

variable {α : Type}

def fillMembers (f : Form α) : List (String × Document) → α → Option α
  | [], a => some a
  | (key, doc) :: rest, a =>
    match f.fields.find? fun field => field.name = key with
    | none => f.fillMembers rest a
    | some field => (field.fill doc a).bind (f.fillMembers rest)

def ofMembers? (f : Form α) (members : List (List Char × Document)) : Option α := do
  let named ← members.mapM fun m => (Spelling.decode? m.1).map fun key => (key, m.2)
  let keys := (named.map Prod.fst).filter fun key => f.fields.any fun field => field.name = key
  if keys.Nodup ∧ f.fields.all (fun field => !field.required || keys.contains field.name) then
    f.fillMembers named f.blank
  else none

def fillItems : List (FormField α) → List Document → α → Option α
  | _, [], a => some a
  | [], _ :: _, _ => none
  | field :: fields, doc :: rest, a => (field.fill doc a).bind (fillItems fields rest)

def ofItems? (f : Form α) (items : List Document) : Option α :=
  if (f.fields.drop items.length).any FormField.required then none
  else fillItems f.fields items f.blank

/-- Fills the form. -/
def read? (f : Form α) : Document → Option α
  | .object members => f.ofMembers? members
  | .array items => f.ofItems? items
  | _ => none

end Form

namespace Document

def string? : Document → Option String
  | string spelling => Spelling.decode? spelling
  | _ => none

def number? : Document → Option Number
  | number literal => Number.ofLiteral? literal
  | _ => none

/-- A natural number of at most so many bits. -/
def nat? (bits : Nat) (d : Document) : Option Nat :=
  match d.number? with
  | some (.int i) => if 0 ≤ i ∧ i < (Nat.pow 2 bits : Nat) then some i.toNat else none
  | _ => none

/-- Nothing, or what is read. -/
def optional? {α : Type} (read : Document → Option α) : Document → Option (Option α)
  | null => some none
  | d => (read d).map some

def list? {α : Type} (read : Document → Option α) : Document → Option (List α)
  | array items => items.mapM read
  | _ => none

/-- Texts under keys; the last of a repeated key counts. -/
def texts? : Document → Option (List (String × String))
  | object members => do
    let entries ← members.mapM fun (m : List Char × Document) => do
      let key ← Spelling.decode? m.1
      let text ← string? m.2
      some (key, text)
    some (Keyed.ofList entries)
  | _ => none

end Document

end MarketQuery
