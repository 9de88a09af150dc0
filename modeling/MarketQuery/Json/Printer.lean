import MarketQuery.Decimal.Layout
import MarketQuery.Json.Document

/-!
Writing JSON text. The compact form has no white space; the pretty form puts every item and every
member on a line of its own, two spaces deeper than what holds it. A value is written by way of
the document that spells it.
-/
namespace MarketQuery

namespace Document

def ofString (s : String) : Document :=
  .string (Spelling.encode s)

def ofNat (n : Nat) : Document :=
  .number (Decimal.digits n)

/-- An object whose members are written in the given order. -/
def ofMembers (members : List (String × Document)) : Document :=
  .object (members.map fun m => (Spelling.encode m.1, m.2))

def quotedSpelling (spelling : List Char) : List Char :=
  '"' :: spelling ++ ['"']

mutual

def compact : Document → List Char
  | null => "null".toList
  | bool b => (if b then "true" else "false").toList
  | number literal => literal
  | string spelling => quotedSpelling spelling
  | array items => '[' :: compactItems items ++ [']']
  | object members => '{' :: compactMembers members ++ ['}']

def compactItems : List Document → List Char
  | [] => []
  | [item] => compact item
  | item :: rest => compact item ++ ',' :: compactItems rest

def compactMembers : List (List Char × Document) → List Char
  | [] => []
  | [(key, doc)] => quotedSpelling key ++ ':' :: compact doc
  | (key, doc) :: rest => quotedSpelling key ++ ':' :: compact doc ++ ',' :: compactMembers rest

end

/-- A line break and the indentation of what stands `depth` deep. -/
def lineAt (depth : Nat) : List Char :=
  '\n' :: List.replicate (2 * depth) ' '

mutual

def prettyAt (depth : Nat) : Document → List Char
  | array [] => "[]".toList
  | array items => '[' :: prettyItems (depth + 1) items ++ lineAt depth ++ [']']
  | object [] => "{}".toList
  | object members => '{' :: prettyMembers (depth + 1) members ++ lineAt depth ++ ['}']
  | null => "null".toList
  | bool b => (if b then "true" else "false").toList
  | number literal => literal
  | string spelling => quotedSpelling spelling

def prettyItems (depth : Nat) : List Document → List Char
  | [] => []
  | [item] => lineAt depth ++ prettyAt depth item
  | item :: rest => lineAt depth ++ prettyAt depth item ++ ',' :: prettyItems depth rest

def prettyMembers (depth : Nat) : List (List Char × Document) → List Char
  | [] => []
  | [(key, doc)] => lineAt depth ++ quotedSpelling key ++ ": ".toList ++ prettyAt depth doc
  | (key, doc) :: rest =>
    lineAt depth ++ quotedSpelling key ++ ": ".toList ++ prettyAt depth doc ++
      ',' :: prettyMembers depth rest

end

def compactText (d : Document) : String :=
  String.ofList (compact d)

def prettyText (d : Document) : String :=
  String.ofList (prettyAt 0 d)

end Document

def Number.literal : Number → List Char
  | int i => if i < 0 then '-' :: Decimal.digits i.natAbs else Decimal.digits i.natAbs
  | float x => Decimal.dataText x

/-- The text of a number. -/
def Number.text (n : Number) : String :=
  String.ofList n.literal

namespace Json

mutual

/-- The document that spells a value. -/
def document : Json → Document
  | null => .null
  | bool b => .bool b
  | number n => .number n.literal
  | string s => .ofString s
  | array items => .array (documents items)
  | object fields => .object (memberDocuments fields)

def documents : List Json → List Document
  | [] => []
  | item :: rest => document item :: documents rest

def memberDocuments : List (String × Json) → List (List Char × Document)
  | [] => []
  | (key, v) :: rest => (Spelling.encode key, document v) :: memberDocuments rest

end

def compact (v : Json) : String :=
  v.document.compactText

def pretty (v : Json) : String :=
  v.document.prettyText

end Json

end MarketQuery
