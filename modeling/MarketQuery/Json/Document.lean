import MarketQuery.Json.Value
import MarketQuery.Text.Hex

/-!
JSON text as a tree. The members of an object are in the order of the text and may repeat a key,
and the leaves keep their spelling: a number its literal, a string the characters between its
quotes. `Document.value?` says what value a document denotes, if any.
-/
namespace MarketQuery

inductive Document where
  | null
  | bool (b : Bool)
  | number (literal : List Char)
  | string (spelling : List Char)
  | array (items : List Document)
  | object (members : List (List Char × Document))

namespace Spelling

open Text (hexValue? hexDigit)

def hex4? (a b c d : Char) : Option Nat := do
  let a ← hexValue? a
  let b ← hexValue? b
  let c ← hexValue? c
  let d ← hexValue? d
  some (((a * 16 + b) * 16 + c) * 16 + d)

/-- The character that a short escape stands for. -/
def shortEscape? : Char → Option Char
  | '"' => some '"'
  | '\\' => some '\\'
  | '/' => some '/'
  | 'b' => some '\x08'
  | 'f' => some '\x0c'
  | 'n' => some '\n'
  | 'r' => some '\r'
  | 't' => some '\t'
  | _ => none

/-- The code units that the spelled characters stand for. Only an escape can give a surrogate. -/
def units? : List Char → Option (List Nat)
  | [] => some []
  | '\\' :: 'u' :: a :: b :: c :: d :: rest => do
    let unit ← hex4? a b c d
    let units ← units? rest
    some (unit :: units)
  | '\\' :: c :: rest => do
    let c ← shortEscape? c
    let units ← units? rest
    some (c.toNat :: units)
  | c :: rest => do
    let units ← units? rest
    some (c.toNat :: units)

def isHighSurrogate (n : Nat) : Bool := 0xD800 ≤ n && n < 0xDC00
def isLowSurrogate (n : Nat) : Bool := 0xDC00 ≤ n && n < 0xE000

/-- Surrogates must come in pairs, a high one before a low one. -/
def joinUnits? : List Nat → Option (List Char)
  | [] => some []
  | h :: l :: rest =>
    if isHighSurrogate h then
      if isLowSurrogate l then
        (joinUnits? rest).map (Char.ofNat (0x10000 + (h - 0xD800) * 0x400 + (l - 0xDC00)) :: ·)
      else none
    else if isLowSurrogate h then none
    else (joinUnits? (l :: rest)).map (Char.ofNat h :: ·)
  | [n] => if isHighSurrogate n || isLowSurrogate n then none else some [Char.ofNat n]

/-- The text that a spelled string denotes. -/
def decode? (spelling : List Char) : Option String :=
  ((units? spelling).bind joinUnits?).map String.ofList

/-- Quotes, backslashes and control characters are escaped, and nothing else. -/
def encodeChar (c : Char) : List Char :=
  match c with
  | '"' => ['\\', '"']
  | '\\' => ['\\', '\\']
  | '\x08' => ['\\', 'b']
  | '\t' => ['\\', 't']
  | '\n' => ['\\', 'n']
  | '\x0c' => ['\\', 'f']
  | '\r' => ['\\', 'r']
  | c =>
    if c.toNat < 0x20 then ['\\', 'u', '0', '0', hexDigit (c.toNat / 16), hexDigit (c.toNat % 16)]
    else [c]

def encode (s : String) : List Char :=
  s.toList.flatMap encodeChar

end Spelling

namespace Document

/-- Arrays and objects may be nested this deep, and no deeper. -/
def nestingLimit : Nat := 127

/-- The value of a document whose nesting is at most the given depth. -/
def valueWithin? : Nat → Document → Option Json
  | _, null => some .null
  | _, bool b => some (.bool b)
  | _, number literal => (Number.ofLiteral? literal).map .number
  | _, string spelling => (Spelling.decode? spelling).map .string
  | 0, array _ => none
  | 0, object _ => none
  | depth + 1, array items => (items.mapM (valueWithin? depth)).map .array
  | depth + 1, object members =>
    (members.mapM fun (m : List Char × Document) => do
      let key ← Spelling.decode? m.1
      let v ← valueWithin? depth m.2
      some (key, v)).map Json.ofFields

def value? (d : Document) : Option Json :=
  valueWithin? nestingLimit d

end Document

end MarketQuery
