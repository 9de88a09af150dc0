import MarketQuery.Text.Hex

/-!
Percent encoding. The bytes of a text are those of UTF-8. An escaped byte is a percent sign and two
upper-case hexadecimal digits.
-/
namespace MarketQuery.Percent

open Text (hexValue? upperHexDigit)

def bytes (s : List Char) : List UInt8 :=
  s.flatMap String.utf8EncodeChar

def escape (b : UInt8) : List Char :=
  ['%', upperHexDigit (b.toNat / 16), upperHexDigit (b.toNat % 16)]

/-- Escapes what lies outside ASCII and the ASCII characters of a set. -/
def encode (escaped : Char → Bool) (s : List Char) : List Char :=
  s.flatMap fun c =>
    if c.toNat < 0x80 && !escaped c then [c] else (String.utf8EncodeChar c).flatMap escape

/-- A form keeps letters, digits and four marks. -/
def isFormSafe (c : Char) : Bool :=
  c.isAlphanum || c == '*' || c == '-' || c == '.' || c == '_'

/-- A form writes a space as a plus sign. -/
def formByte (b : UInt8) : List Char :=
  let c := Char.ofNat b.toNat
  if isFormSafe c then [c] else if c == ' ' then ['+'] else escape b

/-- The spelling of a text in a form. -/
def formEncode (s : String) : String :=
  String.ofList ((bytes s.toList).flatMap formByte)

/-- The bytes that a text stands for. A percent sign without two digits stands for itself. -/
def decode : List Char → List UInt8
  | '%' :: a :: b :: rest =>
    match hexValue? a, hexValue? b with
    | some high, some low => UInt8.ofNat (16 * high + low) :: decode rest
    | _, _ => UInt8.ofNat '%'.toNat :: decode (a :: b :: rest)
  | c :: rest => String.utf8EncodeChar c ++ decode rest
  | [] => []

/-- The text that a text stands for, if its bytes are one. -/
def decodeText? (s : List Char) : Option (List Char) :=
  (String.fromUTF8? ⟨(decode s).toArray⟩).map String.toList

end MarketQuery.Percent
