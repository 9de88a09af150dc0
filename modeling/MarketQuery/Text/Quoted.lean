import MarketQuery.Text.Hex
import MarketQuery.Text.Printable

/-!
Texts shown between double quotes. Whatever would not show as itself is escaped: the quote, the
backslash, control and other unprintable characters, and characters that extend a grapheme.
-/
namespace MarketQuery.Text

def quotedChar (c : Char) : List Char :=
  match c with
  | '"' => ['\\', '"']
  | '\\' => ['\\', '\\']
  | '\x00' => ['\\', '0']
  | '\t' => ['\\', 't']
  | '\n' => ['\\', 'n']
  | '\r' => ['\\', 'r']
  | c =>
    if extendsGrapheme c || !isPrintable c then
      ['\\', 'u', '\x7b'] ++ hexDigits c.toNat ++ ['\x7d']
    else [c]

def quoted (s : String) : String :=
  String.ofList ('"' :: s.toList.flatMap quotedChar ++ ['"'])

end MarketQuery.Text
