import MarketQuery.Text.Hex
import MarketQuery.Text.Ranges

/-!
Tables of code points, written as text. The words between blanks are hexadecimal numbers, and
`300-36F` is a range with both its ends. In a table of images the words `C0: 41+300 41+301` are the
images of `C0` and of the code point after it.
-/
namespace MarketQuery.Text

def tableWords (table : String) : List (List Char) :=
  (table.toList.splitOnP fun c => c == ' ' || c == '\n').filter (· ≠ [])

def codePoint (word : List Char) : Nat :=
  (hexNumber? word).getD 0

def rangeOf (word : List Char) : Nat × Nat :=
  let first := word.takeWhile (· ≠ '-')
  let last := (word.dropWhile (· ≠ '-')).drop 1
  (codePoint first, codePoint (if last = [] then first else last))

/-- The ranges of a table. -/
def ranges (table : String) : List (Nat × Nat) :=
  (tableWords table).map rangeOf

/-- Reads images for `next` and the code points after it. -/
def imagesFrom (next : Nat) : List (List Char) → List (Nat × List Nat)
  | [] => []
  | word :: rest =>
    if word.getLast? = some ':' then imagesFrom (codePoint word.dropLast) rest
    else (next, (word.splitOn '+').map codePoint) :: imagesFrom (next + 1) rest

/-- The images of a table. -/
def images (table : String) : List (Nat × List Nat) :=
  imagesFrom 0 (tableWords table)

end MarketQuery.Text
