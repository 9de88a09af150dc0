import MarketQuery.Text.Composition
import MarketQuery.Text.Direction
import MarketQuery.Text.Joining
import MarketQuery.Url.NameMapping
import MarketQuery.Url.Punycode

/-!
Names of hosts. A name is made plain first: capitals become small, the forms of a character become
the character, and what composes is composed. Then its labels are read one by one. A label outside
ASCII has a spelling in ASCII, which is what the name is compared by; a label that looks like a
spelling must be one, and the conditions on labels hold of the label that it spells.
-/
namespace MarketQuery.Url

open Text (Direction direction isMark)

/-- ASCII characters that no name may have. -/
def isDenied (c : Char) : Bool :=
  c.toNat ≤ 0x20 || c.toNat == 0x7F || "%#/:<>?@[\\]^|".toList.contains c

/-- The plain form of a name. -/
def plainName? (s : List Char) : Option (List Char) := do
  let plain := Text.composed (← s.mapM nameImage?).flatten
  if plain.any isDenied then none else some plain

structure Label where
  /-- The label in its own characters. -/
  text : List Char
  ascii : List Char

/-- Making the text plain would not change it. -/
def isPlain (s : List Char) : Bool :=
  s.all (fun c => nameImage? c == some [c]) && Text.composed s == s

/-- The label of a spelling, which spells at least one character outside ASCII. -/
def spelled? (spelling : List Char) : Option (List Char) :=
  if spelling.all Punycode.isAscii && !spelling.isEmpty && spelling.getLast? != some '-' &&
      spelling.length ≤ 2000 then
    (Punycode.decode? spelling).filter isPlain
  else none

/-- Reads a label of a plain name. -/
def Label.ofPlain? (s : List Char) : Option Label :=
  match s with
  | 'x' :: 'n' :: '-' :: '-' :: spelling => (spelled? spelling).map fun text => ⟨text, s⟩
  | _ =>
    if s.all Punycode.isAscii then some ⟨s, s⟩
    else some ⟨s, "xn--".toList ++ Punycode.encode s⟩

def isVirama (c : Char) : Bool :=
  Text.combiningClass c.toNat == Text.virama

/-- A joiner stands after a virama. The one that keeps letters apart may also stand where they would
join without it. What stands before is given from the end. -/
def joinerStands (before : List Char) (joiner : Char) (after : List Char) : Bool :=
  before.head?.any isVirama || (joiner == '\u200C' && Text.joinAround before after)

def joinersStand (before : List Char) : List Char → Bool
  | [] => true
  | c :: rest =>
    let stands := c != '\u200C' && c != '\u200D' || joinerStands before c rest
    stands && joinersStand (c :: before) rest

def isProper (label : List Char) : Bool :=
  !label.head?.any isMark && joinersStand [] label &&
    (label.all Punycode.isAscii || label.length ≤ 1000)

/-- Some part of a name is written from right to left. -/
def runsLeft (name : List Char) : Bool :=
  name.any fun c => direction c = .right || direction c = .arabicNumber

/-- What follows the first letter of a label fits a label that is written to the right. -/
def fitsRight (rest : List Direction) : Bool :=
  rest.getLast?.all (fun d => d = .left || d = .europeanNumber) &&
    !rest.contains .right && !rest.contains .arabicNumber

/-- What follows the first letter of a label fits a label that is written to the left, where numbers
are of one kind. -/
def fitsLeft (rest : List Direction) : Bool :=
  rest.getLast?.all (fun d => d = .right || d = .europeanNumber || d = .arabicNumber) &&
    !rest.contains .left && !(rest.contains .europeanNumber && rest.contains .arabicNumber)

/-- A label starts with a letter and keeps the direction of this letter. Marks at its end do not
count. -/
def keepsDirection (label : List Char) : Bool :=
  match label.map direction with
  | [] => true
  | first :: rest =>
    let inner := (rest.reverse.dropWhile (· = .mark)).reverse
    match first with
    | .left => fitsRight inner
    | .right => fitsLeft inner
    | _ => false

/-- The ASCII form of a name. -/
def asciiName? (s : List Char) : Option (List Char) := do
  let plain ← plainName? s
  let labels ← (plain.splitOn '.').mapM Label.ofPlain?
  let texts := labels.map (·.text)
  if texts.all isProper && (!texts.any runsLeft || texts.all keepsDirection) then
    some (['.'].intercalate (labels.map (·.ascii)))
  else none

end MarketQuery.Url
