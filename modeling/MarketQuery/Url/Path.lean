import MarketQuery.Url.Percent
import MarketQuery.Url.Scheme

/-!
Paths of addresses, read segment by segment. A dot stays in place and two dots go back by one
segment, but not past a segment that looks like a drive. The path of a file may start with a drive,
which then stands for the host too.
-/
namespace MarketQuery.Url

/-- A path while it is read: a slash, segments with a slash after each, and the rest. -/
structure PathReader where
  /-- The segments before the last slash, the last one first. -/
  closed : List (List Char)
  /-- What stands after the last slash. -/
  rest : List Char
  /-- The path starts with a drive. -/
  onDrive : Bool

/-- The path of a single slash. -/
def PathReader.root : PathReader := ⟨[], [], false⟩

/-- The text of a segment once its escaped dots are read. -/
def undotted : List Char → List Char
  | '%' :: '2' :: c :: rest => if c.toLower = 'e' then '.' :: undotted rest
    else '%' :: undotted ('2' :: c :: rest)
  | c :: rest => c :: undotted rest
  | [] => []

/-- A drive is a letter with a colon or a bar. -/
def isDrive (s : List Char) : Bool :=
  match s with
  | [c, d] => c.isAlpha && (d == ':' || d == '|')
  | _ => false

/-- A drive stands in front, alone or before a backslash. -/
def startsWithDrive (s : List Char) : Bool :=
  isDrive (s.take 2) && (s.drop 2).head?.all (· = '\\')

/-- A drive and the text that tabs or line breaks part from it. -/
def partedDrive? (s : List Char) : Option (List Char × List Char) :=
  let drive := counted (s.takeWhile (· ≠ ':')) ++ [':']
  let after := (s.dropWhile (· ≠ ':')).drop 1
  if isDrive drive && after.head?.any isIgnored && counted after ≠ [] then
    some (drive, counted after)
  else none

/-- Goes back by one segment. -/
def PathReader.back (p : PathReader) : PathReader :=
  match p.closed with
  | [] => p
  | segment :: closed => if startsWithDrive segment then p else { p with closed }

/-- Adds a segment as it is, with or without a slash after it. -/
def PathReader.put (p : PathReader) (segment : List Char) (slash : Bool) : PathReader :=
  if slash then { p with closed := segment :: p.closed } else { p with rest := segment }

/-- Reads a segment. -/
def PathReader.read (family : Family) (p : PathReader) (s : List Char) (slash : Bool) :
    PathReader :=
  let segment := Percent.encode inPath (counted s)
  let mayBeDrive := family = .file && p.closed.isEmpty
  match if mayBeDrive then partedDrive? s else none with
  | some (drive, after) => (p.put drive true).put (Percent.encode inPath after) slash
  | none =>
    if undotted segment = ['.', '.'] then p.back
    else if undotted segment = ['.'] then p
    else if mayBeDrive && isDrive segment then
      { p.put (segment.take 1 ++ [':']) slash with onDrive := true }
    else p.put segment slash

def PathReader.readAll (family : Family) (p : PathReader) : List (List Char) → PathReader
  | [] => p
  | [segment] => p.read family segment false
  | segment :: rest => (p.read family segment true).readAll family rest

/-- Reads what follows the first slash of a path. -/
def PathReader.ofText (family : Family) (s : List Char) : PathReader :=
  PathReader.root.readAll family (s.splitOnP family.isSlash)

/-- The text of a path. The path of a file starts with one slash only. -/
def PathReader.text (family : Family) (p : PathReader) : String :=
  let text := p.closed.reverse.flatMap (· ++ ['/']) ++ p.rest
  String.ofList ('/' :: if family = .file then text.dropWhile (· = '/') else text)

/-- The path that a text names; its first slash may be missing. -/
def absolutePath (family : Family) (s : List Char) : PathReader :=
  match s with
  | [] => .root
  | c :: rest => .ofText family (if family.isSlash c then rest else s)

end MarketQuery.Url
