import MarketQuery.Settings.Basic
import MarketQuery.Text.Blank
import MarketQuery.Text.Letters

/-!
Files of variables. An entry sets one variable, `NAME=value`, and takes one line, or more if quotes
are open where a line ends. Values may be quoted: single quotes keep everything, double quotes let
escapes and the values of other variables in, as does a value without quotes. A variable that has a
value keeps it, and the first entry that cannot be read ends the file.
-/
namespace MarketQuery.EnvFile

/-- What is open at a place of an entry. -/
inductive Opened where
  | nothing
  /-- A blank, after which a comment may start. -/
  | blank
  | escape
  | quote (mark : Char)
  | quotedEscape (mark : Char)
  deriving DecidableEq

/-- What a character opens that stands in no quotes. -/
def Opened.start (c : Char) : Opened :=
  if c = '\\' then .escape else if c = '"' ∨ c = '\'' then .quote c else .nothing

/-- What is open after a character, unless it starts a comment. -/
def Opened.next? : Opened → Char → Option Opened
  | .nothing, c => some (if Text.isBlank c ∧ c ≠ '\n' ∧ c ≠ '\r' then .blank else .start c)
  | .blank, c => if c = '#' then none else some (.start c)
  | .escape, _ => some .nothing
  | .quote mark, c =>
    some (if c = '\\' then .quotedEscape mark else if c = mark then .nothing else .quote mark)
  | .quotedEscape mark, _ => some (.quote mark)

/-- A line without its comment, and what is open at its end. -/
def cutComment (o : Opened) : List Char → List Char × Opened
  | [] => ([], o)
  | c :: rest =>
    match o.next? c with
    | none => ([], .nothing)
    | some o =>
      let cut := cutComment o rest
      (c :: cut.1, cut.2)

/-- The lines of a text, with the line breaks that end them. -/
def lines : List Char → List (List Char)
  | [] => []
  | c :: rest =>
    match lines rest with
    | line :: more => if c = '\n' then [c] :: line :: more else (c :: line) :: more
    | [] => [[c]]

/-- The entries that lines make up, after what has been held back with something open. An entry that
is open where the file ends is none. -/
def entries (held : List Char) (o : Opened) : List (List Char) → List (Option (List Char))
  | [] => if o = .nothing then [] else [none]
  | line :: rest =>
    if held = [] ∧ (Text.trimStart line).head? = some '#' then entries [] .nothing rest
    else
      let cut := cutComment o line
      if cut.2 = .nothing then some (Text.trim (held ++ cut.1)) :: entries [] .nothing rest
      else entries (held ++ cut.1) cut.2 rest

inductive Quote where
  | none
  | single
  | double
  deriving DecidableEq

/-- Where in a value the reader stands. -/
inductive Place where
  | text (quote : Quote)
  | escaped (quote : Quote)
  /-- In the name of a variable after a dollar sign; its characters are kept in reverse. -/
  | name (quote : Quote) (read : List Char)
  /-- In the name of a variable between braces. -/
  | bracedName (quote : Quote) (read : List Char)
  /-- After the blank that ended the value. -/
  | ended

def isGap (c : Char) : Bool := c == ' ' || c == '\t'

/-- The character that an escaped one stands for. -/
def escape? : Char → Option Char
  | 'n' => some '\n'
  | c => if "\\'\"$ ".toList.contains c then some c else none

def named (look : String → String) (read : List Char) : List Char :=
  (look (String.ofList read.reverse)).toList

/-- The value that a text spells; `look` gives the values of other variables. -/
def value? (look : String → String) : Place → List Char → Option (List Char)
  | .text .none, [] | .escaped .none, [] | .ended, [] => some []
  | .name .none read, [] => some (named look read)
  | _, [] => none
  | .ended, c :: rest =>
    if isGap c then value? look .ended rest else if c = '#' then some [] else none
  | .escaped quote, c :: rest => do
    let c ← escape? c
    let more ← value? look (.text quote) rest
    some (c :: more)
  | .name quote read, c :: rest =>
    if Text.isLetterOrDigit c then value? look (.name quote (c :: read)) rest
    else if c = '\x7b' ∧ read = [] then value? look (.bracedName quote []) rest
    else if c = '$' then (value? look (.name quote []) rest).map (named look read ++ ·)
    else (value? look (.text quote) rest).map (named look read ++ c :: ·)
  | .bracedName quote read, c :: rest =>
    if c = '\x7d' then (value? look (.text quote) rest).map (named look read ++ ·)
    else value? look (.bracedName quote (c :: read)) rest
  | .text .single, c :: rest =>
    if c = '\'' then value? look (.text .none) rest
    else (value? look (.text .single) rest).map (c :: ·)
  | .text quote, c :: rest =>
    if c = '$' then value? look (.name quote []) rest
    else if c = '\\' then value? look (.escaped quote) rest
    else if c = '"' then
      value? look (.text (if quote = .double then .none else .double)) rest
    else if quote = .none ∧ c = '\'' then value? look (.text .single) rest
    else if quote = .none ∧ isGap c then value? look .ended rest
    else (value? look (.text quote) rest).map (c :: ·)

def isNameChar (c : Char) : Bool :=
  c.isAlphanum || c == '_' || c == '.'

/-- A name and what follows it. -/
def cutName? (s : List Char) : Option (String × List Char) :=
  match s with
  | c :: _ =>
    if c.isAlpha || c == '_' then
      some (String.ofList (s.takeWhile isNameChar), Text.trimStart (s.dropWhile isNameChar))
    else none
  | [] => none

/-- What follows the sign of equality. -/
def afterEquals? : List Char → Option (List Char)
  | '=' :: rest => some (Text.trimStart rest)
  | _ => none

/-- The name that an entry sets, and the spelling of its value. The word `export` may stand before
the name. -/
def setting? (entry : List Char) : Option (String × List Char) := do
  let (first, rest) ← cutName? entry
  match afterEquals? rest with
  | some spelling => some (first, spelling)
  | none =>
    if first = "export" then
      let (second, rest) ← cutName? rest
      let spelling ← afterEquals? rest
      some (second, spelling)
    else none

/-- The name and the value that an entry sets. A comment is no value. -/
def assignment? (look : String → String) (entry : List Char) : Option (String × String) := do
  let (name, spelling) ← setting? entry
  if spelling.head? = some '#' then some (name, "")
  else
    let v ← value? look (.text .none) spelling
    some (name, String.ofList v)

/-- Adds the variables of entries to those set so far. -/
def addEntries (env : Environment) (set : List (String × String)) :
    List (Option (List Char)) → List (String × String)
  | [] | none :: _ => set
  | some [] :: rest => addEntries env set rest
  | some entry :: rest =>
    let look := fun name => (env name <|> Keyed.get? name set).getD ""
    match assignment? look entry with
    | none => set
    | some (name, v) =>
      addEntries env
        (if (Keyed.get? name set).isSome then set else Keyed.insert name v set) rest

/-- The text without the mark that tells the order of its bytes. -/
def withoutMark (s : List Char) : List Char :=
  if s.head? = some '\uFEFF' then s.drop 1 else s

/-- The environment together with the variables of a file. -/
def extend (env : Environment) (contents : String) : Environment :=
  let set := addEntries env [] (entries [] .nothing (lines (withoutMark contents.toList)))
  fun name => env name <|> Keyed.get? name set

end MarketQuery.EnvFile
