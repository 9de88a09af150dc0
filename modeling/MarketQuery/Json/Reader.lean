import MarketQuery.Json.Document

/-!
Reading JSON text, one character at a time. The reader's state is a stack of open arrays and
objects and a mode that says what may come next; `step` takes one character, and the whole reader
is a fold of `step` over the text. White space is the four characters of the grammar.
-/
namespace MarketQuery.Reader

/-- An open array or object, its parts so far in reverse order. An object also has the key whose
value is being read. -/
inductive Frame where
  | array (items : List Document)
  | object (members : List (List Char × Document)) (key : List Char)

/-- Where a string stands with respect to escapes. -/
inductive Escape where
  | none
  | backslash
  | hex (left : Nat)

/-- How much of a number has been read. -/
inductive NumberPart where
  | minus
  | zero
  | whole
  | point
  | fraction
  | mark
  | markSign
  | exponent

inductive Mode where
  | value
  | firstItem
  | firstMember
  | key
  | colon
  | string (isKey : Bool) (escape : Escape) (spelling : List Char)
  | number (part : NumberPart) (literal : List Char)
  | word (rest : List Char) (meaning : Document)
  | after
  | done (result : Document)

structure State where
  stack : List Frame
  mode : Mode

def start : State := ⟨[], .value⟩

def isSpace (c : Char) : Bool :=
  c == ' ' || c == '\t' || c == '\n' || c == '\r'

/-- A value is complete: it joins the innermost open container, or it is the whole text. -/
def complete (doc : Document) : List Frame → State
  | [] => ⟨[], .done doc⟩
  | .array items :: rest => ⟨.array (doc :: items) :: rest, .after⟩
  | .object members key :: rest => ⟨.object ((key, doc) :: members) [] :: rest, .after⟩

/-- The first character of a value. -/
def beginValue (stack : List Frame) (c : Char) : Option State :=
  match c with
  | '{' => some ⟨.object [] [] :: stack, .firstMember⟩
  | '[' => some ⟨.array [] :: stack, .firstItem⟩
  | '"' => some ⟨stack, .string false .none []⟩
  | 't' => some ⟨stack, .word "rue".toList (.bool true)⟩
  | 'f' => some ⟨stack, .word "alse".toList (.bool false)⟩
  | 'n' => some ⟨stack, .word "ull".toList .null⟩
  | '-' => some ⟨stack, .number .minus [c]⟩
  | '0' => some ⟨stack, .number .zero [c]⟩
  | _ => if c.isDigit then some ⟨stack, .number .whole [c]⟩ else none

/-- The character after an item or a member, which is no white space. -/
def afterValue (stack : List Frame) (c : Char) : Option State :=
  match stack, c with
  | .array _ :: _, ',' => some ⟨stack, .value⟩
  | .array items :: rest, ']' => some (complete (.array items.reverse) rest)
  | .object _ _ :: _, ',' => some ⟨stack, .key⟩
  | .object members _ :: rest, '}' => some (complete (.object members.reverse) rest)
  | _, _ => none

/-- A character after a complete value. -/
def settled (s : State) (c : Char) : Option State :=
  if isSpace c then some s
  else match s.mode with
    | .after => afterValue s.stack c
    | _ => none

def NumberPart.next? (part : NumberPart) (c : Char) : Option NumberPart :=
  let isMark := c == 'e' || c == 'E'
  match part with
  | minus => if c == '0' then some zero else if c.isDigit then some whole else none
  | zero => if c == '.' then some point else if isMark then some mark else none
  | whole =>
    if c.isDigit then some whole else if c == '.' then some point
    else if isMark then some mark else none
  | point => if c.isDigit then some fraction else none
  | fraction => if c.isDigit then some fraction else if isMark then some mark else none
  | mark =>
    if c.isDigit then some exponent else if c == '+' || c == '-' then some markSign else none
  | markSign => if c.isDigit then some exponent else none
  | exponent => if c.isDigit then some exponent else none

/-- A number may end here. -/
def NumberPart.mayEnd : NumberPart → Bool
  | zero | whole | fraction | exponent => true
  | _ => false

/-- A character inside a string. The spelling is kept as it is, in reverse order. -/
def inString (stack : List Frame) (isKey : Bool) (escape : Escape) (spelling : List Char)
    (c : Char) : Option State :=
  let stay (e : Escape) : Option State := some ⟨stack, .string isKey e (c :: spelling)⟩
  match escape with
  | .none =>
    if c = '"' then
      match isKey, stack with
      | true, .object members _ :: rest => some ⟨.object members spelling.reverse :: rest, .colon⟩
      | true, _ => none
      | false, _ => some (complete (.string spelling.reverse) stack)
    else if c = '\\' then stay .backslash
    else if c.toNat < 0x20 then none
    else stay .none
  | .backslash =>
    if c = 'u' then stay (.hex 4)
    else if (Spelling.shortEscape? c).isSome then stay .none
    else none
  | .hex left =>
    if (Text.hexValue? c).isSome then
      if left ≤ 1 then stay .none else stay (.hex (left - 1))
    else none

def step (s : State) (c : Char) : Option State :=
  match s.mode with
  | .value => if isSpace c then some s else beginValue s.stack c
  | .firstItem =>
    if isSpace c then some s
    else if c = ']' then afterValue s.stack c
    else beginValue s.stack c
  | .firstMember =>
    if isSpace c then some s
    else if c = '}' then afterValue s.stack c
    else if c = '"' then some ⟨s.stack, .string true .none []⟩
    else none
  | .key =>
    if isSpace c then some s
    else if c = '"' then some ⟨s.stack, .string true .none []⟩
    else none
  | .colon => if isSpace c then some s else if c = ':' then some ⟨s.stack, .value⟩ else none
  | .string isKey escape spelling => inString s.stack isKey escape spelling c
  | .number part literal =>
    match part.next? c with
    | some part => some ⟨s.stack, .number part (c :: literal)⟩
    | none =>
      if part.mayEnd then settled (complete (.number literal.reverse) s.stack) c else none
  | .word rest meaning =>
    match rest with
    | [] => none
    | d :: rest =>
      if c = d then
        match rest with
        | [] => some (complete meaning s.stack)
        | _ => some ⟨s.stack, .word rest meaning⟩
      else none
  | .after => settled s c
  | .done _ => settled s c

/-- The document of a text that ends in this state. -/
def finish (s : State) : Option Document :=
  match s.mode, s.stack with
  | .done doc, _ => some doc
  | .number part literal, [] => if part.mayEnd then some (.number literal.reverse) else none
  | _, _ => none

def run (s : State) : List Char → Option State
  | [] => some s
  | c :: rest =>
    match step s c with
    | none => none
    | some next => run next rest

/-- The document that a text spells, with white space around it. -/
def document? (text : List Char) : Option Document :=
  (run start text).bind finish

end MarketQuery.Reader

namespace MarketQuery.Json

/-- The value that a JSON text denotes. -/
def parse? (text : List Char) : Option Json :=
  (Reader.document? text).bind Document.value?

/-- The members of the object that a JSON text denotes. -/
def parseObject? (text : List Char) : Option Fields :=
  (parse? text).bind fields?

end MarketQuery.Json
