import MarketQuery.Json.Reader
import MarketQuery.Text.Blank
import MarketQuery.Text.Bytes
import MarketQuery.Text.Search

/-!
A JSON object inside free text. The whole text is tried first, then each fenced block, then each
group in braces; the first that is a JSON object is taken.
-/
namespace MarketQuery

def fence : List Char := "```".toList

/-- The text after an opening fence, without the rest of its line. A line with a brace stays: the
object starts on it. -/
def fencedBody (afterFence : List Char) : List Char :=
  match Text.cutAt ['\n'] afterFence with
  | some (info, body) => if info.contains '{' then afterFence else body
  | none => afterFence

theorem length_fencedBody_le (s : List Char) : (fencedBody s).length ≤ s.length := by
  unfold fencedBody
  split
  · next info body h =>
    split
    · exact Nat.le_refl _
    · have := Text.length_after_cutAt h
      omega
  · exact Nat.le_refl _

/-- The contents of the fenced blocks. A fence that is never closed holds nothing. -/
def fencedBlocks (s : List Char) : List (List Char) :=
  match _opened : Text.cutAt fence s with
  | none => []
  | some (_, after) =>
    match _closed : Text.cutAt fence (fencedBody after) with
    | none => []
    | some (block, rest) => block :: fencedBlocks rest
termination_by s.length
decreasing_by
  have h₁ := Text.length_after_cutAt _opened
  have h₂ := Text.length_after_cutAt _closed
  have h₃ := length_fencedBody_le after
  have h₄ : fence.length = 3 := rfl
  omega

namespace BraceScan

/-- Where the scan stands in the group that is open. -/
inductive Mode where
  | plain
  | inString
  | escaped
  deriving DecidableEq

/-- The scan counts open braces. It holds the offset that it has reached, the offset at which the
open group starts and the stretches of the closed groups, the last of them first. Quotes count only
inside a group. -/
structure State where
  depth : Nat
  mode : Mode
  opened : Option Nat
  offset : Nat
  found : List Text.Span

def start : State := ⟨0, .plain, none, 0, []⟩

def State.openBrace (s : State) : State :=
  { s with depth := s.depth + 1, opened := if s.depth = 0 then some s.offset else s.opened }

/-- The last of the open braces that is closed ends the group. -/
def State.closeBrace (s : State) : State :=
  if s.depth = 1 then
    { s with
      depth := 0
      opened := none
      found := (s.opened.map fun first => ⟨first, s.offset + 1⟩).toList ++ s.found }
  else { s with depth := s.depth - 1 }

def State.take (s : State) (c : Char) : State :=
  match s.mode with
  | .escaped => { s with mode := .inString }
  | .inString =>
    if c = '\\' then { s with mode := .escaped }
    else if c = '"' then { s with mode := .plain }
    else s
  | .plain =>
    if c = '{' then s.openBrace
    else if s.depth = 0 then s
    else if c = '"' then { s with mode := .inString }
    else if c = '}' then s.closeBrace
    else s

def step (s : State) (c : Char) : State :=
  { s.take c with offset := s.offset + c.utf8Size }

def run (s : State) (text : List Char) : State :=
  text.foldl step s

end BraceScan

/-- The stretches of the closed groups in braces that lie in no other such group. -/
def braceSpans (text : List Char) : List Text.Span :=
  (BraceScan.run BraceScan.start text).found.reverse

/-- The closed groups in braces that lie in no other such group. -/
def braceObjects (text : List Char) : List (List Char) :=
  (braceSpans text).filterMap (·.slice? text)

/-- The JSON object that a text holds. -/
def extractObject? (text : String) : Option Fields :=
  let whole := Text.trim text.toList
  (Json.parseObject? whole).or
    (((fencedBlocks whole).findSome? fun block => Json.parseObject? (Text.trim block)).or
      ((braceObjects whole).findSome? Json.parseObject?))

end MarketQuery
