import MarketQuery.Decimal.Numeral
import MarketQuery.Text.Blank
import MarketQuery.Text.Bytes
import MarketQuery.Text.Search

/-!
Paths into results, as they stand in the placeholders of an answer: a root word, then keys and
indexes, each after a point or in brackets. A path is read from left to right; where reading stops
early, what is left of the text says why and where.
-/
namespace MarketQuery

namespace Path

inductive Root where
  | result
  | results
  deriving DecidableEq

inductive Segment where
  | key (key : String)
  | index (n : Nat)
  deriving DecidableEq

/-- An index in decimal is a key too. -/
def Segment.asKey : Segment → String
  | key k => k
  | index n => Decimal.natText n

/-- A key that spells a number of 64 bits is an index too. -/
def Segment.asIndex? : Segment → Option Nat
  | key k => Decimal.naturalBelow? Decimal.wordLimit k.toList
  | index n => some n

inductive Error where
  | unknownRoot (word : String)
  | unexpected (found : Char) (offset : Nat)
  | unexpectedEnd
  deriving DecidableEq

def Error.message : Error → String
  | unknownRoot word => "unknown root '" ++ word ++ "'"
  | unexpected found offset =>
    "unexpected '" ++ String.ofList [found] ++ "' at offset " ++ Decimal.natText offset
  | unexpectedEnd => "unexpected end of expression"

/-- Where reading stopped: at a word that is no root, or before the rest of the text. -/
inductive Halt where
  | root (word : List Char)
  | before (rest : List Char)

def isWordChar (c : Char) : Bool :=
  c.isAlphanum || c == '_'

/-- A word as long as possible, and what follows it. -/
def word (s : List Char) : Except Halt (List Char × List Char) :=
  if s.takeWhile isWordChar = [] then .error (.before s)
  else .ok (s.takeWhile isWordChar, s.dropWhile isWordChar)

/-- The end of a segment in brackets. -/
def closeBracket (segment : Segment) (s : List Char) : Except Halt (Segment × List Char) :=
  match Text.trimStart s with
  | ']' :: rest => .ok (segment, rest)
  | rest => .error (.before rest)

/-- A segment in brackets, from behind the opening bracket. A quoted key ends at the next quote of
the same kind. -/
def bracketed (s : List Char) : Except Halt (Segment × List Char) :=
  match Text.trimStart s with
  | [] => .error (.before [])
  | c :: rest =>
    if c = '\'' ∨ c = '"' then
      match Text.cutAt [c] rest with
      | none => .error (.before [])
      | some (key, rest) => closeBracket (.key (String.ofList key)) rest
    else if c.isDigit then
      match Decimal.naturalBelow? Decimal.wordLimit ((c :: rest).takeWhile Char.isDigit) with
      | none => .error (.before (c :: rest))
      | some n => closeBracket (.index n) ((c :: rest).dropWhile Char.isDigit)
    else .error (.before (c :: rest))

theorem length_dropWhile_le {α : Type} (p : α → Bool) (l : List α) :
    (l.dropWhile p).length ≤ l.length :=
  (List.dropWhile_sublist p).length_le

theorem length_closeBracket {segment found : Segment} {s rest : List Char}
    (h : closeBracket segment s = .ok (found, rest)) : rest.length < s.length := by
  have hle := length_dropWhile_le Text.isBlank s
  unfold closeBracket at h
  split at h
  · next rest' hs =>
    simp only [Except.ok.injEq, Prod.mk.injEq] at h
    rw [← h.2]
    simp only [Text.trimStart] at hs
    rw [hs, List.length_cons] at hle
    omega
  · simp at h

theorem length_bracketed {s rest : List Char} {found : Segment}
    (h : bracketed s = .ok (found, rest)) : rest.length < s.length := by
  have hle := length_dropWhile_le Text.isBlank s
  unfold bracketed at h
  split at h
  · simp at h
  · next c tail hs =>
    simp only [Text.trimStart] at hs
    rw [hs, List.length_cons] at hle
    split at h
    · split at h
      · simp at h
      · next key after hcut =>
        have h₁ := Text.length_after_cutAt hcut
        have h₂ := length_closeBracket h
        omega
    · split at h
      · split at h
        · simp at h
        · have h₁ := length_closeBracket h
          have h₂ := length_dropWhile_le Char.isDigit (c :: tail)
          simp only [List.length_cons] at h₂
          omega
      · simp at h

theorem length_word {s w rest : List Char} (h : word s = .ok (w, rest)) :
    rest.length ≤ s.length := by
  unfold word at h
  split at h
  · simp at h
  · simp only [Except.ok.injEq, Prod.mk.injEq] at h
    rw [← h.2]
    exact length_dropWhile_le isWordChar s

/-- All segments up to the end of the text. -/
def readSegments (s : List Char) : Except Halt (List Segment) :=
  match s with
  | [] => .ok []
  | '.' :: rest =>
    match _named : word rest with
    | .error halt => .error halt
    | .ok (w, rest) => (readSegments rest).map (.key (String.ofList w) :: ·)
  | '[' :: rest =>
    match _closed : bracketed rest with
    | .error halt => .error halt
    | .ok (segment, rest) => (readSegments rest).map (segment :: ·)
  | rest => .error (.before rest)
termination_by s.length
decreasing_by
  · have := length_word _named
    simp only [List.length_cons]
    omega
  · have := length_bracketed _closed
    simp only [List.length_cons]
    omega

end Path

/-- A path into the results of a plan. -/
structure Path where
  root : Path.Root
  segments : List Path.Segment
  deriving DecidableEq

namespace Path

def root? (w : List Char) : Option Root :=
  if w = "result".toList then some .result
  else if w = "results".toList then some .results
  else none

/-- The path that a text without blanks at its ends spells. -/
def read (s : List Char) : Except Halt Path :=
  match word s with
  | .error halt => .error halt
  | .ok (w, rest) =>
    match root? w with
    | none => .error (.root w)
    | some root => (readSegments rest).map fun segments => ⟨root, segments⟩

/-- What stopped the reading of `s`. Offsets count bytes. -/
def Halt.error (s : List Char) : Halt → Error
  | root w => .unknownRoot (String.ofList w)
  | before [] => .unexpectedEnd
  | before (c :: rest) => .unexpected c (Text.byteLength s - Text.byteLength (c :: rest))

def parse (text : String) : Except Error Path :=
  let s := Text.trim text.toList
  match read s with
  | .ok path => .ok path
  | .error halt => .error (halt.error s)

end Path

end MarketQuery
