/-!
Punycode, the spelling of a label in ASCII. The ASCII characters come first, then the others in the
order of their code points, each as the distance from the one before. A distance is a numeral of
base 36 whose places have thresholds that adapt to the distances so far.
-/
namespace MarketQuery.Punycode

def digitChar (d : Nat) : Char :=
  if d < 26 then Char.ofNat ('a'.toNat + d) else Char.ofNat ('0'.toNat + d - 26)

def digitValue? (c : Char) : Option Nat :=
  if 'a' ≤ c ∧ c ≤ 'z' then some (c.toNat - 'a'.toNat)
  else if 'A' ≤ c ∧ c ≤ 'Z' then some (c.toNat - 'A'.toNat)
  else if '0' ≤ c ∧ c ≤ '9' then some (c.toNat - '0'.toNat + 26)
  else none

/-- The threshold at a place, which is a multiple of 36. -/
def threshold (bias place : Nat) : Nat :=
  max 1 (min 26 (place - bias))

/-- The bias of a distance that has been scaled down. -/
def settle (delta place : Nat) : Nat :=
  if 455 < delta then settle (delta / 35) (place + 36) else place + 36 * delta / (delta + 38)
termination_by delta
decreasing_by omega

/-- The bias after a distance; `count` characters have been placed. -/
def adapt (delta count : Nat) (first : Bool) : Nat :=
  let delta := if first then delta / 700 else delta / 2
  settle (delta + delta / count) 0

/-- The numeral of a distance. -/
def numeral (bias place n : Nat) : List Char :=
  let t := threshold bias place
  if n < t then [digitChar n]
  else digitChar (t + (n - t) % (36 - t)) :: numeral bias (place + 36) ((n - t) / (36 - t))
termination_by n
decreasing_by
  have ht : 1 ≤ threshold bias place := by simp only [threshold]; omega
  have := Nat.div_le_self (n - threshold bias place) (36 - threshold bias place)
  omega

structure Writer where
  /-- Characters placed so far, the ASCII ones included. -/
  placed : Nat
  delta : Nat
  bias : Nat
  /-- No numeral has been written yet. -/
  first : Bool
  written : List Char

/-- Passes a character of the label while the code point `n` is placed. -/
def Writer.pass (n : Nat) (w : Writer) (c : Char) : Writer :=
  if c.toNat < n then { w with delta := w.delta + 1 }
  else if c.toNat = n then
    { placed := w.placed + 1, delta := 0, bias := adapt w.delta (w.placed + 1) w.first,
      first := false, written := w.written ++ numeral w.bias 36 w.delta }
  else w

/-- Places the code points that are left, in ascending order; `n` is the least one possible. -/
def Writer.place (label : List Char) (w : Writer) (n : Nat) : List Nat → Writer
  | [] => w
  | point :: rest =>
    let reached := { w with delta := w.delta + (point - n) * (w.placed + 1) }
    let passed := label.foldl (Writer.pass point) reached
    Writer.place label { passed with delta := passed.delta + 1 } (point + 1) rest

def isAscii (c : Char) : Bool := c.toNat < 0x80

/-- The code points of a label outside ASCII, ascending. -/
def points (label : List Char) : List Nat :=
  ((label.filter fun c => !isAscii c).map Char.toNat).mergeSort.eraseDups

/-- The spelling of a label that has a character outside ASCII. -/
def encode (label : List Char) : List Char :=
  let basic := label.filter isAscii
  let start : Writer := ⟨basic.length, 0, 72, true, []⟩
  basic ++ (if basic.isEmpty then [] else ['-']) ++ (start.place label 0x80 (points label)).written

/-- Distances and the weights of their digits have 32 bits. -/
def isWord (n : Nat) : Bool := n < 4294967296

/-- Adds the distance that a numeral denotes to `sum`, and gives the text after the numeral. -/
def readNumeral? (bias place weight sum : Nat) : List Char → Option (Nat × List Char)
  | [] => none
  | c :: rest => do
    let d ← digitValue? c
    let t := threshold bias place
    let sum := sum + d * weight
    if !isWord sum then none
    else if d < t then some (sum, rest)
    else if isWord (weight * (36 - t)) then
      readNumeral? bias (place + 36) (weight * (36 - t)) sum rest
    else none

theorem length_of_readNumeral? {bias place weight sum n : Nat} {s rest : List Char}
    (h : readNumeral? bias place weight sum s = some (n, rest)) : rest.length < s.length := by
  induction s generalizing place weight sum with
  | nil => simp [readNumeral?] at h
  | cons c tail ih =>
    simp only [readNumeral?, Option.bind_eq_bind, Option.bind_eq_some_iff] at h
    obtain ⟨d, _, h⟩ := h
    split at h
    · simp at h
    · split at h
      · simp only [Option.some.injEq, Prod.mk.injEq] at h
        simp [h.2]
      · split at h
        · have := ih h
          simp only [List.length_cons]
          omega
        · simp at h

/-- Inserts the characters that the numerals place; `i` is where the last distance led. -/
def insertPoints? (label : List Char) (n i bias : Nat) (first : Bool) (s : List Char) :
    Option (List Char) :=
  if s.isEmpty then some label
  else
    match _read : readNumeral? bias 36 1 i s with
    | none => none
    | some (reached, rest) =>
      let size := label.length + 1
      let point := n + reached / size
      let position := reached % size
      if point.isValidChar then
        insertPoints? (label.insertIdx position (Char.ofNat point)) point (position + 1)
          (adapt (reached - i) size first) false rest
      else none
termination_by s.length
decreasing_by exact length_of_readNumeral? _read

/-- The label of a spelling. The last hyphen parts the ASCII characters from the numerals; it is not
written if there are none. -/
def decode? (s : List Char) : Option (List Char) :=
  let parts := s.reverse.span (· ≠ '-')
  let basic := (parts.2.drop 1).reverse
  if !s.all isAscii || (basic.isEmpty && !parts.2.isEmpty) then none
  else insertPoints? basic 0x80 0 72 true parts.1.reverse

end MarketQuery.Punycode
