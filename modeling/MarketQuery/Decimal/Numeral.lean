/-!
Decimal numerals: the digits of a natural number, and reading whole numbers from text. Only the
ASCII digits count. A read number may be held against a bound.
-/
namespace MarketQuery.Decimal

/-- Words of 64 bits are the natural numbers below this one. -/
def wordLimit : Nat := 0x10000000000000000

/-- Integers of 64 bits with a sign lie below this number, and not below its opposite. -/
def signedLimit : Nat := 0x8000000000000000

def digits (n : Nat) : List Char :=
  Nat.toDigits 10 n

def digitValue (c : Char) : Nat :=
  c.toNat - '0'.toNat

def natText (n : Nat) : String :=
  String.ofList (digits n)

/-- The number that a run of digits denotes. -/
def value (s : List Char) : Nat :=
  s.foldl (fun n c => 10 * n + digitValue c) 0

theorem value_digits (n : Nat) : value (digits n) = n :=
  Nat.ofDigitChars_toDigits (by decide) (by decide)

/-- A non-empty run of digits. -/
def natural? (s : List Char) : Option Nat :=
  if s ≠ [] ∧ s.all Char.isDigit then some (value s) else none

/-- A natural number below `bound`, with an optional plus sign. -/
def naturalBelow? (bound : Nat) (s : List Char) : Option Nat :=
  let body := match s with
    | '+' :: rest => rest
    | _ => s
  (natural? body).filter (· < bound)

/-- An integer of `bits` bits in two's complement, with an optional sign. -/
def integerOfBits? (bits : Nat) (s : List Char) : Option Int :=
  let read := match s with
    | '-' :: rest => (natural? rest).map fun n => -(n : Int)
    | '+' :: rest => (natural? rest).map fun n => (n : Int)
    | _ => (natural? s).map fun n => (n : Int)
  let limit : Int := Nat.pow 2 (bits - 1)
  read.filter fun i => decide (-limit ≤ i ∧ i < limit)

end MarketQuery.Decimal
