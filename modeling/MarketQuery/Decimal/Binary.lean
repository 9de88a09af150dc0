import MarketQuery.Decimal.Numeral

/-!
Floats as exact binary numbers. A finite float is `±mantissa · 2 ^ exponent`; the words of both
widths are split by the same rule, which only depends on how many bits the two fields have. What is
not a number has a sign and a payload in its word. A `Float` does not keep them, and a `Double` does.
-/
namespace MarketQuery.Decimal

inductive Binary where
  | nan (negative : Bool) (payload : Nat)
  | infinite (negative : Bool)
  | finite (negative : Bool) (mantissa : Nat) (exponent : Int)
  deriving DecidableEq, Repr

/-- The widths of the fraction and of the biased exponent in a float's word. -/
structure Precision where
  fractionBits : Nat
  exponentBits : Nat

def Precision.double : Precision := ⟨52, 11⟩
def Precision.single : Precision := ⟨23, 8⟩

def Precision.bias (p : Precision) : Nat :=
  Nat.pow 2 (p.exponentBits - 1) - 1

/-- The exponent of the smallest positive float. -/
def Precision.leastExponent (p : Precision) : Int :=
  1 - p.bias - p.fractionBits

def Precision.decode (p : Precision) (word : Nat) : Binary :=
  let fraction := word % Nat.pow 2 p.fractionBits
  let field := word / Nat.pow 2 p.fractionBits % Nat.pow 2 p.exponentBits
  let negative := word / Nat.pow 2 (p.fractionBits + p.exponentBits) % 2 == 1
  if field = Nat.pow 2 p.exponentBits - 1 then
    if fraction = 0 then .infinite negative else .nan negative fraction
  else if field = 0 then .finite negative fraction p.leastExponent
  else .finite negative (Nat.pow 2 p.fractionBits + fraction) (field - p.bias - p.fractionBits)

def ofFloat (x : Float) : Binary :=
  Precision.double.decode x.toBits.toNat

def ofSingle (x : Float32) : Binary :=
  Precision.single.decode x.toBits.toNat

namespace Binary

def isNegative : Binary → Bool
  | nan .. => false
  | infinite negative => negative
  | finite negative m _ => negative && m != 0

/-- A finite number as a fraction of natural numbers, without its sign. -/
def ratio (m : Nat) (q : Int) : Nat × Nat :=
  if 0 ≤ q then (m * Nat.pow 2 q.toNat, 1) else (m, Nat.pow 2 (-q).toNat)

/-- The distance from zero is at least `n`. No distance is known of what is not a number. -/
def atLeast (n : Nat) : Binary → Bool
  | nan .. => false
  | infinite _ => true
  | finite _ m q => let (num, den) := ratio m q; n * den ≤ num

/-- The integer that a finite number is, if it is one. -/
def integer? : Binary → Option Int
  | finite negative m q =>
    let (num, den) := ratio m q
    if num % den = 0 then
      some (if negative then -((num / den : Nat) : Int) else ((num / den : Nat) : Int))
    else none
  | _ => none

end Binary

/-- A float of double precision as its word. -/
structure Double where
  word : UInt64
  deriving DecidableEq, Repr

namespace Double

def ofFloat (x : Float) : Double := ⟨x.toBits⟩

instance : Coe Float Double := ⟨ofFloat⟩

instance : OfScientific Double :=
  ⟨fun mantissa negative exponent => ofFloat (.ofScientific mantissa negative exponent)⟩

def toFloat (x : Double) : Float := .ofBits x.word

instance : Coe Double Float := ⟨toFloat⟩

def binary (x : Double) : Binary := Precision.double.decode x.word.toNat

/-- Places all words in the total order on floats. -/
def orderKey (x : Double) : Int :=
  let word := x.word.toNat
  if word < signedLimit then word else signedLimit - 1 - (word : Int)

end Double

end MarketQuery.Decimal
