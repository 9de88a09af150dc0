import MarketQuery.Decimal.Binary
import MarketQuery.Decimal.Numeral

/-!
The shortest decimal that reads back as a given float. All reals between the two midpoints next to
a float round to it, the midpoints included when its mantissa is even. Among the decimals with the
fewest digits in that interval the nearest to the float is taken. The search walks from one digit
to seventeen, and on each grid only the two neighbours of the float can be the answer.
-/
namespace MarketQuery.Decimal

/-- Which of two equally near decimals is taken. -/
inductive Tie where
  | toEven
  | up
  deriving DecidableEq

/-- The interval of reals that round to a positive float, over a common denominator. -/
structure Interval where
  low : Nat
  mid : Nat
  high : Nat
  den : Nat
  closed : Bool

/-- The gap below a power of two is half as wide as the gap above it, save for the least one. -/
def interval (p : Precision) (m : Nat) (q : Int) : Interval :=
  let below := if m = Nat.pow 2 p.fractionBits && p.leastExponent < q then 1 else 2
  let factor := Nat.pow 2 (q - 2).toNat
  { low := (4 * m - below) * factor
    mid := 4 * m * factor
    high := (4 * m + 2) * factor
    den := Nat.pow 2 (2 - q).toNat
    closed := m % 2 = 0 }

/-- The interval measured in units of `10 ^ place`. -/
def Interval.inUnits (v : Interval) (place : Int) : Interval :=
  let factor := Nat.pow 10 (-place).toNat
  { v with
    low := v.low * factor
    mid := v.mid * factor
    high := v.high * factor
    den := v.den * Nat.pow 10 place.toNat }

def Interval.holds (v : Interval) (k : Nat) : Bool :=
  if v.closed then v.low ≤ k * v.den && k * v.den ≤ v.high
  else v.low < k * v.den && k * v.den < v.high

/-- The integer inside the interval that is nearest to its middle, of the middle's neighbours. -/
def Interval.nearest? (v : Interval) (tie : Tie) : Option Nat :=
  let k := v.mid / v.den
  match v.holds k, v.holds (k + 1) with
  | false, false => none
  | true, false => some k
  | false, true => some (k + 1)
  | true, true =>
    let twice := 2 * (v.mid % v.den)
    if twice < v.den then some k
    else if v.den < twice then some (k + 1)
    else match tie with
      | .up => some (k + 1)
      | .toEven => some (if k % 2 = 0 then k else k + 1)

/-- Counts how often `num` can grow tenfold and still stay below `den`. -/
def zerosAfterPoint (num den : Nat) : Nat → Nat
  | 0 => 0
  | fuel + 1 => if num * 10 < den then zerosAfterPoint (num * 10) den fuel + 1 else 0

/-- The exponent of the leading decimal digit of `num / den`. -/
def leadingExponent (num den : Nat) : Int :=
  if den ≤ num then (digits (num / den)).length - 1
  else -(zerosAfterPoint num den 400 + 1 : Nat)

/-- `digits` are the digits of a decimal, the first of them worth `10 ^ lead`. -/
structure Digits where
  digits : List Char
  lead : Int
  deriving DecidableEq, Repr

/-- The decimal `k · 10 ^ place` without zeros at its end. -/
def Digits.of (k : Nat) (place : Int) : Digits :=
  let ds := Decimal.digits k
  { digits := (ds.reverse.dropWhile (· == '0')).reverse
    lead := place + (ds.length - 1 : Nat) }

/-- The shortest digits of the positive number `m · 2 ^ q`. -/
def shortest (p : Precision) (tie : Tie) (m : Nat) (q : Int) : Digits :=
  let v := interval p m q
  let lead := leadingExponent v.mid v.den
  let found := (List.range 17).findSome? fun (n : Nat) =>
    let place := lead - n
    ((v.inUnits place).nearest? tie).map fun k => Digits.of k place
  found.getD (Digits.of m q)

end MarketQuery.Decimal
