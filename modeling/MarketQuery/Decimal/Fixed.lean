import MarketQuery.Decimal.Binary
import MarketQuery.Decimal.Numeral

/-!
A float written with a fixed number of decimal places. The exact value is rounded once, to the
nearest number with so many places, and a half goes to the even neighbour.
-/
namespace MarketQuery.Decimal

/-- The integer nearest to `num / den`; of two equally near ones the even one. -/
def roundHalfEven (num den : Nat) : Nat :=
  let quotient := num / den
  let twice := 2 * (num % den)
  if twice < den then quotient
  else if den < twice then quotient + 1
  else if quotient % 2 = 0 then quotient else quotient + 1

/-- The digits of `n` with a point before the last `places` of them. -/
def withPoint (places n : Nat) : List Char :=
  let ds := digits n
  let padded := List.replicate (places + 1 - ds.length) '0' ++ ds
  padded.take (padded.length - places) ++ '.' :: padded.drop (padded.length - places)

/-- A finite number as an integral count of its last decimal place, without its sign. -/
def scaled (places m : Nat) (q : Int) : Nat :=
  let (num, den) := Binary.ratio m q
  roundHalfEven (num * Nat.pow 10 places) den

/-- The text of a number's distance from zero. -/
def magnitude (places : Nat) : Binary → List Char
  | .nan .. => "NaN".toList
  | .infinite _ => "inf".toList
  | .finite _ m q => withPoint places (scaled places m q)

/-- The sign bit shows, also that of a zero. -/
def signMark (plus : Bool) : Binary → List Char
  | .nan .. => []
  | .infinite negative => if negative then ['-'] else if plus then ['+'] else []
  | .finite negative _ _ => if negative then ['-'] else if plus then ['+'] else []

def fixed (places : Nat) (x : Float) : List Char :=
  signMark false (ofFloat x) ++ magnitude places (ofFloat x)

/-- As `fixed`, with a plus sign before a number that has no minus sign. -/
def fixedSigned (places : Nat) (x : Float) : List Char :=
  signMark true (ofFloat x) ++ magnitude places (ofFloat x)

end MarketQuery.Decimal
