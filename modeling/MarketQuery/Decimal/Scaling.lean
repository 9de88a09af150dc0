import MarketQuery.Decimal.Reading

/-!
Reading a float from the number literals of data. The digits are taken into a word of 64 bits, and
the float of the word is scaled by the power of ten. The float of the word, the power and the
scaling are rounded one after another, so what is read need not be the float nearest to the number.
-/
namespace MarketQuery.Decimal

/-- Takes digits into a word for as long as the word has 64 bits, and gives back the other digits. -/
def takeDigits (word : Nat) : List Char → Nat × List Char
  | [] => (word, [])
  | c :: rest =>
    let longer := 10 * word + digitValue c
    if longer < wordLimit then takeDigits longer rest else (word, c :: rest)

/-- A digit before the point that is not taken counts as a zero, and one after the point as
nothing. -/
def Spelled.parts (s : Spelled) : Nat × Int :=
  let (word, wholeRest) := takeDigits 0 s.whole
  let (significand, fractionRest) := takeDigits word s.fraction
  let places := s.fraction.length - fractionRest.length
  (significand, s.exponent + wholeRest.length - places)

def powerOfTen (n : Nat) : Float :=
  Float.ofScientific 1 false n

/-- Divides by `10 ^ 308` as often as it is told to, and then by `10 ^ last`. -/
def lower (last : Nat) : Nat → Float → Float
  | 0, x => x / powerOfTen last
  | times + 1, x => if x == 0.0 then x else lower last times (x / powerOfTen 308)

/-- The float of `significand · 10 ^ exponent`, unless the power is no float. -/
def scaled? (significand : Nat) (exponent : Int) : Option Float :=
  let x := Float.ofNat significand
  match exponent with
  | .ofNat n =>
    if n ≤ 308 then some (x * powerOfTen n) else if x == 0.0 then some x else none
  | .negSucc n => some (lower (n % 308 + 1) (n / 308) x)

/-- A number that comes out as an infinity is not read. -/
def Spelled.scaled? (s : Spelled) : Option Float :=
  (Decimal.scaled? s.parts.1 s.parts.2).filter Float.isFinite

end MarketQuery.Decimal
