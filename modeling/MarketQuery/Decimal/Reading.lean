import MarketQuery.Decimal.Numeral

/-!
Reading a float from decimal text. The value is the float nearest to the written number; a number
beyond the largest float reads as an infinity.
-/
namespace MarketQuery.Decimal

/-- An unsigned decimal: digits, digits after a point, and a power of ten. -/
structure Spelled where
  whole : List Char
  fraction : List Char
  exponent : Int

/-- The float nearest to `mantissa · 10 ^ exponent`. Far outside the range the power is not
computed. -/
def nearest (mantissa : Nat) (exponent : Int) : Float :=
  let size := (digits mantissa).length + exponent
  if mantissa = 0 ∨ size < -400 then 0.0
  else if 400 < size then Float.ofScientific 1 false 400
  else if exponent < 0 then Float.ofScientific mantissa true exponent.natAbs
  else Float.ofScientific mantissa false exponent.natAbs

def Spelled.toFloat (s : Spelled) : Float :=
  nearest (value (s.whole ++ s.fraction)) (s.exponent - s.fraction.length)

/-- The power of ten after the mantissa: nothing, or `e`, an optional sign and digits. -/
def exponent? : List Char → Option Int
  | [] => some 0
  | c :: rest =>
    if c = 'e' ∨ c = 'E' then
      match rest with
      | '-' :: ds => (natural? ds).map fun n => -(n : Int)
      | '+' :: ds => (natural? ds).map fun n => (n : Int)
      | ds => (natural? ds).map fun n => (n : Int)
    else none

/-- An unsigned decimal with a digit on at least one side of an optional point. -/
def unsigned? (s : List Char) : Option Spelled :=
  let whole := s.takeWhile Char.isDigit
  let (fraction, rest) := match s.dropWhile Char.isDigit with
    | '.' :: after => (after.takeWhile Char.isDigit, after.dropWhile Char.isDigit)
    | after => ([], after)
  if whole = [] ∧ fraction = [] then none
  else (exponent? rest).map fun e => ⟨whole, fraction, e⟩

/-- The words for what is no finite number, in any letter case. -/
def unsignedFloat? (s : List Char) : Option Float :=
  match String.ofList (s.map Char.toLower) with
  | "nan" => some (0.0 / 0.0)
  | "inf" | "infinity" => some (1.0 / 0.0)
  | _ => (unsigned? s).map Spelled.toFloat

/-- A float with an optional sign. -/
def float? (s : List Char) : Option Float :=
  match s with
  | '-' :: rest => (unsignedFloat? rest).map fun x => -x
  | '+' :: rest => unsignedFloat? rest
  | _ => unsignedFloat? s

end MarketQuery.Decimal
