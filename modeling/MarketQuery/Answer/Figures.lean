import MarketQuery.Decimal.Fixed
import MarketQuery.Decimal.Grouped

/-!
Figures in an answer. Each kind of figure has its precision: three decimals for a plain number, two
for a percentage, four for a reserve, six for a spot price; dollars have two decimals from $1,000
up, four from $1 up, and six below.
-/
namespace MarketQuery.Figures

open Decimal

def number (x : Float) : String :=
  String.ofList (fixed 3 x)

def dollarPlaces (b : Binary) : Nat :=
  if b.atLeast 1000 then 2 else if b.atLeast 1 then 4 else 6

def dollarDigits (b : Binary) : List Char :=
  if b.atLeast 1000 then groupThousands (magnitude (dollarPlaces b) b)
  else magnitude (dollarPlaces b) b

def usd (x : Float) : String :=
  let b := ofFloat x
  String.ofList ((if b.isNegative then ['-'] else []) ++ '$' :: dollarDigits b)

def percent (x : Float) : String :=
  String.ofList (fixed 2 x ++ ['%'])

def signedPercent (x : Float) : String :=
  String.ofList (fixedSigned 2 x ++ ['%'])

def reserve (x : Float) : String :=
  let b := ofFloat x
  String.ofList ((if b.isNegative then ['-'] else []) ++ groupThousands (magnitude 4 b))

def spot (x : Float) : String :=
  String.ofList (fixed 6 x)

/-- A long identifier of ASCII characters is shown by its two ends. -/
def shortId (id : String) : String :=
  let s := id.toList
  if 16 < s.length ∧ s.all (fun c => c.toNat < 128) then
    String.ofList (s.take 6 ++ "...".toList ++ s.drop (s.length - 4))
  else id

end MarketQuery.Figures
