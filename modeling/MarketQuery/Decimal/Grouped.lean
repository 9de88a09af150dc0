/-!
Thousands separators. A comma stands before every third digit from the right of the integer part;
the fraction is left as it is.
-/
namespace MarketQuery.Decimal

def groupInteger : List Char → List Char
  | [] => []
  | [c] => [c]
  | c :: rest => c :: (if rest.length % 3 = 0 then ',' :: groupInteger rest else groupInteger rest)

/-- The integer part ends at the first point. -/
def groupThousands (s : List Char) : List Char :=
  groupInteger (s.takeWhile (· != '.')) ++ s.dropWhile (· != '.')

end MarketQuery.Decimal
