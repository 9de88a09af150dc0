import MarketQuery.Decimal.Shortest

/-!
How the shortest digits of a float are laid out. Numbers of middling size are written plainly,
always with a point; the others in scientific notation.
-/
namespace MarketQuery.Decimal

structure Layout where
  /-- The least and the greatest exponent of the leading digit that are written plainly. -/
  least : Int
  greatest : Int
  /-- A positive exponent in scientific notation has a sign. -/
  exponentPlus : Bool
  tie : Tie

/-- Numbers in data and in messages: plain from `0.00001` to `1000000000000000.0`. -/
def Layout.data : Layout := ⟨-5, 15, true, .toEven⟩

/-- Numbers of single precision in data: plain from `0.000001` to below `1e13`. -/
def Layout.single : Layout := ⟨-6, 12, true, .toEven⟩

/-- Numbers inside a quoted argument: plain from `0.0001` to below `1e16`. -/
def Layout.argument : Layout := ⟨-4, 15, false, .up⟩

def plain (d : Digits) : List Char :=
  if d.lead < 0 then
    "0.".toList ++ List.replicate (-d.lead - 1).toNat '0' ++ d.digits
  else
    let whole := d.lead.toNat + 1
    if d.digits.length ≤ whole then
      d.digits ++ List.replicate (whole - d.digits.length) '0' ++ ".0".toList
    else d.digits.take whole ++ '.' :: d.digits.drop whole

def scientific (plus : Bool) (d : Digits) : List Char :=
  let mantissa := match d.digits with
    | [] => []
    | [c] => [c]
    | c :: rest => c :: '.' :: rest
  let sign := if d.lead < 0 then ['-'] else if plus then ['+'] else []
  mantissa ++ 'e' :: sign ++ digits d.lead.natAbs

def Layout.digitsText (l : Layout) (d : Digits) : List Char :=
  if l.least ≤ d.lead ∧ d.lead ≤ l.greatest then plain d else scientific l.exponentPlus d

def Layout.text (l : Layout) (p : Precision) : Binary → List Char
  | .nan .. => "NaN".toList
  | .infinite negative => (if negative then "-inf" else "inf").toList
  | .finite negative m q =>
    (if negative then ['-'] else []) ++
      if m = 0 then "0.0".toList else l.digitsText (shortest p l.tie m q)

/-- The text of a float in data and messages. -/
def dataText (x : Float) : List Char :=
  Layout.data.text .double (ofFloat x)

def dataTextSingle (x : Float32) : List Char :=
  Layout.single.text .single (ofSingle x)

/-- The text of a float inside a quoted argument. -/
def argumentText (x : Float) : List Char :=
  Layout.argument.text .double (ofFloat x)

end MarketQuery.Decimal
