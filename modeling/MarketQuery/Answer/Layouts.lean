import MarketQuery.Answer.Figures
import MarketQuery.Json.Printer
import MarketQuery.Symbol.Table
import MarketQuery.Tool.Definition

/-!
Layouts for outputs of known shape. A layout reads the figures it needs from the output; where the
output lacks what the layout cannot do without, there is no layout.
-/
namespace MarketQuery.Layouts

def noData : String := "No data"
def noDataAvailable : String := "No data available"

def lines (items : List String) : String :=
  "\n".intercalate items

/-- The figure under a key. -/
def figure? (v : Json) (key : String) : Option Float :=
  (v.get? key).bind Json.float?

/-- One line: the label, the price, and the change if there is one. -/
def pricedAsset (label : String) (v : Json) : Option String :=
  (figure? v "current").map fun current =>
    match figure? v "priceChange24h" with
    | some change =>
      label ++ ": " ++ Figures.usd current ++ " (" ++ Figures.signedPercent change ++ ")"
    | none => label ++ ": " ++ Figures.usd current

/-- The line of one asset of a map. -/
def pricedAssetLine (t : SymbolTable) (entry : String × Json) : String :=
  let label := t.displayName entry.1
  (pricedAsset label entry.2).getD (label ++ ": " ++ entry.2.pretty)

/-- One line per asset, in the order of the identifiers. -/
def pricedAssetMap (t : SymbolTable) (v : Json) : Option String :=
  v.fields?.map fun fields =>
    if fields.isEmpty then noData else lines (fields.map (pricedAssetLine t))

/-- The display names of a pool's tokens. -/
def pairName (t : SymbolTable) (pool : Json) : String :=
  let names := ((pool.get? "tokens").bind Json.items?).map fun tokens =>
    "/".intercalate ((tokens.filterMap Json.string?).map t.displayName)
  match names with
  | some pair => if pair = "" then "?" else pair
  | none => "?"

def padRight (width : Nat) (s : String) : String :=
  String.ofList (s.toList ++ List.replicate (width - s.toList.length) ' ')

def padLeft (width : Nat) (s : String) : String :=
  String.ofList (List.replicate (width - s.toList.length) ' ' ++ s.toList)

def tableRow (name reserve : String) : String :=
  "  " ++ padRight 8 name ++ " " ++ padLeft 18 reserve

def tokenName (t : SymbolTable) (token : Json) : String :=
  match token.string? with
  | some id => t.displayName id
  | none => token.compact

/-- The rows of the tokens whose first one has the given index. -/
def tokenRows (t : SymbolTable) (reserves : List Json) : List Json → List String
  | [] => []
  | token :: rest =>
    let reserve := match reserves.head?.bind Json.float? with
      | some x => Figures.reserve x
      | none => "-"
    tableRow (tokenName t token) reserve :: tokenRows t reserves.tail rest

/-- A line for a figure that the pool has. -/
def figureLine (pool : Json) (label key : String) (text : Float → String) : List String :=
  match figure? pool key with
  | some x => ["  " ++ label ++ ": " ++ text x]
  | none => []

/-- A heading, the key figures, and a table of tokens and reserves. -/
def poolSnapshot (t : SymbolTable) (pool : Json) : Option String := do
  let id ← (pool.get? "id").bind Json.string?
  let tokens ← (pool.get? "tokens").bind Json.items?
  let reserves := ((pool.get? "reserves").bind Json.items?).getD []
  some (lines
    (["Pool " ++ pairName t pool ++ " (" ++ Figures.shortId id ++ ")"] ++
      figureLine pool "Fee" "fee" Figures.percent ++
      figureLine pool "TVL" "tvl" Figures.usd ++
      figureLine pool "APR" "apr" Figures.percent ++
      [tableRow "Token" "Reserve"] ++
      tokenRows t reserves tokens))

def figureOrDash (pool : Json) (key : String) (text : Float → String) : String :=
  match figure? pool key with
  | some x => text x
  | none => "-"

def rankedLine (t : SymbolTable) (rank : Nat) (pool : Json) : String :=
  Decimal.natText rank ++ ". " ++ pairName t pool ++
    "  TVL: " ++ figureOrDash pool "tvl" Figures.usd ++
    "  APR: " ++ figureOrDash pool "apr" Figures.percent ++
    "  Fee: " ++ figureOrDash pool "fee" Figures.percent

def rankedLines (t : SymbolTable) (rank : Nat) : List Json → List String
  | [] => []
  | pool :: rest => rankedLine t rank pool :: rankedLines t (rank + 1) rest

/-- One line per pool, ranks counted from one. -/
def poolList (t : SymbolTable) (v : Json) : Option String :=
  v.items?.map fun pools =>
    if pools.isEmpty then "No pools found" else lines (rankedLines t 1 pools)

/-- The name of a coin in a spot price, or the name of its parameter. -/
def coinName (t : SymbolTable) (input : Json) (key : String) : String :=
  match (input.get? key).bind Json.string? with
  | some id => t.displayName id
  | none => key

/-- A rate, with its coins named by the input of the call. -/
def spotPrice (t : SymbolTable) (input price : Json) : Option String :=
  price.float?.map fun x =>
    "1 " ++ coinName t input "coin_in" ++ " = " ++ Figures.spot x ++ " " ++
      coinName t input "coin_out" ++
      match (input.get? "with_fees").bind Json.bool? with
      | some false => " (before fees)"
      | _ => ""

end MarketQuery.Layouts
