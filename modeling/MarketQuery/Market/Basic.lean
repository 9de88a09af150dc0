import MarketQuery.Http.Exchange
import MarketQuery.Json.Value

/-!
Market data: prices, pools, and the questions a source of market data answers. A source may keep a
state of its own, such as a cache.
-/
namespace MarketQuery

structure TokenPrice where
  /-- Dollars. -/
  current : Float
  previous : Float
  /-- Milliseconds since the epoch. -/
  lastUpdated : Int
  /-- Percent. -/
  change24h : Float

structure Pool where
  id : String
  /-- Asset identifiers, aligned with the reserves. -/
  tokens : List String
  reserves : List Float
  /-- Percent. -/
  fee : Float
  /-- Dollars. Pools are ranked by this figure and the next, and the order of a ranking tells apart
  words that a `Float` does not. -/
  tvl : Decimal.Double
  /-- Percent. -/
  apr : Decimal.Double

inductive MarketError where
  | http (failure : Http.Failure)
  | status (code : Nat) (body : String)
  | notFound (what : String)
  | decode (reason : String)

def MarketError.message : MarketError → String
  | http failure => "HTTP error: " ++ failure.message
  | status code body => "Backend returned " ++ Decimal.natText code ++ ": " ++ body
  | notFound what => "Not found: " ++ what
  | decode reason => "Failed to decode response: " ++ reason

/-- A question to a source with state `σ`. -/
abbrev Asking (σ : Type) := ExceptT MarketError (StateM σ)

structure Provider (σ : Type) where
  name : String
  tokenPrice : String → Asking σ TokenPrice
  /-- No pool is an answer too. -/
  pool : String → Asking σ (Option Pool)
  allPools : Asking σ (List Pool)
  /-- The pool, the coin sold, the coin bought, and whether the price includes the fee. -/
  spotPrice : String → String → String → Bool → Asking σ Float

def TokenPrice.json (p : TokenPrice) : Json :=
  .object [("current", .ofFloat p.current), ("lastUpdated", .ofInt p.lastUpdated),
    ("previous", .ofFloat p.previous), ("priceChange24h", .ofFloat p.change24h)]

def Pool.json (p : Pool) : Json :=
  .object [("apr", .ofFloat p.apr), ("fee", .ofFloat p.fee), ("id", .string p.id),
    ("reserves", .array (p.reserves.map .ofFloat)), ("tokens", .ofStrings p.tokens),
    ("tvl", .ofFloat p.tvl)]

end MarketQuery
