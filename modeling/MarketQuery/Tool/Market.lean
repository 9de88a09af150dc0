import MarketQuery.Tool.Definition
import MarketQuery.Tool.Ranking

/-!
Tools that ask a source of market data. Asset references arrive as identifiers.
-/
namespace MarketQuery.MarketTool

variable {σ : Type}

def tokenPrice (source : Provider σ) : Tool σ where
  definition :=
    { name := "get_token_price"
      description := "Current USD price of one token, with its price 24h ago and the 24h change"
      parameters :=
        [{ name := "symbol", kind := .string, description := "Token symbol, e.g. SUI",
           required := true, assetReference := true }]
      output := .pricedAsset }
  invoke args := do
    let id ← Working.argument (args.string "symbol")
    let price ← Working.market (source.tokenPrice id)
    pure price.json

/-- The prices of the assets, by identifier. The first failure ends the work. -/
def prices (source : Provider σ) : List String → Fields → Asking σ Fields
  | [], known => pure known
  | id :: rest, known => do
    let price ← source.tokenPrice id
    prices source rest (Keyed.insert id price.json known)

def tokenPrices (source : Provider σ) : Tool σ where
  definition :=
    { name := "get_token_prices"
      description := "Current USD prices of several tokens at once"
      parameters :=
        [{ name := "symbols", kind := .stringList,
           description := "Token symbols, e.g. [\"SUI\", \"USDC\"]",
           required := true, assetReference := true }]
      output := .pricedAssetMap }
  invoke args := do
    let ids ← Working.argument (args.stringList "symbols")
    if ids.isEmpty then throw (.invalidArgument .noSymbols)
    else
      let known ← Working.market (prices source ids [])
      pure (.object known)

def poolInfo (source : Provider σ) : Tool σ where
  definition :=
    { name := "get_pool_info"
      description := "Tokens, reserves, fee, TVL and APR of a liquidity pool"
      parameters :=
        [{ name := "pool_id", kind := .string, description := "Pool object id", required := true }]
      output := .poolSnapshot }
  invoke args := do
    let id ← Working.argument (args.string "pool_id")
    match ← Working.market (source.pool id) with
    | some pool => pure pool.json
    | none => throw (.market (.notFound ("pool " ++ id)))

def allPools (source : Provider σ) : Tool σ where
  definition :=
    { name := "get_all_pools"
      description := "All liquidity pools tracked by the analytics backend"
      output := .poolList }
  invoke _ := do
    let pools ← Working.market source.allPools
    pure (.array (pools.map Pool.json))

def rankingLimit (args : Arguments) : Except ArgumentFault Nat :=
  match args.integer "limit" with
  | .ok limit => if limit < 1 then .error .limitBelowOne else .ok limit.toNat
  | .error fault => .error fault

def topPools (source : Provider σ) : Tool σ where
  definition :=
    { name := "get_top_pools"
      description := "Largest or highest-yielding pools, ranked in descending order"
      parameters :=
        [{ name := "limit", kind := .integer, description := "How many pools to return",
           required := false, default := some (.ofInt 5) },
         { name := "sort_by", kind := .string, description := "Ranking key: tvl or apr",
           required := false, default := some (.string "tvl") }]
      output := .poolList }
  invoke args := do
    let limit ← Working.argument (rankingLimit args)
    let name ← Working.argument (args.string "sort_by")
    let pools ← Working.market source.allPools
    let key ← Working.argument (RankingKey.ofName name)
    pure (.array ((key.top limit pools).map Pool.json))

def spotPrice (source : Provider σ) : Tool σ where
  definition :=
    { name := "get_spot_price"
      description := "Spot swap rate inside a pool: how much coin_out one coin_in buys"
      parameters :=
        [{ name := "pool_id", kind := .string, description := "Pool object id", required := true },
         { name := "coin_in", kind := .string, description := "Symbol of the coin sold",
           required := true, assetReference := true },
         { name := "coin_out", kind := .string, description := "Symbol of the coin bought",
           required := true, assetReference := true },
         { name := "with_fees", kind := .boolean, description := "Include the pool fee",
           required := false, default := some (.bool true) }]
      output := .spotPrice }
  invoke args := do
    let pool ← Working.argument (args.string "pool_id")
    let coinIn ← Working.argument (args.string "coin_in")
    let coinOut ← Working.argument (args.string "coin_out")
    let withFees ← Working.argument (args.boolean "with_fees")
    let price ← Working.market (source.spotPrice pool coinIn coinOut withFees)
    pure (.ofFloat price)

end MarketQuery.MarketTool
