import MarketQuery.Tool.Market
import MarketQuery.Tool.Registry
import MarketQuery.Tool.Yield

/-!
The catalog of all tools over a source of market data.
-/
namespace MarketQuery

def catalog {σ : Type} (source : Provider σ) : List (Tool σ) :=
  [MarketTool.tokenPrice source, MarketTool.tokenPrices source, MarketTool.poolInfo source,
   MarketTool.allPools source, MarketTool.topPools source, MarketTool.spotPrice source,
   Yield.aprToApyTool, Yield.apyToAprTool, Yield.impermanentLossTool]

theorem catalog_names {σ : Type} (source : Provider σ) :
    (catalog source).map (fun t => t.definition.name) =
      ["get_token_price", "get_token_prices", "get_pool_info", "get_all_pools", "get_top_pools",
        "get_spot_price", "apr_to_apy", "apy_to_apr", "impermanent_loss"] := rfl

/-- The names of the catalog differ, so it can be a registry as it is. -/
def Registry.standard {σ : Type} (source : Provider σ) : Registry σ :=
  .ofTools (catalog source) (by rw [catalog_names]; decide)

theorem Registry.registerAll_catalog {σ : Type} (source : Provider σ) :
    Registry.empty.registerAll (catalog source) = .ok (Registry.standard source) := by
  rfl

end MarketQuery
