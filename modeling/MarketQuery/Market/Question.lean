import MarketQuery.Url.Percent

/-!
The questions that a market backend answers, and the request paths that ask them.
-/
namespace MarketQuery

inductive MarketQuestion where
  | price (asset : String)
  | pool (id : String)
  | pools
  | spotPrice (pool coinIn coinOut : String) (withFees : Bool)

/-- The path below the backend's address. -/
def MarketQuestion.path : MarketQuestion → String
  | price asset => "/prices/" ++ Percent.formEncode asset
  | pool id => "/pools/" ++ Percent.formEncode id
  | pools => "/pools"
  | spotPrice id coinIn coinOut withFees =>
    "/pools/" ++ Percent.formEncode id ++ "/spot-price?coinIn=" ++ Percent.formEncode coinIn ++
      "&coinOut=" ++ Percent.formEncode coinOut ++
      "&withFees=" ++ (if withFees then "true" else "false")

end MarketQuery
