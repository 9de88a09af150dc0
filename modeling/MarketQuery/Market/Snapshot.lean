import MarketQuery.Market.Basic

/-!
A fixed snapshot of markets, built up one entry at a time. A pool added again replaces its earlier
version and counts as the newest.
-/
namespace MarketQuery

structure Snapshot where
  prices : List (String × TokenPrice) := []
  pools : List Pool := []
  /-- Prices by pool, coin sold and coin bought. They include the pool's fee. -/
  spotPrices : List ((String × String × String) × Float) := []
  unavailable : List String := []

namespace Snapshot

def withPrice (s : Snapshot) (id : String) (price : TokenPrice) : Snapshot :=
  { s with prices := Keyed.insert id price s.prices }

def withPool (s : Snapshot) (pool : Pool) : Snapshot :=
  { s with pools := s.pools.filter (fun p => p.id ≠ pool.id) ++ [pool] }

def withSpotPrice (s : Snapshot) (pool coinIn coinOut : String) (price : Float) : Snapshot :=
  { s with spotPrices := ((pool, coinIn, coinOut), price) :: s.spotPrices }

/-- Every question about this identifier fails from now on. -/
def withUnavailable (s : Snapshot) (id : String) : Snapshot :=
  { s with unavailable := id :: s.unavailable }

def requireAvailable (s : Snapshot) (id : String) : Except MarketError Unit :=
  if s.unavailable.contains id then .error (.status 503 (id ++ " temporarily unavailable"))
  else .ok ()

def tokenPrice (s : Snapshot) (id : String) : Except MarketError TokenPrice := do
  s.requireAvailable id
  match Keyed.get? id s.prices with
  | some price => .ok price
  | none => .error (.notFound ("price for " ++ id))

def findPool (s : Snapshot) (id : String) : Option Pool :=
  s.pools.find? fun p => p.id = id

def pool (s : Snapshot) (id : String) : Except MarketError (Option Pool) := do
  s.requireAvailable id
  .ok (s.findPool id)

/-- The stored price, or what is left of it when the fee is taken out. -/
def spotPrice (s : Snapshot) (pool coinIn coinOut : String) (withFees : Bool) :
    Except MarketError Float := do
  s.requireAvailable pool
  match s.spotPrices.lookup (pool, coinIn, coinOut) with
  | none => .error (.notFound ("pool " ++ pool))
  | some price =>
    if withFees then .ok price
    else
      let fee := ((s.findPool pool).map Pool.fee).getD 0.0
      .ok (price / (1.0 - fee / 100.0))

/-- A snapshot as a source of market data. It has no state. -/
def provider (s : Snapshot) (σ : Type) : Provider σ where
  name := "StaticMarketData"
  tokenPrice id := liftExcept (s.tokenPrice id)
  pool id := liftExcept (s.pool id)
  allPools := pure s.pools
  spotPrice pool coinIn coinOut withFees := liftExcept (s.spotPrice pool coinIn coinOut withFees)
where
  liftExcept {α : Type} (answer : Except MarketError α) : Asking σ α := ExceptT.mk (pure answer)

end Snapshot

end MarketQuery
