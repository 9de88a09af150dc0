import MarketQuery.Market.Snapshot
import MarketQuery.Symbol.Coins

/-!
A small snapshot for work without a network.
-/
namespace MarketQuery.Snapshot

def demoPrice (now : Int) (current previous : Float) : TokenPrice where
  current := current
  previous := previous
  lastUpdated := now
  change24h := (current - previous) / previous * 100.0

def demoPools : List Pool :=
  [{ id := "0x5eb2dfcdd1b15d2021328258f6d5ec081e9a0cdcfa9e13a0eaeb9b5f7505ca78"
     tokens := [Coin.sui, Coin.usdc]
     reserves := [4182001.5, 5140233.25]
     fee := 0.25
     tvl := 10284095.1
     apr := 18.42 },
   { id := "0xa528b26eae41bcfca488a9feaa3dca614b2a1d9b9b5c78c256918ced051d4c50"
     tokens := [Coin.weth, Coin.usdc]
     reserves := [412.75, 1408550.0]
     fee := 0.05
     tvl := 2817100.4
     apr := 9.87 },
   { id := "0x2e041f3fd93646dcc877f783c1f2b7fa62d30271bdef1f21ef002cebf857bded"
     tokens := [Coin.cetus, Coin.sui]
     reserves := [9874120.0, 910443.2]
     fee := 0.25
     tvl := 2239800.0
     apr := 31.06 }]

/-- The snapshot as of the time `now`. -/
def demo (now : Int) : Snapshot :=
  let priced := ({} : Snapshot)
    |>.withPrice Coin.sui (demoPrice now 1.23 1.20)
    |>.withPrice Coin.usdc (demoPrice now 1.0 1.0)
    |>.withPrice Coin.weth (demoPrice now 3412.55 3501.10)
    |>.withPrice Coin.cetus (demoPrice now 0.1134 0.1089)
  (demoPools.foldl withPool priced).withSpotPrice
    "0x5eb2dfcdd1b15d2021328258f6d5ec081e9a0cdcfa9e13a0eaeb9b5f7505ca78" Coin.sui Coin.usdc 1.229175

end MarketQuery.Snapshot
