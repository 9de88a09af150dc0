import MarketQuery.Json.Decode
import MarketQuery.Market.Basic

/-!
The form in which a market backend sends its answers.
-/
namespace MarketQuery

/-- A price without a time of update counts as updated at time zero. -/
def TokenPrice.layout : RecordLayout TokenPrice where
  title := "struct TokenPrice"
  blank := ⟨0.0, 0.0, 0, 0.0⟩
  fields := [
    .of "current" .float fun x p => { p with current := x },
    .of "previous" .float fun x p => { p with previous := x },
    { Field.of "lastUpdated" .int64 fun i (p : TokenPrice) => { p with lastUpdated := i } with
      required := false },
    .of "priceChange24h" .float fun x p => { p with change24h := x }]

def Pool.layout : RecordLayout Pool where
  title := "struct Pool"
  blank := ⟨"", [], [], 0.0, 0.0, 0.0⟩
  fields := [
    .of "id" .text fun s p => { p with id := s },
    .of "tokens" (.list .text) fun tokens p => { p with tokens := tokens },
    .of "reserves" (.list .float) fun reserves p => { p with reserves := reserves },
    .of "fee" .float fun x p => { p with fee := x },
    .of "tvl" .float fun x p => { p with tvl := x },
    .of "apr" .float fun x p => { p with apr := x }]

/-- A spot price is sent as a record of its own. -/
def spotPriceLayout : RecordLayout Float where
  title := "struct SpotPriceResponse"
  blank := 0.0
  fields := [.of "spotPrice" .float fun x _ => x]

end MarketQuery
