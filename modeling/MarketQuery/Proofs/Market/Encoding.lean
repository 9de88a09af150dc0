import MarketQuery.Proofs.Decimal.Finite
import MarketQuery.Proofs.Market.Visit

/-!
The JSON that market data are written as is read back as these data. A float that is not finite is
written as nothing, and an integer is read back if it has 64 bits, so this is said of proper data:
those with finite figures and times of 64 bits.
-/
namespace MarketQuery

/-- Finite figures, and a time of 64 bits. -/
structure TokenPrice.IsProper (p : TokenPrice) : Prop where
  current : p.current.isFinite = true
  previous : p.previous.isFinite = true
  change24h : p.change24h.isFinite = true
  time_ge : -(Decimal.signedLimit : Int) ≤ p.lastUpdated
  time_lt : p.lastUpdated < Decimal.signedLimit

structure Pool.IsProper (p : Pool) : Prop where
  reserves : ∀ x ∈ p.reserves, x.isFinite = true
  fee : p.fee.isFinite = true
  tvl : p.tvl.toFloat.isFinite = true
  apr : p.apr.toFloat.isFinite = true

def spotPriceJson (x : Float) : Json :=
  .object [("spotPrice", .ofFloat x)]

namespace MarketAnswer

def IsProper : MarketAnswer → Prop
  | price p => p.IsProper
  | pool found => ∀ p ∈ found, p.IsProper
  | pools all => ∀ p ∈ all, p.IsProper
  | spotPrice x => x.isFinite = true

/-- The JSON of an answer. That there is no pool has none. -/
def json? : MarketAnswer → Option Json
  | price p => some p.json
  | pool found => found.map Pool.json
  | pools all => some (.array (all.map Pool.json))
  | spotPrice x => some (spotPriceJson x)

end MarketAnswer

theorem ofFloat_finite {x : Float} (h : x.isFinite = true) : Json.ofFloat x = .number (.float x) :=
  if_pos h

theorem decode_ofFloat {x : Float} (h : x.isFinite = true) :
    Decoder.float (.ofFloat x) = .ok x := by
  rw [ofFloat_finite h]
  rfl

theorem decode_list {α : Type} {item : Decoder α} {encode : α → Json} {items : List α}
    (h : ∀ a ∈ items, item (encode a) = .ok a) :
    Decoder.list item (.array (items.map encode)) = .ok items := by
  rw [Decoder.list]
  induction items with
  | nil => rfl
  | cons a rest ih =>
    obtain ⟨ha, hrest⟩ := List.forall_mem_cons.mp h
    rw [List.map_cons, Decoder.all, ha, ih hrest]
    rfl

theorem TokenPrice.decode_json {p : TokenPrice} (h : p.IsProper) :
    TokenPrice.layout.decode p.json = .ok p := by
  have hcurrent := decode_ofFloat h.current
  have hprevious := decode_ofFloat h.previous
  have hchange := decode_ofFloat h.change24h
  have htime : Decoder.int64 (.ofInt p.lastUpdated) = .ok p.lastUpdated := if_pos h.time_lt
  simp [TokenPrice.json, TokenPrice.layout, RecordLayout.decode, RecordLayout.ofMembers,
    RecordLayout.setMembers, RecordLayout.missing?, Field.of, hcurrent, hprevious, hchange, htime,
    Keyed.get?_cons, Except.map]

theorem Pool.decode_json {p : Pool} (h : p.IsProper) : Pool.layout.decode p.json = .ok p := by
  have hfee := decode_ofFloat h.fee
  have htvl := decode_ofFloat h.tvl
  have hapr := decode_ofFloat h.apr
  have hreserves : Decoder.list .float (.array (p.reserves.map .ofFloat)) = .ok p.reserves :=
    decode_list fun x hx => decode_ofFloat (h.reserves x hx)
  have htokens : Decoder.list .text (.ofStrings p.tokens) = .ok p.tokens :=
    decode_list fun token _ => rfl
  have hid : Decoder.text (.string p.id) = .ok p.id := rfl
  simp [Pool.json, Pool.layout, RecordLayout.decode, RecordLayout.ofMembers,
    RecordLayout.setMembers, RecordLayout.missing?, Field.of, hfee, htvl, hapr, hreserves, htokens,
    hid, Decimal.Double.ofFloat_toFloat h.tvl, Decimal.Double.ofFloat_toFloat h.apr, Keyed.get?_cons,
    Except.map]

theorem decode_spotPriceJson {x : Float} (h : x.isFinite = true) :
    spotPriceLayout.decode (spotPriceJson x) = .ok x := by
  have hx := decode_ofFloat h
  simp [spotPriceJson, spotPriceLayout, RecordLayout.decode, RecordLayout.ofMembers,
    RecordLayout.setMembers, RecordLayout.missing?, Field.of, hx, Keyed.get?_cons, Except.map]

end MarketQuery
