import MarketQuery.Proofs.Market.Encoding
import MarketQuery.Tool.Catalog

/-!
What the market tools report. A report is the data that a call of a tool puts out, before they are
written as JSON. Every call that succeeds, of every market tool, puts out the JSON of one report,
the report has the shape that the tool declares, and its figures are proper if those of the source
are.
-/
namespace MarketQuery

inductive MarketReport where
  | price (price : TokenPrice)
  /-- Prices by asset identifier. -/
  | prices (prices : List (String × TokenPrice))
  | pool (pool : Pool)
  | pools (pools : List Pool)
  | spotPrice (price : Float)

namespace MarketReport

def shape : MarketReport → OutputShape
  | price _ => .pricedAsset
  | prices _ => .pricedAssetMap
  | pool _ => .poolSnapshot
  | pools _ => .poolList
  | spotPrice _ => .spotPrice

def json : MarketReport → Json
  | price p => p.json
  | prices entries => .object (entries.map (Prod.map id TokenPrice.json))
  | pool p => p.json
  | pools all => .array (all.map Pool.json)
  | spotPrice x => .ofFloat x

def IsProper : MarketReport → Prop
  | price p => p.IsProper
  | prices entries => ∀ e ∈ entries, e.2.IsProper
  | pool p => p.IsProper
  | pools all => ∀ p ∈ all, p.IsProper
  | spotPrice x => x.isFinite = true

end MarketReport

section Runs

variable {σ ε α β : Type}

theorem run_bind_eq_ok_iff {x : ExceptT ε (StateM σ) α} {f : α → ExceptT ε (StateM σ) β} {b : β}
    {s s' : σ} : (x >>= f).run.run s = (.ok b, s') ↔
      ∃ a s₁, x.run.run s = (.ok a, s₁) ∧ (f a).run.run s₁ = (.ok b, s') := by
  rw [ExceptT.run_bind, StateT.run_bind]
  rcases x.run.run s with ⟨_ | a, s₁⟩
  · constructor
    · intro h
      simpa using (Prod.mk.inj h).1
    · rintro ⟨a, s₂, h, -⟩
      simpa using (Prod.mk.inj h).1
  · constructor
    · intro h
      exact ⟨a, s₁, rfl, h⟩
    · rintro ⟨a', s₂, h, hf⟩
      obtain ⟨ha, rfl⟩ := Prod.mk.inj h
      obtain rfl := Except.ok.inj ha
      exact hf

theorem run_pure_eq_ok_iff {a b : α} {s s' : σ} :
    (pure a : ExceptT ε (StateM σ) α).run.run s = (.ok b, s') ↔ a = b ∧ s = s' := by
  change (Except.ok a, s) = (Except.ok b, s') ↔ _
  simp

theorem run_map_ok {x : ExceptT ε (StateM σ) α} {a : α} {s s' : σ}
    (h : x.run.run s = (.ok a, s')) (f : α → β) : (f <$> x).run.run s = (.ok (f a), s') := by
  rw [← bind_pure_comp]
  exact run_bind_eq_ok_iff.mpr ⟨a, s', h, rfl⟩

theorem Working.run_argument_eq_ok_iff {read : Except ArgumentFault α} {a : α} {s s' : σ} :
    (Working.argument read : Working σ α).run.run s = (.ok a, s') ↔ read = .ok a ∧ s = s' := by
  cases read with
  | ok found =>
    change (Except.ok found, s) = (Except.ok a, s') ↔ _
    simp
  | error fault =>
    change (Except.error (ToolError.invalidArgument fault), s) = (Except.ok a, s') ↔ _
    simp

theorem Working.run_market_eq_ok_iff {question : Asking σ α} {a : α} {s s' : σ} :
    (Working.market question).run.run s = (.ok a, s') ↔ question.run.run s = (.ok a, s') := by
  rw [Working.market, ExceptT.run_mk, StateT.run_bind]
  rcases question.run.run s with ⟨cause | found, s₁⟩
  · change (Except.error (ToolError.market cause), s₁) = (Except.ok a, s') ↔
      (Except.error cause, s₁) = (Except.ok a, s')
    simp
  · change (Except.ok found, s₁) = (Except.ok a, s') ↔ (Except.ok found, s₁) = (Except.ok a, s')
    simp

end Runs

variable {σ : Type} {source : Provider σ}

/-- All answers of the source are proper: their figures are finite, and their times have 64 bits. -/
def Provider.IsProper (source : Provider σ) : Prop :=
  ∀ question s known s', (source.ask question).run.run s = (.ok known, s') → known.IsProper

namespace Provider.IsProper

variable {s s' : σ}

theorem tokenPrice (h : source.IsProper) {id : String} {p : TokenPrice}
    (hrun : (source.tokenPrice id).run.run s = (.ok p, s')) : p.IsProper :=
  h (.price id) s (.price p) s' (run_map_ok hrun _)

theorem pool (h : source.IsProper) {id : String} {p : Pool}
    (hrun : (source.pool id).run.run s = (.ok (some p), s')) : p.IsProper :=
  h (.pool id) s (.pool (some p)) s' (run_map_ok hrun _) p rfl

theorem allPools (h : source.IsProper) {pools : List Pool}
    (hrun : source.allPools.run.run s = (.ok pools, s')) : ∀ p ∈ pools, p.IsProper :=
  h .pools s (.pools pools) s' (run_map_ok hrun _)

theorem spotPrice (h : source.IsProper) {pool coinIn coinOut : String} {withFees : Bool} {x : Float}
    (hrun : (source.spotPrice pool coinIn coinOut withFees).run.run s = (.ok x, s')) :
    x.isFinite = true :=
  h (.spotPrice pool coinIn coinOut withFees) s (.spotPrice x) s' (run_map_ok hrun _)

end Provider.IsProper

namespace MarketTool

def all (source : Provider σ) : List (Tool σ) :=
  [tokenPrice source, tokenPrices source, poolInfo source, allPools source, topPools source,
   spotPrice source]

variable {s s' : σ}

/-- Every success of the tool is the JSON of a proper report of the shape that it declares. -/
def Reports (tool : Tool σ) : Prop :=
  ∀ args s s' output, (tool.invoke args).run.run s = (.ok output, s') →
    ∃ report : MarketReport, report.IsProper ∧ report.shape = tool.definition.output ∧
      report.json = output

theorem reports_tokenPrice (h : source.IsProper) : Reports (tokenPrice source) := by
  intro args s s' output hrun
  obtain ⟨id, s₁, hid, hrun⟩ := run_bind_eq_ok_iff.mp hrun
  obtain ⟨p, s₂, hp, hrun⟩ := run_bind_eq_ok_iff.mp hrun
  obtain ⟨rfl, rfl⟩ := run_pure_eq_ok_iff.mp hrun
  exact ⟨.price p, h.tokenPrice (Working.run_market_eq_ok_iff.mp hp), rfl, rfl⟩

theorem exists_prices (h : source.IsProper) {ids : List String}
    {entries : List (String × TokenPrice)} (hentries : ∀ e ∈ entries, e.2.IsProper)
    {found : Fields} (hrun : (prices source ids (entries.map (Prod.map id TokenPrice.json))).run.run
      s = (.ok found, s')) :
    ∃ all : List (String × TokenPrice), (∀ e ∈ all, e.2.IsProper) ∧
      all.map (Prod.map id TokenPrice.json) = found := by
  induction ids generalizing entries s with
  | nil => exact ⟨entries, hentries, (run_pure_eq_ok_iff.mp hrun).1⟩
  | cons asset rest ih =>
    obtain ⟨p, s₁, hp, hrun⟩ := run_bind_eq_ok_iff.mp hrun
    rw [Keyed.insert_map] at hrun
    refine ih ?_ hrun
    intro e he
    rcases Keyed.eq_or_mem_of_mem_insert he with rfl | he
    · exact h.tokenPrice hp
    · exact hentries e he

theorem reports_tokenPrices (h : source.IsProper) : Reports (tokenPrices source) := by
  intro args s s' output hrun
  obtain ⟨ids, s₁, hids, hrun⟩ := run_bind_eq_ok_iff.mp hrun
  split at hrun
  · simpa using (Prod.mk.inj hrun).1
  · obtain ⟨found, s₂, hfound, hrun⟩ := run_bind_eq_ok_iff.mp hrun
    obtain ⟨rfl, rfl⟩ := run_pure_eq_ok_iff.mp hrun
    have hnone : ∀ e ∈ ([] : List (String × TokenPrice)), e.2.IsProper := by simp
    obtain ⟨entries, hentries, rfl⟩ :=
      exists_prices h hnone (Working.run_market_eq_ok_iff.mp hfound)
    exact ⟨.prices entries, hentries, rfl, rfl⟩

theorem reports_poolInfo (h : source.IsProper) : Reports (poolInfo source) := by
  intro args s s' output hrun
  obtain ⟨id, s₁, hid, hrun⟩ := run_bind_eq_ok_iff.mp hrun
  obtain ⟨found, s₂, hfound, hrun⟩ := run_bind_eq_ok_iff.mp hrun
  cases found with
  | none => simpa using (Prod.mk.inj hrun).1
  | some p =>
    obtain ⟨rfl, rfl⟩ := run_pure_eq_ok_iff.mp hrun
    exact ⟨.pool p, h.pool (Working.run_market_eq_ok_iff.mp hfound), rfl, rfl⟩

theorem reports_allPools (h : source.IsProper) : Reports (allPools source) := by
  intro args s s' output hrun
  obtain ⟨pools, s₁, hpools, hrun⟩ := run_bind_eq_ok_iff.mp hrun
  obtain ⟨rfl, rfl⟩ := run_pure_eq_ok_iff.mp hrun
  exact ⟨.pools pools, h.allPools (Working.run_market_eq_ok_iff.mp hpools), rfl, rfl⟩

theorem reports_topPools (h : source.IsProper) : Reports (topPools source) := by
  intro args s s' output hrun
  obtain ⟨limit, s₁, hlimit, hrun⟩ := run_bind_eq_ok_iff.mp hrun
  obtain ⟨name, s₂, hname, hrun⟩ := run_bind_eq_ok_iff.mp hrun
  obtain ⟨pools, s₃, hpools, hrun⟩ := run_bind_eq_ok_iff.mp hrun
  obtain ⟨key, s₄, hkey, hrun⟩ := run_bind_eq_ok_iff.mp hrun
  obtain ⟨rfl, rfl⟩ := run_pure_eq_ok_iff.mp hrun
  have hproper := h.allPools (Working.run_market_eq_ok_iff.mp hpools)
  have htop : ∀ p ∈ key.top limit pools, p.IsProper :=
    fun p hp => hproper p (RankingKey.mem_of_mem_top hp)
  exact ⟨.pools (key.top limit pools), htop, rfl, rfl⟩

theorem reports_spotPrice (h : source.IsProper) : Reports (spotPrice source) := by
  intro args s s' output hrun
  obtain ⟨pool, s₁, hpool, hrun⟩ := run_bind_eq_ok_iff.mp hrun
  obtain ⟨coinIn, s₂, hcoinIn, hrun⟩ := run_bind_eq_ok_iff.mp hrun
  obtain ⟨coinOut, s₃, hcoinOut, hrun⟩ := run_bind_eq_ok_iff.mp hrun
  obtain ⟨withFees, s₄, hwithFees, hrun⟩ := run_bind_eq_ok_iff.mp hrun
  obtain ⟨x, s₅, hx, hrun⟩ := run_bind_eq_ok_iff.mp hrun
  obtain ⟨rfl, rfl⟩ := run_pure_eq_ok_iff.mp hrun
  exact ⟨.spotPrice x, h.spotPrice (Working.run_market_eq_ok_iff.mp hx), rfl, rfl⟩

theorem reports (h : source.IsProper) : ∀ tool ∈ all source, Reports tool := by
  intro tool htool
  simp only [all, List.mem_cons, List.not_mem_nil, or_false] at htool
  rcases htool with rfl | rfl | rfl | rfl | rfl | rfl
  · exact reports_tokenPrice h
  · exact reports_tokenPrices h
  · exact reports_poolInfo h
  · exact reports_allPools h
  · exact reports_topPools h
  · exact reports_spotPrice h

/-- The registry finds each of them under its name. -/
theorem find_standard : ∀ tool ∈ all source,
    (Registry.standard source).find? tool.definition.name = some tool := by
  intro tool htool
  simp only [all, List.mem_cons, List.not_mem_nil, or_false] at htool
  rcases htool with rfl | rfl | rfl | rfl | rfl | rfl <;> rfl

end MarketTool

end MarketQuery
