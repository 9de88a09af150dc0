import MarketQuery.Proofs.Query.Arguments
import MarketQuery.Proofs.Query.Execution
import MarketQuery.Market.Snapshot
import MarketQuery.Symbol.Coins
import MarketQuery.Tool.Catalog

/-!
What the tools of the catalog may still find wrong with the arguments of an accepted action.
`Faults` says which faults of arguments a piece of work can end in, and goes through it step by
step: reading an argument that fits the declared parameters ends in none, and neither does a
question to the market. What is left are the checks on the values themselves.
-/
namespace MarketQuery

namespace Working

variable {σ α β : Type}

/-- The work finds no fault with its arguments but these. -/
def Faults (P : ArgumentFault → Prop) (work : Working σ α) : Prop :=
  ∀ s s' fault, work.run.run s = (.error (.invalidArgument fault), s') → P fault

variable {P : ArgumentFault → Prop}

theorem faults_pure (a : α) : Faults P (pure a : Working σ α) := by
  intro s s' fault h
  cases (Prod.mk.inj h).1

theorem faults_throw {e : ToolError} (h : ∀ fault, e = .invalidArgument fault → P fault) :
    Faults P (throw e : Working σ α) := by
  intro s s' fault hrun
  exact h fault (Except.error.inj (Prod.mk.inj hrun).1)

theorem faults_argument {read : Except ArgumentFault α} {next : α → Working σ β}
    (hread : ∀ fault, read = .error fault → P fault)
    (hnext : ∀ a, read = .ok a → Faults P (next a)) : Faults P (argument read >>= next) := by
  cases read with
  | ok a => exact hnext a rfl
  | error fault => exact faults_throw fun _ h => ToolError.invalidArgument.inj h ▸ hread fault rfl

/-- An argument that can be read is no fault. -/
theorem faults_reading {read : Except ArgumentFault α} {next : α → Working σ β}
    (hread : ∃ a, read = .ok a) (hnext : ∀ a, read = .ok a → Faults P (next a)) :
    Faults P (argument read >>= next) := by
  obtain ⟨a, ha⟩ := hread
  refine faults_argument ?_ hnext
  intro fault hfault
  cases ha.symm.trans hfault

theorem faults_market {question : Asking σ α} {next : α → Working σ β}
    (hnext : ∀ a, Faults P (next a)) : Faults P (market question >>= next) := by
  intro s s' fault h
  rw [market, ExceptT.run_bind, ExceptT.run_mk, StateT.run_bind, StateT.run_bind] at h
  rcases hasked : question.run.run s with ⟨_ | a, s₁⟩
  · rw [hasked] at h
    cases (Prod.mk.inj h).1
  · rw [hasked] at h
    exact hnext a s₁ s' fault h

end Working

/-- What a tool, by its name, checks of the values of its arguments. -/
inductive DomainFault (args : Arguments) : String → ArgumentFault → Prop
  | noSymbols (h : args.stringList "symbols" = .ok []) :
      DomainFault args "get_token_prices" .noSymbols
  | limit {i : Int} (h : args.integer "limit" = .ok i) (hlow : i < 1) :
      DomainFault args "get_top_pools" .limitBelowOne
  | ranking {name : String} (h : args.string "sort_by" = .ok name)
      (htvl : Text.lower name ≠ "tvl") (hapr : Text.lower name ≠ "apr") :
      DomainFault args "get_top_pools" (.unsupportedRanking (Text.lower name))
  | compounds {tool : String} {i : Int} (htool : tool = "apr_to_apy" ∨ tool = "apy_to_apr")
      (h : args.integer "compounds_per_year" = .ok i) (hlow : i < 1) :
      DomainFault args tool .compoundsBelowOne
  | ratio {x : Float} (h : args.number "price_ratio" = .ok x) (hlow : x ≤ 0.0) :
      DomainFault args "impermanent_loss" .ratioNotPositive

theorem DomainFault.ne_missing {args : Arguments} {tool : String} {fault : ArgumentFault}
    (h : DomainFault args tool fault) (name : String) : fault ≠ .missing name := by
  cases h <;> simp

theorem DomainFault.ne_mismatch {args : Arguments} {tool : String} {fault : ArgumentFault}
    (h : DomainFault args tool fault) (name expected : String) (got : Argument) :
    fault ≠ .mismatch name expected got := by
  cases h <;> simp

section Checks

variable {args : Arguments} {fault : ArgumentFault}

theorem domainFault_of_rankingLimit (hlimit : args.Holds "limit" .integer)
    (h : MarketTool.rankingLimit args = .error fault) :
    DomainFault args "get_top_pools" fault := by
  obtain ⟨i, hi⟩ := hlimit.integer
  simp only [MarketTool.rankingLimit, hi] at h
  split at h
  · next hlow =>
    obtain rfl := Except.error.inj h
    exact .limit hi hlow
  · simp at h

theorem domainFault_of_ranking {name : String} (hname : args.string "sort_by" = .ok name)
    (h : RankingKey.ofName name = .error fault) : DomainFault args "get_top_pools" fault := by
  simp only [RankingKey.ofName] at h
  split at h
  · simp at h
  · next htvl =>
    split at h
    · simp at h
    · next hapr =>
      obtain rfl := Except.error.inj h
      exact .ranking hname htvl hapr

theorem domainFault_of_compounds {tool : String} (htool : tool = "apr_to_apy" ∨ tool = "apy_to_apr")
    (hcompounds : args.Holds "compounds_per_year" .integer)
    (h : Yield.compoundsPerYear args = .error fault) : DomainFault args tool fault := by
  obtain ⟨i, hi⟩ := hcompounds.integer
  simp only [Yield.compoundsPerYear, hi] at h
  split at h
  · next hlow =>
    obtain rfl := Except.error.inj h
    exact .compounds htool hi hlow
  · simp at h

theorem domainFault_of_ratio (hratio : args.Holds "price_ratio" .number)
    (h : Yield.priceRatio args = .error fault) : DomainFault args "impermanent_loss" fault := by
  obtain ⟨x, hx⟩ := hratio.number
  simp only [Yield.priceRatio, hx] at h
  split at h
  · next hlow =>
    obtain rfl := Except.error.inj h
    exact .ratio hx hlow
  · simp at h

end Checks

namespace Tool

variable {σ : Type} {source : Provider σ}

/-- No two parameters have one name, and arguments that fit them are read without fault: only the
values can be wrong. -/
structure Reads (tool : Tool σ) : Prop where
  names : (tool.definition.parameters.map Parameter.name).Nodup
  faults : ∀ args : Arguments, args.Fit tool.definition.parameters →
    Working.Faults (DomainFault args tool.definition.name) (tool.invoke args)

open Working

theorem reads_tokenPrice : (MarketTool.tokenPrice source).Reads where
  names := by simp [MarketTool.tokenPrice]
  faults args hfit := by
    have hsymbol : args.Holds "symbol" .string := hfit.holds rfl
    refine faults_reading hsymbol.string fun id _ => ?_
    exact faults_market fun price => faults_pure _

theorem reads_tokenPrices : (MarketTool.tokenPrices source).Reads where
  names := by simp [MarketTool.tokenPrices]
  faults args hfit := by
    have hsymbols : args.Holds "symbols" .stringList := hfit.holds rfl
    refine faults_reading hsymbols.stringList fun ids hids => ?_
    split
    · next hempty =>
      rw [List.isEmpty_iff.mp hempty] at hids
      exact faults_throw fun fault h => ToolError.invalidArgument.inj h ▸ .noSymbols hids
    · exact faults_market fun known => faults_pure _

theorem reads_poolInfo : (MarketTool.poolInfo source).Reads where
  names := by simp [MarketTool.poolInfo]
  faults args hfit := by
    have hpool : args.Holds "pool_id" .string := hfit.holds rfl
    refine faults_reading hpool.string fun id _ => faults_market fun found => ?_
    cases found with
    | none => exact faults_throw nofun
    | some pool => exact faults_pure _

theorem reads_allPools : (MarketTool.allPools source).Reads where
  names := by simp [MarketTool.allPools]
  faults args hfit := faults_market fun pools => faults_pure _

theorem reads_topPools : (MarketTool.topPools source).Reads where
  names := by simp [MarketTool.topPools]
  faults args hfit := by
    have hlimit : args.Holds "limit" .integer := hfit.holds rfl
    have hsort : args.Holds "sort_by" .string := hfit.holds rfl
    refine faults_argument (fun fault => domainFault_of_rankingLimit hlimit) fun limit _ => ?_
    refine faults_reading hsort.string fun name hname => faults_market fun pools => ?_
    exact faults_argument (fun fault => domainFault_of_ranking hname) fun key _ => faults_pure _

theorem reads_spotPrice : (MarketTool.spotPrice source).Reads where
  names := by simp [MarketTool.spotPrice]
  faults args hfit := by
    have hpool : args.Holds "pool_id" .string := hfit.holds rfl
    have hcoinIn : args.Holds "coin_in" .string := hfit.holds rfl
    have hcoinOut : args.Holds "coin_out" .string := hfit.holds rfl
    have hfees : args.Holds "with_fees" .boolean := hfit.holds rfl
    refine faults_reading hpool.string fun pool _ => ?_
    refine faults_reading hcoinIn.string fun coinIn _ => ?_
    refine faults_reading hcoinOut.string fun coinOut _ => ?_
    refine faults_reading hfees.boolean fun withFees _ => ?_
    exact faults_market fun price => faults_pure _

theorem faults_finite {P : ArgumentFault → Prop} (x : Float) :
    Working.Faults (σ := σ) P (Yield.finite x) := by
  unfold Yield.finite
  split
  · exact faults_pure _
  · exact faults_throw nofun

theorem reads_conversion {name rate : String} (hname : name = "apr_to_apy" ∨ name = "apy_to_apr")
    (hrate : rate ≠ "compounds_per_year") (description rateDescription : String)
    (convert : Float → Float → Float) :
    (Yield.conversionTool (σ := σ) name description rate rateDescription convert).Reads where
  names := by simp [Yield.conversionTool, Yield.compoundsParameter, hrate]
  faults args hfit := by
    have hnumber : args.Holds rate .number := hfit _ List.mem_cons_self rfl
    have hcompounds : args.Holds "compounds_per_year" .integer :=
      hfit Yield.compoundsParameter (List.mem_cons_of_mem _ List.mem_cons_self) rfl
    refine faults_reading hnumber.number fun x _ => ?_
    exact faults_argument (fun fault => domainFault_of_compounds hname hcompounds)
      fun n _ => faults_finite _

theorem reads_impermanentLoss : (Yield.impermanentLossTool (σ := σ)).Reads where
  names := by simp [Yield.impermanentLossTool]
  faults args hfit := by
    have hratio : args.Holds "price_ratio" .number := hfit.holds rfl
    exact faults_argument (fun fault => domainFault_of_ratio hratio) fun ratio _ => faults_finite _

theorem reads_catalog : ∀ tool ∈ catalog source, tool.Reads := by
  intro tool htool
  simp only [catalog, List.mem_cons, List.not_mem_nil, or_false] at htool
  rcases htool with rfl | rfl | rfl | rfl | rfl | rfl | rfl | rfl | rfl
  · exact reads_tokenPrice
  · exact reads_tokenPrices
  · exact reads_poolInfo
  · exact reads_allPools
  · exact reads_topPools
  · exact reads_spotPrice
  · exact reads_conversion (.inl rfl) (by decide) _ _ _
  · exact reads_conversion (.inr rfl) (by decide) _ _ _
  · exact reads_impermanentLoss

end Tool

/-- An accepted action of a tool of the catalog is called with arguments that the tool can read. If
the tool still finds a fault with them, it is not that one is missing or of another type, but one
of the checks that this tool makes of the values. -/
theorem Registry.prepared_reads {σ : Type} (source : Provider σ) {t : SymbolTable}
    {action : Action} {tool : Tool σ} {args : Arguments}
    (hprepare : (Registry.standard source).prepare t action = .ok (tool, args)) {s s' : σ}
    {fault : ArgumentFault}
    (hinvoke : (tool.invoke args).run.run s = (.error (.invalidArgument fault), s')) :
    DomainFault args action.tool fault ∧ (∀ name, fault ≠ .missing name) ∧
      ∀ name expected got, fault ≠ .mismatch name expected got := by
  obtain ⟨hfind, harguments⟩ := Registry.prepare_eq_ok hprepare
  have hreads : tool.Reads := Tool.reads_catalog tool (Registry.mem_of_find? hfind)
  have hfit := ToolDefinition.fit_of_arguments harguments hreads.names
  have hfault := hreads.faults args hfit s s' fault hinvoke
  rw [Registry.name_of_find hfind] at hfault
  exact ⟨hfault, hfault.ne_missing, hfault.ne_mismatch⟩

/-- A limit that came as a text is read, and found to be too low. -/
theorem Registry.prepared_reads_limit :
    let source := ({} : Snapshot).provider Unit
    ∃ args, (Registry.standard source).prepare SymbolTable.builtin
        ⟨"get_top_pools", [("limit", .string " 0 ")]⟩ = .ok (MarketTool.topPools source, args) ∧
      ((MarketTool.topPools source).invoke args).run.run () =
        (.error (.invalidArgument .limitBelowOne), ()) ∧
      DomainFault args "get_top_pools" .limitBelowOne := by
  intro source
  let args : Arguments := [("limit", .integer 0), ("sort_by", .string "tvl")]
  have hprepare : (Registry.standard source).prepare SymbolTable.builtin
      ⟨"get_top_pools", [("limit", .string " 0 ")]⟩ = .ok (MarketTool.topPools source, args) := by
    rfl
  have hinvoke : ((MarketTool.topPools source).invoke args).run.run () =
      (.error (.invalidArgument .limitBelowOne), ()) := by
    rfl
  exact ⟨args, hprepare, hinvoke, (Registry.prepared_reads source hprepare hinvoke).1⟩

end MarketQuery
