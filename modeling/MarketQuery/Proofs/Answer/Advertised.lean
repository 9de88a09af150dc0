import MarketQuery.Proofs.Answer.Placeholder
import MarketQuery.Proofs.Answer.ReportLayouts
import MarketQuery.Proofs.Decimal.Places
import MarketQuery.Proofs.Market.Agreement
import MarketQuery.Proofs.Query.Execution

/-!
What the tools advertise about their outputs can be shown. The description of an output shape names
fields; after a successful call of a market tool a path to each of them leads to a text, a number
with three decimals if the field is one, and a path that ends at the result itself leads to the
layout of its shape. So the placeholders of these paths are replaced wherever they stand.
-/
namespace MarketQuery

open Decimal (HasPlaces)

/-- Every result is the output of the tool that is registered under its name. -/
theorem Registry.Runs.exists_call {σ : Type} {r : Registry σ} {t : SymbolTable} {s s' : σ}
    {actions : List Action} {results : List ActionResult} (h : r.Runs t s actions results s') :
    ∀ result ∈ results, ∃ tool args s₁ s₂, r.find? result.tool = some tool ∧
      (tool.invoke args).run.run s₁ = (.ok result.output, s₂) ∧
      result.shape = tool.definition.output := by
  induction h with
  | nil s => simp
  | cons hprepare hinvoke hrest ih =>
    intro result hmem
    rcases List.mem_cons.mp hmem with rfl | hmem
    · exact ⟨_, _, _, _, (prepare_eq_ok hprepare).1, hinvoke, rfl⟩
    · exact ih result hmem

theorem Snapshot.IsProper.provider {s : Snapshot} (h : s.IsProper) {σ : Type} :
    (s.provider σ).IsProper := by
  intro question world known world' hrun
  rw [Snapshot.ask_run] at hrun
  exact h.answer (Prod.mk.inj hrun).1

namespace Template

variable {t : SymbolTable} {results : List ActionResult} {r : ActionResult} {path : Path}
  {segments : List Path.Segment}

/-- A path that leads to a result, and goes on inside it along these segments. A result is the first
one, or it is named by its number, or by the name of its tool. -/
inductive Leads (results : List ActionResult) : Path → ActionResult → List Path.Segment → Prop
  | first {r : ActionResult} {segments : List Path.Segment} (h : results.head? = some r) :
      Leads results ⟨.result, segments⟩ r segments
  | number {r : ActionResult} {key : Path.Segment} {segments : List Path.Segment} {i : Nat}
      (hi : key.asIndex? = some i) (h : results[i]? = some r) :
      Leads results ⟨.results, key :: segments⟩ r segments
  | tool {r : ActionResult} {key : Path.Segment} {segments : List Path.Segment}
      (hkey : key.asIndex?.bind (fun i => results[i]?) = none)
      (h : results.find? (fun r => r.tool = key.asKey) = some r) :
      Leads results ⟨.results, key :: segments⟩ r segments

theorem Leads.resolve_eq (h : Leads results path r segments) (t : SymbolTable) :
    resolve? t results path = ((Node.ofResult t r).walk t segments).map (Node.text t) := by
  cases h with
  | first h =>
    cases segments with
    | nil => simp [resolve?, h, resultText, Node.walk]
    | cons segment rest => simp [resolve?, h]
  | number hi h => simp [resolve?, keyed?, hi, h]
  | tool hkey h => simp [resolve?, keyed?, hkey, h]

structure Displays (t : SymbolTable) (results : List ActionResult) (path : Path) (text : String) :
    Prop where
  resolves : resolve? t results path = some text
  replaced : ∀ e, Path.parse e = .ok path → ∀ p s : String, ¬ opening <:+: p.toList →
    render t (p ++ "$\x7b" ++ e ++ "\x7d" ++ s) results = p ++ text ++ substitute t results s

theorem Displays.of_resolve {text : String} (h : resolve? t results path = some text) :
    Displays t results path text := by
  refine ⟨h, ?_⟩
  intro e he p s hp
  have hsplit : (p ++ "$\x7b" ++ e ++ "\x7d" ++ s).toList =
      p.toList ++ (opening ++ (e.toList ++ '\x7d' :: s.toList)) := by
    simp [opening]
  have hevaluate : evaluate? t results e.toList = some text.toList := by
    simp [evaluate?, he, h]
  have hplaceholder : hasPlaceholder (p ++ "$\x7b" ++ e ++ "\x7d" ++ s) = true := by
    rw [hasPlaceholder, Option.isSome_iff_ne_none, ne_eq, Text.cutAt_eq_none_iff, not_not, hsplit]
    exact ⟨p.toList, e.toList ++ '\x7d' :: s.toList, by rw [List.append_assoc]⟩
  rw [render, if_pos hplaceholder]
  apply String.toList_injective
  rw [substitute, hsplit, fill_placeholder hp he, hevaluate]
  simp [substitute]

/-- For all tables, all sources with proper data, and all plans that are carried out: the output of
a market tool is the JSON of a report of the shape that the tool advertises. A path to a field that
the description of the shape names, in any of the records of the report, leads to the text of the
field, and to a number with three decimals if the field is a number. A path to the result itself
leads to the layout of the report. -/
theorem advertised_displayed {σ : Type} {source : Provider σ} (hsource : source.IsProper)
    (t : SymbolTable) {actions : List Action} {results : List ActionResult} {calls : List ToolCall}
    {s s' : σ}
    (hrun : ((Registry.standard source).execute t actions).run s = (⟨.ok results, calls⟩, s'))
    {tool : Tool σ} (htool : tool ∈ MarketTool.all source) {r : ActionResult} (hr : r ∈ results)
    (hname : r.tool = tool.definition.name) :
    ∃ report : MarketReport, report.IsProper ∧ report.shape = tool.definition.output ∧
      report.json = r.output ∧
      (∀ front fields, report.Record front fields →
        fields.map Prod.fst = tool.definition.output.fieldNames ∧
        ∀ back v, Reads fields back v →
          (∀ x, v = .one (.number x) → HasPlaces 3 v.shown.toList) ∧
          ∀ path, Leads results path r (front ++ back) → Displays t results path v.shown) ∧
      (Node.ofResult t r).layout? t = some (report.layout t r.input) ∧
      ∀ path, Leads results path r [] → Displays t results path (report.layout t r.input) := by
  obtain ⟨hruns, -⟩ := Registry.execute_eq_ok_iff.mp hrun
  obtain ⟨found, args, s₁, s₂, hfind, hinvoke, hshape⟩ := hruns.exists_call r hr
  rw [hname, MarketTool.find_standard tool htool] at hfind
  obtain rfl := Option.some.inj hfind
  obtain ⟨report, hproper, hreport, hjson⟩ :=
    MarketTool.reports hsource tool htool args s₁ s₂ r.output hinvoke
  have hlayout := report.layout_eq hproper t (hreport.trans hshape.symm) hjson
  refine ⟨report, hproper, hreport, hjson, ?_, hlayout, ?_⟩
  · intro front fields hrecord
    refine ⟨hreport ▸ hrecord.fieldNames_eq, ?_⟩
    intro back v hreads
    obtain ⟨hv, htext⟩ := hrecord.text_eq (t := t) (n := Node.ofResult t r) hreads hproper hjson.symm
      (congrArg some (hshape.trans hreport.symm))
    refine ⟨?_, ?_⟩
    · rintro x rfl
      rw [FieldValue.shown, Datum.shown, Figures.number, String.toList_ofList]
      exact Decimal.hasPlaces_fixed 3 hv
    · intro path hleads
      exact .of_resolve ((hleads.resolve_eq t).trans htext)
  · intro path hleads
    refine .of_resolve ((hleads.resolve_eq t).trans ?_)
    rw [Node.walk, Option.map_some, Node.text, hlayout, Option.getD_some]

/-- Two calls on a snapshot: a field of a price in a map, a field of a pool in a list, and the
layout of the first result. -/
theorem advertised_displayed_snapshot :
    let price : TokenPrice := ⟨1.5, 1.25, 7, 20.0⟩
    let pool : Pool := ⟨"p", ["0x2::SUI"], [2.5], 0.25, 10.5, 3.25⟩
    let s := (({} : Snapshot).withPrice "0x2::SUI" price).withPool pool
    let t := SymbolTable.empty.insert "SUI" "0x2::SUI"
    let actions : List Action := [⟨"get_token_prices", [("symbols", .array [.string "sui"])]⟩,
      ⟨"get_all_pools", []⟩]
    let results : List ActionResult :=
      [⟨"get_token_prices", .object [("symbols", .array [.string "0x2::SUI"])],
        .object [("0x2::SUI", price.json)], .pricedAssetMap⟩,
       ⟨"get_all_pools", .object [], .array [pool.json], .poolList⟩]
    (s.provider Unit).IsProper ∧
      ((Registry.standard (s.provider Unit)).execute t actions).run () =
        (⟨.ok results, results.map ActionResult.call⟩, ()) ∧
      Displays t results ⟨.result, [.key "0x2::SUI", .key "current"]⟩ "1.500" ∧
      Displays t results ⟨.results, [.index 1, .index 0, .key "fee"]⟩ "0.250" ∧
      Displays t results ⟨.result, []⟩ "SUI: $1.5000 (+20.00%)" := by
  intro price pool s t actions results
  have hs : s.IsProper := by
    constructor
    case prices =>
      intro entry hmem
      obtain rfl := List.mem_singleton.mp hmem
      exact ⟨by decide +kernel, by decide +kernel, by decide +kernel, by decide, by decide⟩
    case pools =>
      intro p hmem
      obtain rfl := List.mem_singleton.mp hmem
      exact ⟨by decide +kernel, by decide +kernel, by decide +kernel, by decide +kernel⟩
    case spotPrices =>
      intro id coinIn coinOut withFees x hx
      simp [Snapshot.spotPrice, Snapshot.requireAvailable_eq, s, Snapshot.withPool,
        Snapshot.withPrice, bind, Except.bind] at hx
  have hsource : (s.provider Unit).IsProper := hs.provider
  have hrun : ((Registry.standard (s.provider Unit)).execute t actions).run () =
      (⟨.ok results, results.map ActionResult.call⟩, ()) := rfl
  -- The texts that the theorem gives are those of the values that the paths are seen to lead to.
  have hcurrent : resolve? t results ⟨.result, [.key "0x2::SUI", .key "current"]⟩ = some "1.500" := by
    decide +kernel
  have hfee : resolve? t results ⟨.results, [.index 1, .index 0, .key "fee"]⟩ = some "0.250" := by
    decide +kernel
  have hresult : resolve? t results ⟨.result, []⟩ = some "SUI: $1.5000 (+20.00%)" := by
    decide +kernel
  have hprices : MarketTool.tokenPrices (s.provider Unit) ∈ MarketTool.all (s.provider Unit) := by
    simp [MarketTool.all]
  have hpools : MarketTool.allPools (s.provider Unit) ∈ MarketTool.all (s.provider Unit) := by
    simp [MarketTool.all]
  refine ⟨hsource, hrun, ?_, ?_, ?_⟩
  · obtain ⟨report, -, hshape, hjson, hfields, -⟩ :=
      advertised_displayed hsource t hrun hprices List.mem_cons_self rfl
    have hget : report.json.get? "0x2::SUI" = some price.json := by rw [hjson]; rfl
    obtain ⟨p, hrecord⟩ := MarketReport.exists_record_asset hshape (.key "0x2::SUI") hget
    have hreads : Reads p.fields [.key "current"] (.one (.number p.current)) :=
      .field List.mem_cons_self
    have hdisplays := ((hfields _ _ hrecord).2 _ _ hreads).2 _ (.first rfl)
    rwa [Option.some.inj (hdisplays.resolves.symm.trans hcurrent)] at hdisplays
  · obtain ⟨report, -, hshape, hjson, hfields, -⟩ :=
      advertised_displayed hsource t hrun hpools (List.mem_cons_of_mem _ List.mem_cons_self) rfl
    have hitems : report.json.items? = some [pool.json] := by rw [hjson]; rfl
    have hfirst : (Path.Segment.index 0).asIndex? = some 0 := rfl
    obtain ⟨p, hrecord⟩ := MarketReport.exists_record_index hshape hfirst hitems (by simp)
    have hreads : Reads p.fields [.key "fee"] (.one (.number p.fee)) :=
      .field (by simp [Path.Segment.asKey, Pool.fields])
    have hleads : Leads results ⟨.results, [.index 1, .index 0, .key "fee"]⟩ _
        [.index 0, .key "fee"] := .number (i := 1) rfl rfl
    have hdisplays := ((hfields _ _ hrecord).2 _ _ hreads).2 _ hleads
    rwa [Option.some.inj (hdisplays.resolves.symm.trans hfee)] at hdisplays
  · obtain ⟨report, -, -, -, -, -, hlayout⟩ :=
      advertised_displayed hsource t hrun hprices List.mem_cons_self rfl
    have hdisplays := hlayout ⟨.result, []⟩ (.first rfl)
    rwa [Option.some.inj (hdisplays.resolves.symm.trans hresult)] at hdisplays

end Template

end MarketQuery
