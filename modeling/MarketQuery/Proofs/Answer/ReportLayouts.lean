import MarketQuery.Proofs.Answer.Fields

/-!
The layouts of reports. A layout looks its figures up in JSON and has a way out wherever one is
missing: a line without the figure, a dash, or the JSON itself. In the JSON of a proper report no
figure is missing, so the layout of a report is a text made of its data alone, and none of the ways
out is taken. Only a pool with more tokens than reserves has dashes in its table.
-/
namespace MarketQuery

namespace Layouts

variable {n : Node} {fields : FieldValues} {key : String}

theorem figure_eq (h : n.IsRecord fields) {x : Float} (hx : (key, .one (.number x)) ∈ fields) :
    figure? n.value key = some x := by
  obtain ⟨-, json, hget, hspelled⟩ := h.get _ hx
  cases hspelled
  rw [figure?, hget]
  rfl

theorem string_eq (h : n.IsRecord fields) {s : String} (hs : (key, .one (.text s)) ∈ fields) :
    (n.value.get? key).bind Json.string? = some s := by
  obtain ⟨-, json, hget, hspelled⟩ := h.get _ hs
  cases hspelled
  rw [hget]
  rfl

theorem items_eq (h : n.IsRecord fields) {ds : List Datum} (hds : (key, .many ds) ∈ fields) :
    (n.value.get? key).bind Json.items? = some (ds.map Datum.json) := by
  obtain ⟨-, json, hget, hspelled⟩ := h.get _ hds
  cases hspelled
  rw [hget]
  rfl

def priceLine (label : String) (p : TokenPrice) : String :=
  label ++ ": " ++ Figures.usd p.current ++ " (" ++ Figures.signedPercent p.change24h ++ ")"

theorem pricedAsset_json {p : TokenPrice} (hp : p.IsProper) (label : String) :
    pricedAsset label p.json = some (priceLine label p) := by
  have hrecord : (Node.plain p.json).IsRecord p.fields := TokenPrice.isRecord hp rfl (by simp [Node.plain])
  have hcurrent : figure? p.json "current" = some p.current :=
    figure_eq hrecord (by simp [TokenPrice.fields])
  have hchange : figure? p.json "priceChange24h" = some p.change24h :=
    figure_eq hrecord (by simp [TokenPrice.fields])
  rw [pricedAsset, hcurrent, hchange]
  rfl

def pair (t : SymbolTable) (p : Pool) : String :=
  let names := "/".intercalate (p.tokens.map t.displayName)
  if names = "" then "?" else names

def poolRow (t : SymbolTable) (p : Pool) (i : Nat) (token : String) : String :=
  tableRow (t.displayName token) ((p.reserves[i]?.map Figures.reserve).getD "-")

def poolText (t : SymbolTable) (p : Pool) : String :=
  lines
    (["Pool " ++ pair t p ++ " (" ++ Figures.shortId p.id ++ ")",
      "  Fee: " ++ Figures.percent p.fee, "  TVL: " ++ Figures.usd p.tvl,
      "  APR: " ++ Figures.percent p.apr, tableRow "Token" "Reserve"] ++
      p.tokens.mapIdx (poolRow t p))

def rankedText (t : SymbolTable) (p : Pool) (rank : Nat) : String :=
  Decimal.natText rank ++ ". " ++ pair t p ++ "  TVL: " ++ Figures.usd p.tvl ++
    "  APR: " ++ Figures.percent p.apr ++ "  Fee: " ++ Figures.percent p.fee

section Pool

variable {p : Pool} (hp : p.IsProper)
include hp

theorem isRecord_pool : (Node.plain p.json).IsRecord p.fields :=
  Pool.isRecord hp rfl (by simp [Node.plain])

/-- A number of a pool is found under its key. -/
theorem figure_pool {x : Float} (hx : (key, .one (.number x)) ∈ p.fields) :
    figure? p.json key = some x :=
  figure_eq (isRecord_pool hp) hx

theorem figureLine_pool {x : Float} (hx : (key, .one (.number x)) ∈ p.fields) (label : String)
    (text : Float → String) :
    figureLine p.json label key text = ["  " ++ label ++ ": " ++ text x] := by
  rw [figureLine, figure_pool hp hx]

theorem figureOrDash_pool {x : Float} (hx : (key, .one (.number x)) ∈ p.fields)
    (text : Float → String) : figureOrDash p.json key text = text x := by
  rw [figureOrDash, figure_pool hp hx]

theorem tokens_eq : (p.json.get? "tokens").bind Json.items? = some (p.tokens.map .string) := by
  have hitems : (p.json.get? "tokens").bind Json.items? =
      some ((p.tokens.map .text).map Datum.json) :=
    items_eq (isRecord_pool hp) (by simp [Pool.fields])
  rw [hitems, List.map_map]
  rfl

theorem reserves_eq : (p.json.get? "reserves").bind Json.items? = some (p.reserves.map .ofFloat) := by
  have hitems : (p.json.get? "reserves").bind Json.items? =
      some ((p.reserves.map .number).map Datum.json) :=
    items_eq (isRecord_pool hp) (by simp [Pool.fields])
  rw [hitems, List.map_map]
  rfl

theorem pairName_json (t : SymbolTable) : pairName t p.json = pair t p := by
  have hstrings : (p.tokens.map Json.string).filterMap Json.string? = p.tokens := by
    simp [List.filterMap_map, Function.comp_def, Json.string?]
  rw [pairName, tokens_eq hp, Option.map_some, hstrings]
  rfl

end Pool

theorem tokenRows_eq (t : SymbolTable) (tokens : List String) {reserves : List Float}
    (h : ∀ x ∈ reserves, x.isFinite = true) :
    tokenRows t (reserves.map .ofFloat) (tokens.map .string) =
      tokens.mapIdx fun i token =>
        tableRow (t.displayName token) ((reserves[i]?.map Figures.reserve).getD "-") := by
  induction tokens generalizing reserves with
  | nil => rfl
  | cons token rest ih =>
    have htail : (reserves.map Json.ofFloat).tail = reserves.tail.map .ofFloat := by simp
    have hrest : ∀ x ∈ reserves.tail, x.isFinite = true :=
      fun x hx => h x (List.mem_of_mem_tail hx)
    have hhead : (reserves.map Json.ofFloat).head?.bind Json.float? = reserves[0]? := by
      cases reserves with
      | nil => rfl
      | cons x others =>
        have hx : Json.ofFloat x = .number (.float x) := ofFloat_finite (h x List.mem_cons_self)
        rw [List.map_cons, List.head?_cons, Option.bind_some, hx]
        rfl
    rw [List.map_cons, tokenRows, htail, ih hrest, List.mapIdx_cons, hhead]
    simp only [List.getElem?_tail]
    cases reserves[0]? <;> rfl

theorem poolSnapshot_json {p : Pool} (hp : p.IsProper) (t : SymbolTable) :
    poolSnapshot t p.json = some (poolText t p) := by
  have hid : (p.json.get? "id").bind Json.string? = some p.id :=
    string_eq (isRecord_pool hp) (by simp [Pool.fields])
  obtain ⟨hfee, htvl, hapr⟩ := p.figures_mem
  rw [poolSnapshot, hid, tokens_eq hp, reserves_eq hp, pairName_json hp, figureLine_pool hp hfee,
    figureLine_pool hp htvl, figureLine_pool hp hapr]
  simp only [Option.bind_eq_bind, Option.bind_some, Option.getD_some]
  rw [tokenRows_eq t p.tokens hp.reserves]
  rfl

theorem rankedLine_json {p : Pool} (hp : p.IsProper) (t : SymbolTable) (rank : Nat) :
    rankedLine t rank p.json = rankedText t p rank := by
  obtain ⟨hfee, htvl, hapr⟩ := p.figures_mem
  rw [rankedLine, pairName_json hp, figureOrDash_pool hp hfee, figureOrDash_pool hp htvl,
    figureOrDash_pool hp hapr, rankedText]

theorem rankedLines_eq (t : SymbolTable) (rank : Nat) {pools : List Pool}
    (h : ∀ p ∈ pools, p.IsProper) :
    rankedLines t rank (pools.map Pool.json) = pools.mapIdx fun i p => rankedText t p (rank + i) := by
  induction pools generalizing rank with
  | nil => rfl
  | cons p rest ih =>
    obtain ⟨hp, hrest⟩ := List.forall_mem_cons.mp h
    rw [List.map_cons, rankedLines, rankedLine_json hp, ih (rank + 1) hrest, List.mapIdx_cons]
    simp [Nat.add_right_comm, Nat.add_assoc]

end Layouts

/-- The layout of a report. The input of the call names the asset of a price and the coins of a spot
price. -/
def MarketReport.layout (t : SymbolTable) (input : Json) : MarketReport → String
  | price p =>
    Layouts.priceLine ((((input.get? "symbol").bind Json.string?).map t.displayName).getD "Price") p
  | prices entries =>
    if entries.isEmpty then Layouts.noData
    else Layouts.lines (entries.map fun e => Layouts.priceLine (t.displayName e.1) e.2)
  | pool p => Layouts.poolText t p
  | pools all =>
    if all.isEmpty then "No pools found"
    else Layouts.lines (all.mapIdx fun i p => Layouts.rankedText t p (1 + i))
  | spotPrice x =>
    "1 " ++ Layouts.coinName t input "coin_in" ++ " = " ++ Figures.spot x ++ " " ++
      Layouts.coinName t input "coin_out" ++
      if (input.get? "with_fees").bind Json.bool? = some false then " (before fees)" else ""

/-- A result whose output is a proper report has the layout of the report. -/
theorem MarketReport.layout_eq {report : MarketReport} (hproper : report.IsProper)
    (t : SymbolTable) {r : ActionResult} (hshape : report.shape = r.shape)
    (hjson : report.json = r.output) :
    (Node.ofResult t r).layout? t = some (report.layout t r.input) := by
  rw [Node.layout?, Node.ofResult, ← hshape, ← hjson]
  cases report with
  | price p => exact Layouts.pricedAsset_json hproper _
  | prices entries =>
    have hlines : (entries.map (Prod.map id TokenPrice.json)).map (Layouts.pricedAssetLine t) =
        entries.map fun e => Layouts.priceLine (t.displayName e.1) e.2 := by
      rw [List.map_map]
      refine List.map_congr_left fun e he => ?_
      have hline := Layouts.pricedAsset_json (hproper e he) (t.displayName e.1)
      simp only [Function.comp_apply, Layouts.pricedAssetLine, Prod.map_fst, Prod.map_snd, id_eq,
        hline, Option.getD_some]
    simp only [shape, Layouts.pricedAssetMap, json, Json.fields?, Option.map_some, hlines,
      List.isEmpty_map]
    rfl
  | pool p => exact Layouts.poolSnapshot_json hproper t
  | pools all =>
    simp only [shape, Layouts.poolList, json, Json.items?, Option.map_some, List.isEmpty_map,
      Layouts.rankedLines_eq t 1 hproper]
    rfl
  | spotPrice x =>
    have hx : Json.ofFloat x = .number (.float x) := ofFloat_finite hproper
    simp only [shape, json, hx, Layouts.spotPrice, Json.float?, Option.bind_some, Option.map_some,
      Number.toFloat, layout]
    split
    · next hfees => rw [if_pos hfees]
    · next hfees => rw [if_neg hfees]

end MarketQuery
