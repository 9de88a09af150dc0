import MarketQuery.Proofs.Answer.Advertised
import MarketQuery.Proofs.Tool.PriceLists

/-!
The lines of prices. The layout of a single price, the layout of a map of prices, and the look-up
of a price in a map each put a line together from parts of their own: the label comes from the
input of the call, from the identifier in the map, or from the entry that was found. They make one
line, so that a call for several prices says what calls for its assets say one by one.
-/
namespace MarketQuery

open Layouts

variable {σ : Type}

def Tool.result (tool : Tool σ) (args : Arguments) (output : Json) : ActionResult :=
  ⟨tool.definition.name, args.json, output, tool.definition.output⟩

section Line

variable {source : Provider σ} {t : SymbolTable} {id : String} {p : TokenPrice}

theorem exists_pricedAsset (hp : p.current.isFinite = true) (label : String) :
    ∃ line, pricedAsset label p.json = some line := by
  have hcurrent : figure? p.json "current" = some p.current := by
    have hget : p.json.get? "current" = some (.ofFloat p.current) := by
      simp [TokenPrice.json, Json.get?, Keyed.get?_cons]
    rw [figure?, hget, ofFloat_finite hp]
    rfl
  rw [pricedAsset, hcurrent]
  exact ⟨_, rfl⟩

theorem pricedAsset_eq (hp : p.current.isFinite = true) (t : SymbolTable) (id : String) :
    pricedAsset (t.displayName id) p.json = some (pricedAssetLine t (id, p.json)) := by
  obtain ⟨line, hline⟩ := exists_pricedAsset hp (t.displayName id)
  rw [pricedAssetLine, hline]
  rfl

theorem Node.text_of_label {n : Node} (hp : p.current.isFinite = true) (hvalue : n.value = p.json)
    (hshape : n.shape = some .pricedAsset) (hlabel : n.label = some (t.displayName id)) :
    n.text t = pricedAssetLine t (id, p.json) := by
  rw [text, layout?, hshape, hlabel, hvalue]
  exact congrArg (Option.getD · _) (pricedAsset_eq hp t id)

theorem resultText_tokenPrice (hp : p.current.isFinite = true) :
    Template.resultText t ((MarketTool.tokenPrice source).result [("symbol", .string id)] p.json) =
      pricedAssetLine t (id, p.json) :=
  Node.text_of_label hp rfl rfl rfl

theorem resultText_tokenPrices {args : Arguments} {fields : Fields} (hfields : fields ≠ []) :
    Template.resultText t ((MarketTool.tokenPrices source).result args (.object fields)) =
      lines (fields.map (pricedAssetLine t)) := by
  have hlayout : pricedAssetMap t (.object fields) =
      some (lines (fields.map (pricedAssetLine t))) := by
    rw [pricedAssetMap, Json.fields?, Option.map_some, if_neg (by simpa using hfields)]
  rw [Template.resultText, Node.text]
  exact congrArg (Option.getD · (Node.leaf (.object fields))) hlayout

/-- A price is found in the first result under its identifier. -/
theorem displays_entry {args : Arguments} {fields : Fields} (hp : p.current.isFinite = true)
    (hget : Keyed.get? id fields = some p.json) {segment : Path.Segment}
    (hsegment : segment.asKey = id) (others : List ActionResult) :
    Template.Displays t ((MarketTool.tokenPrices source).result args (.object fields) :: others)
      ⟨.results, [.index 0, segment]⟩ (pricedAssetLine t (id, p.json)) := by
  have hentry : Node.pricedEntry? t (.object fields) segment.asKey =
      some ⟨p.json, some .pricedAsset, some (t.displayName id), none⟩ := by
    simp [Node.pricedEntry?, Json.fields?, hsegment, Keyed.find?_of_get? hget]
  have hleads : Template.Leads
      ((MarketTool.tokenPrices source).result args (.object fields) :: others)
      ⟨.results, [.index 0, segment]⟩ _ [segment] := .number (i := 0) rfl rfl
  refine .of_resolve ((hleads.resolve_eq t).trans ?_)
  have hchild : (Node.ofResult t
      ((MarketTool.tokenPrices source).result args (.object fields))).child? t segment =
      some ⟨p.json, some .pricedAsset, some (t.displayName id), none⟩ := hentry
  rw [Node.walk, hchild]
  exact congrArg some (Node.text_of_label hp rfl rfl rfl)

end Line

namespace MarketTool

/-- A call for the prices of several assets succeeds exactly if the calls for each of them do, and
fails with the error of the first that does not. Its layout is theirs, for each asset once and in
the order of the identifiers, and an identifier leads to its line. -/
theorem tokenPrices_agree {source : Provider σ} {s : σ} (hsteady : source.Steady s)
    (t : SymbolTable) {ids : List String} (hids : ids ≠ []) :
    let callOne (id : String) :=
      (((tokenPrice source).invoke [("symbol", .string id)]).run.run s).1
    let callAll := (((tokenPrices source).invoke [("symbols", .stringList ids)]).run.run s).1
    let resultAll (output : Json) :=
      (tokenPrices source).result [("symbols", .stringList ids)] output
    let textOne (id : String) (output : Json) :=
      Template.resultText t ((tokenPrice source).result [("symbol", .string id)] output)
    ((∃ output, callAll = .ok output) ↔ ∀ id ∈ ids, ∃ output, callOne id = .ok output) ∧
      (∀ e, callAll = .error e ↔ ∃ before id after, ids = before ++ id :: after ∧
        (∀ d ∈ before, ∃ output, callOne d = .ok output) ∧ callOne id = .error e) ∧
      ∀ output, callAll = .ok output →
        (∀ id ∈ ids, ∀ p, source.priceAt s id = .ok p → p.current.isFinite = true) →
        ∃ (distinct : List String) (outputs : String → Json), distinct.Pairwise (· < ·) ∧
          (∀ id, id ∈ distinct ↔ id ∈ ids) ∧ (∀ id ∈ ids, callOne id = .ok (outputs id)) ∧
          Template.resultText t (resultAll output) =
            lines (distinct.map fun id => textOne id (outputs id)) ∧
          ∀ id ∈ ids, ∀ segment : Path.Segment, segment.asKey = id → ∀ others,
            Template.Displays t (resultAll output :: others) ⟨.results, [.index 0, segment]⟩
              (textOne id (outputs id)) := by
  intro callOne callAll resultAll textOne
  refine ⟨exists_tokenPrices_ok_iff hsteady hids,
    fun e => tokenPrices_eq_error_iff hsteady hids, ?_⟩
  intro output houtput hfinite
  obtain ⟨found, hfound, rfl⟩ := (tokenPrices_eq_ok_iff hsteady hids).mp houtput
  obtain ⟨hsorted, hkeys, hprice⟩ := holds_of_collect hfound
  have hne : found ≠ [] := by
    rintro rfl
    obtain ⟨id, hid⟩ := List.exists_mem_of_ne_nil ids hids
    simpa using (hkeys id).mpr hid
  refine ⟨found.map Prod.fst, fun id => (Keyed.get? id found).getD .null,
    List.pairwise_map.mpr hsorted, hkeys, ?_, ?_, ?_⟩
  · intro id hid
    obtain ⟨p, hp, hget⟩ := hprice id hid
    exact tokenPrice_eq_ok_iff.mpr ⟨p, hp, by simp [hget]⟩
  · rw [resultText_tokenPrices hne, List.map_map]
    refine congrArg lines (List.map_congr_left ?_)
    rintro ⟨id, json⟩ he
    have hid := (hkeys id).mp (List.mem_map_of_mem he)
    obtain ⟨p, hp, hget⟩ := hprice id hid
    obtain rfl : p.json = json := Option.some.inj (hget.symm.trans (hsorted.get?_of_mem he))
    simp only [Function.comp_apply, hget, Option.getD_some]
    exact (resultText_tokenPrice (hfinite id hid p hp)).symm
  · intro id hid segment hsegment others
    obtain ⟨p, hp, hget⟩ := hprice id hid
    have hcurrent := hfinite id hid p hp
    have hline : textOne id ((Keyed.get? id found).getD .null) =
        pricedAssetLine t (id, p.json) := by
      rw [hget, Option.getD_some]
      exact resultText_tokenPrice hcurrent
    rw [hline]
    exact displays_entry hcurrent hget hsegment others

/-- Two assets in one list, one of them twice. -/
theorem tokenPrices_agree_repeated :
    let s := (({} : Snapshot).withPrice "0x2::SUI" ⟨1.5, 1.25, 7, 20.0⟩).withPrice "0x5::USDC"
      ⟨1.0, 1.0, 7, 0.0⟩
    let source := s.provider Unit
    let t := SymbolTable.empty.insert "SUI" "0x2::SUI"
    let ids := ["0x5::USDC", "0x2::SUI", "0x5::USDC"]
    ∃ output : Json,
      (((tokenPrices source).invoke [("symbols", .stringList ids)]).run.run ()).1 = .ok output ∧
      (∃ (distinct : List String) (outputs : String → Json), distinct.Pairwise (· < ·) ∧
        (∀ id, id ∈ distinct ↔ id ∈ ids) ∧
        Template.resultText t ((tokenPrices source).result [("symbols", .stringList ids)] output) =
          lines (distinct.map fun id => Template.resultText t
            ((tokenPrice source).result [("symbol", .string id)] (outputs id)))) ∧
      Template.Displays t [(tokenPrices source).result [("symbols", .stringList ids)] output]
        ⟨.results, [.index 0, .key "0x2::SUI"]⟩ "SUI: $1.5000 (+20.00%)" := by
  intro s source t ids
  have hsteady : source.Steady () := fun _ _ => rfl
  have hfinite : ∀ id ∈ ids, ∀ p, source.priceAt () id = .ok p → p.current.isFinite = true := by
    intro id hid p hp
    simp only [ids, List.mem_cons, List.not_mem_nil, or_false] at hid
    rcases hid with rfl | rfl | rfl <;> obtain rfl := Except.ok.inj hp <;> decide +kernel
  obtain ⟨-, -, htext⟩ := tokenPrices_agree hsteady t (List.cons_ne_nil _ _)
  obtain ⟨distinct, outputs, hascending, hmem, houtputs, hlines, hpath⟩ := htext _ rfl hfinite
  refine ⟨_, rfl, ⟨distinct, outputs, hascending, hmem, hlines⟩, ?_⟩
  have hline : Template.resultText t ((tokenPrice source).result [("symbol", .string "0x2::SUI")]
      (TokenPrice.json ⟨1.5, 1.25, 7, 20.0⟩)) = "SUI: $1.5000 (+20.00%)" := by
    decide +kernel
  have hdisplays := hpath "0x2::SUI" (by simp) (.key "0x2::SUI") rfl []
  rw [← Except.ok.inj (houtputs "0x2::SUI" (by simp))] at hdisplays
  dsimp only at hdisplays
  rwa [hline] at hdisplays

end MarketTool

end MarketQuery
