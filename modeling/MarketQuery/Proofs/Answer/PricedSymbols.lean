import MarketQuery.Proofs.Answer.PriceLines
import MarketQuery.Proofs.Symbol.Inverse
import MarketQuery.Proofs.Text.LowerCase

/-!
Prices by symbol. The keys of a map of prices are identifiers, and a name that is no key is looked
up among the display names of the keys, in their order. The names of a table are in upper case, so
that the look-up, which has no regard to case, does not confuse two of them: a symbol leads to the
identifier whose display symbol it is. Another symbol of the same identifier, which the table
resolves as well, leads nowhere.
-/
namespace MarketQuery

open Node (sameName)

namespace SymbolTable

variable {t : SymbolTable} {symbol other id key : String}

theorem Reachable.sameName_iff (ht : t.Reachable) (hsymbol : Keyed.get? symbol t.ids = some id)
    (hother : Keyed.get? other t.ids = some key) :
    sameName symbol other = true ↔ symbol = other := by
  constructor
  · intro h
    have hmap := beq_iff_eq.mp h
    rw [← ht.normal symbol id hsymbol, ← ht.normal other key hother] at hmap ⊢
    exact Text.upper_eq_of_map_toLower hmap
  · rintro rfl
    exact beq_self_eq_true _

/-- Among the identifiers of the table only one displays like a symbol: the one whose display symbol
it is. -/
theorem Reachable.displaysAs_iff (ht : t.Reachable) (hkey : t.Points key)
    (hsymbol : Keyed.get? symbol t.ids = some id) :
    sameName (t.displayName key) symbol = true ↔ t.symbolFor key = some symbol := by
  obtain ⟨shown, hshown⟩ := Option.isSome_iff_exists.mp
    ((ht.consistent.isSome_symbolFor_iff key).mpr hkey)
  rw [displayName, hshown, Option.some.injEq]
  exact ht.sameName_iff (ht.consistent.points hshown) hsymbol

end SymbolTable

namespace Keyed

variable {α : Type} {entries : List (String × α)}

theorem Sorted.find?_eq_some_iff (hsorted : Sorted entries) {p : String × α → Bool}
    {e : String × α} :
    entries.find? p = some e ↔
      e ∈ entries ∧ p e = true ∧ ∀ d ∈ entries, d.1 < e.1 → p d = false := by
  rw [List.find?_eq_some_iff_append]
  constructor
  · rintro ⟨hp, before, after, rfl, hbefore⟩
    refine ⟨by simp, hp, fun d hd hlt => ?_⟩
    rcases List.mem_append.mp hd with hd | hd
    · simpa using hbefore d hd
    · -- What stands at the entry or behind it has no smaller key.
      obtain ⟨hbehind, -⟩ := List.pairwise_cons.mp (List.pairwise_append.mp hsorted).2.1
      rcases List.mem_cons.mp hd with rfl | hd
      · exact absurd hlt (String.lt_irrefl _)
      · exact absurd hlt (String.lt_asymm (hbehind d hd))
  · rintro ⟨hmem, hp, hsmaller⟩
    obtain ⟨before, after, rfl⟩ := List.append_of_mem hmem
    refine ⟨hp, before, after, rfl, fun d hd => ?_⟩
    have hlt := (List.pairwise_append.mp hsorted).2.2 d hd e List.mem_cons_self
    simp [hsmaller d (by simp [hd]) hlt]

theorem find?_eq_none_of_get? {key : String} (h : get? key entries = none) :
    entries.find? (fun e => e.1 = key) = none := by
  rw [List.find?_eq_none]
  rintro ⟨k, v⟩ hmem hkey
  have hsome := isSome_get?_iff.mpr (List.mem_map_of_mem hmem)
  rw [of_decide_eq_true hkey, h] at hsome
  simp at hsome

end Keyed

namespace Node

variable {t : SymbolTable} {name id : String} {fields : Fields} {v : Json}

def entryNamed? (t : SymbolTable) (map : Json) (name : String) : Option (String × Json) :=
  map.fields?.bind fun fields =>
    (fields.find? fun e => e.1 = name).or (fields.find? fun e => sameName (t.displayName e.1) name)

def ofEntry (t : SymbolTable) (e : String × Json) : Node :=
  ⟨e.2, some .pricedAsset, some (t.displayName e.1), none⟩

theorem pricedEntry?_eq (t : SymbolTable) (map : Json) (name : String) :
    pricedEntry? t map name = (entryNamed? t map name).map (ofEntry t) := by
  unfold pricedEntry? entryNamed?
  cases map.fields? with
  | none => rfl
  | some fields => exact (Option.map_eq_bind ..).symm

/-- An identifier stands for its own entry, and any other name for the first entry that displays
like it. -/
theorem entryNamed?_eq_some_iff (hsorted : Keyed.Sorted fields) :
    entryNamed? t (.object fields) name = some (id, v) ↔
      Keyed.get? id fields = some v ∧ (name = id ∨
        Keyed.get? name fields = none ∧ sameName (t.displayName id) name = true ∧
          ∀ e ∈ fields, e.1 < id → sameName (t.displayName e.1) name = false) := by
  rw [entryNamed?, Json.fields?, Option.bind_some]
  cases hname : Keyed.get? name fields with
  | some w =>
    rw [Keyed.find?_of_get? hname]
    constructor
    · intro h
      obtain ⟨rfl, rfl⟩ := Prod.mk.inj (Option.some.inj h)
      exact ⟨hname, .inl rfl⟩
    · rintro ⟨hid, rfl | ⟨hnone, -⟩⟩
      · rw [hname] at hid
        rw [Option.some.inj hid]
        rfl
      · simp at hnone
  | none =>
    have hne : Keyed.get? id fields = some v → name ≠ id := by
      rintro hid rfl
      simp [hname] at hid
    rw [Keyed.find?_eq_none_of_get? hname, Option.none_or, hsorted.find?_eq_some_iff,
      ← hsorted.get?_eq_some_iff]
    constructor
    · rintro ⟨hid, hlike, hsmaller⟩
      exact ⟨hid, .inr ⟨rfl, hlike, hsmaller⟩⟩
    · rintro ⟨hid, heq | ⟨-, hlike, hsmaller⟩⟩
      · exact absurd heq (hne hid)
      · exact ⟨hid, hlike, hsmaller⟩

end Node

namespace MarketTool

variable {σ : Type} {source : Provider σ} {t : SymbolTable} {args : Arguments} {output : Json}
  {symbol id : String}

/-- The symbol finds the asset's entry: it is the asset's identifier itself, or it is the key of no
entry and the display symbol of the asset, and no identifier before it that the table does not know
ends like it. -/
def Finds (t : SymbolTable) (output : Json) (symbol id : String) : Prop :=
  symbol = id ∨ output.get? symbol = none ∧ t.symbolFor id = some symbol ∧
    ∀ key, (output.get? key).isSome = true → key < id → t.Points key ∨
      sameName (t.displayName key) symbol = false

/-- An identifier of the table displays like no symbol of another one. -/
theorem sameName_eq_false (ht : t.Reachable) (hsymbol : Keyed.get? symbol t.ids = some id)
    {key : String} (hkey : t.Points key) (hne : key ≠ id) :
    sameName (t.displayName key) symbol = false := by
  rw [Bool.eq_false_iff, ne_eq, ht.displaysAs_iff hkey hsymbol]
  intro hshown
  have hsame := (ht.consistent.points hshown).symm.trans hsymbol
  exact hne (Option.some.inj hsame)

theorem entryNamed?_eq_some_iff_finds (ht : t.Reachable)
    (hsymbol : Keyed.get? symbol t.ids = some id) {fields : Fields}
    (hsorted : Keyed.Sorted fields) {price : Json}
    (hprice : Keyed.get? id fields = some price) :
    Node.entryNamed? t (.object fields) symbol = some (id, price) ↔
      Finds t (.object fields) symbol id := by
  rw [Node.entryNamed?_eq_some_iff hsorted, Finds, ht.displaysAs_iff ⟨symbol, hsymbol⟩ hsymbol]
  constructor
  · rintro ⟨-, heq | ⟨hnone, hshown, hsmaller⟩⟩
    · exact .inl heq
    · refine .inr ⟨hnone, hshown, fun key hkey hlt => .inr ?_⟩
      obtain ⟨v, hv⟩ := Option.isSome_iff_exists.mp hkey
      exact hsmaller (key, v) (Keyed.mem_of_get? hv) hlt
  · rintro (heq | ⟨hnone, hshown, hsmaller⟩)
    · exact ⟨hprice, .inl heq⟩
    · refine ⟨hprice, .inr ⟨hnone, hshown, ?_⟩⟩
      rintro ⟨key, v⟩ hmem hlt
      have hkey : ((Json.object fields).get? key).isSome = true :=
        Option.isSome_iff_exists.mpr ⟨v, hsorted.get?_of_mem hmem⟩
      rcases hsmaller key hkey hlt with hpoints | hfalse
      · exact sameName_eq_false ht hsymbol hpoints (by rintro rfl; exact String.lt_irrefl _ hlt)
      · exact hfalse

/-- Another symbol of the asset finds nothing among identifiers that the table knows. -/
theorem entryNamed?_eq_none (ht : t.Reachable) (hsymbol : Keyed.get? symbol t.ids = some id)
    {fields : Fields} (hsorted : Keyed.Sorted fields) (hnone : Keyed.get? symbol fields = none)
    (hother : t.symbolFor id ≠ some symbol)
    (hknown : ∀ key, (Keyed.get? key fields).isSome = true → t.Points key) :
    Node.entryNamed? t (.object fields) symbol = none := by
  rw [Node.entryNamed?, Json.fields?, Option.bind_some, Keyed.find?_eq_none_of_get? hnone,
    Option.none_or, List.find?_eq_none]
  rintro ⟨key, v⟩ hmem
  have hkey := hknown key (Option.isSome_iff_exists.mpr ⟨v, hsorted.get?_of_mem hmem⟩)
  rw [ht.displaysAs_iff hkey hsymbol]
  intro hshown
  have hsame := (ht.consistent.points hshown).symm.trans hsymbol
  exact hother (Option.some.inj hsame ▸ hshown)

/-- A path that goes on with a name inside the result reads the entry of the name. -/
theorem resolve_entry {results : List ActionResult} {path : Path} {segment : Path.Segment}
    {rest : List Path.Segment} {fields : Fields}
    (h : Template.Leads results path ((tokenPrices source).result args (.object fields))
      (segment :: rest)) :
    Template.resolve? t results path =
      ((Node.entryNamed? t (.object fields) segment.asKey).bind fun e =>
        (Node.ofEntry t e).walk t rest).map (Node.text t) := by
  have hchild : (Node.ofResult t ((tokenPrices source).result args (.object fields))).child? t
      segment = Node.pricedEntry? t (.object fields) segment.asKey := rfl
  rw [h.resolve_eq t, Node.walk, hchild, Node.pricedEntry?_eq, Option.bind_map]
  rfl

theorem text_current {p : TokenPrice} (hp : p.current.isFinite = true) :
    ((Node.ofEntry t (id, p.json)).walk t [.key "current"]).map (Node.text t) =
      some (Figures.number p.current) := by
  have hget : (Node.ofEntry t (id, p.json)).value.get? (Path.Segment.key "current").asKey =
      some (.number (.float p.current)) := by
    rw [← ofFloat_finite hp]
    simp [Node.ofEntry, TokenPrice.json, Json.get?, Keyed.get?_cons, Path.Segment.asKey]
  rw [Node.walk, Node.child_of_get (by simp [Node.ofEntry]) hget]
  rfl

/-- Whether a symbol of the table can be used to read the price of its asset in a result. It can
exactly if it finds the asset's entry, and then paths that use it lead to the price. If the table
knows all identifiers in the result, a symbol that is none of them and that is not the display
symbol of its asset leads nowhere. -/
theorem price_by_symbol_iff {w w' : σ}
    (hrun : ((tokenPrices source).invoke args).run.run w = (.ok output, w')) (ht : t.Reachable)
    (hsymbol : (symbol, id) ∈ t.entries) {p : TokenPrice} (hp : p.current.isFinite = true)
    (hprice : output.get? id = some p.json) :
    let r := (tokenPrices source).result args output
    (Node.entryNamed? t output symbol = some (id, p.json) ↔ Finds t output symbol id) ∧
      (Finds t output symbol id → ∀ results path segment, segment.asKey = symbol →
        Template.Leads results path r [segment, .key "current"] →
        Template.Displays t results path (Figures.number p.current)) ∧
      ((∀ key, (output.get? key).isSome = true → t.Points key) → output.get? symbol = none →
        t.symbolFor id ≠ some symbol → ∀ results path segment rest, segment.asKey = symbol →
        Template.Leads results path r (segment :: rest) →
        Template.resolve? t results path = none) := by
  intro r
  obtain ⟨fields, hsorted, rfl⟩ := exists_sorted_of_tokenPrices hrun
  have hpoints : Keyed.get? symbol t.ids = some id := ht.consistent.sorted.get?_of_mem hsymbol
  have hfinds := entryNamed?_eq_some_iff_finds ht hpoints hsorted hprice
  refine ⟨hfinds, fun h results path segment hsegment hleads => ?_,
    fun hknown hnone hother results path segment rest hsegment hleads => ?_⟩
  · refine .of_resolve ((resolve_entry hleads).trans ?_)
    rw [hsegment, hfinds.mpr h, Option.bind_some]
    exact text_current hp
  · rw [resolve_entry hleads, hsegment,
      entryNamed?_eq_none ht hpoints hsorted hnone hother hknown]
    rfl

/-- Two symbols of one asset: the one that it is displayed by leads to its price, and the other one
leads nowhere. -/
theorem price_by_symbol_iff_synonyms :
    let p : TokenPrice := ⟨1.5, 1.25, 7, 20.0⟩
    let source := (({} : Snapshot).withPrice "0x2::SUI" p).provider Unit
    let t := SymbolTable.empty.insertAll [("SUI", "0x2::SUI"), ("GAS", "0x2::SUI")]
    let args : Arguments := [("symbols", .stringList ["0x2::SUI"])]
    let output : Json := .object [("0x2::SUI", p.json)]
    let results := [(tokenPrices source).result args output]
    ((tokenPrices source).invoke args).run.run () = (.ok output, ()) ∧
      t.entries = [("GAS", "0x2::SUI"), ("SUI", "0x2::SUI")] ∧
      Template.Displays t results ⟨.result, [.key "SUI", .key "current"]⟩ "1.500" ∧
      Template.resolve? t results ⟨.result, [.key "GAS", .key "current"]⟩ = none := by
  intro p source t args output results
  have ht : t.Reachable := ⟨_, rfl⟩
  have hrun : ((tokenPrices source).invoke args).run.run () = (.ok output, ()) := rfl
  have hentries : t.entries = [("GAS", "0x2::SUI"), ("SUI", "0x2::SUI")] := by decide +kernel
  have hsui : ("SUI", "0x2::SUI") ∈ t.entries := by simp [hentries]
  have hgas : ("GAS", "0x2::SUI") ∈ t.entries := by simp [hentries]
  have hp : p.current.isFinite = true := by decide +kernel
  have hprice : output.get? "0x2::SUI" = some p.json := rfl
  have hshown : t.symbolFor "0x2::SUI" = some "SUI" := by decide +kernel
  have hkeys : ∀ key, (output.get? key).isSome = true → key = "0x2::SUI" := by
    intro key hkey
    simpa [output, Json.get?, Keyed.get?_cons, Keyed.get?_nil] using hkey
  refine ⟨hrun, hentries, ?_, ?_⟩
  · obtain ⟨-, hdisplays, -⟩ := price_by_symbol_iff hrun ht hsui hp hprice
    have hfinds : Finds t output "SUI" "0x2::SUI" := by
      refine .inr ⟨rfl, hshown, fun key hkey hlt => ?_⟩
      exact absurd (hkeys key hkey ▸ hlt) (String.lt_irrefl _)
    have hcurrent : Figures.number p.current = "1.500" := by decide +kernel
    exact hcurrent ▸ hdisplays hfinds results _ (.key "SUI") rfl (.first rfl)
  · obtain ⟨-, -, hnowhere⟩ := price_by_symbol_iff hrun ht hgas hp hprice
    refine hnowhere ?_ rfl ?_ results _ (.key "GAS") _ rfl (.first rfl)
    · intro key hkey
      rw [hkeys key hkey]
      exact ⟨"SUI", by decide +kernel⟩
    · rw [hshown]
      decide

/-- The table resolves `GAS` and lists it, but the placeholder that uses it stays. -/
theorem placeholder_of_synonym_stays :
    let p : TokenPrice := ⟨1.23, 1.2, 0, 2.5⟩
    let source := (({} : Snapshot).withPrice Coin.sui p).provider Unit
    let t := SymbolTable.empty.insertAll [("SUI", Coin.sui), ("GAS", Coin.sui)]
    let args : Arguments := [("symbols", .stringList [Coin.sui])]
    let output : Json := .object [(Coin.sui, p.json)]
    let results := [(tokenPrices source).result args output]
    let template := "$\x7bresults['get_token_prices']['GAS'].current\x7d"
    t.Reachable ∧ ("GAS", Coin.sui) ∈ t.entries ∧ t.resolve "GAS" = .ok Coin.sui ∧
      ((tokenPrices source).invoke args).run.run () = (.ok output, ()) ∧
      Template.render t template results = template := by
  intro p source t args output results template
  refine ⟨⟨_, rfl⟩, ?_, rfl, rfl, ?_⟩
  · decide +kernel
  · decide +kernel

end MarketTool

end MarketQuery
