import MarketQuery.Answer.Template
import MarketQuery.Proofs.Decimal.Finite
import MarketQuery.Proofs.Tool.Reports

/-!
The fields of reports, as the descriptions of output shapes name them, and the paths that lead to
them. A report holds records, each behind a path of its own: none for a single price or pool, an
asset for a map of prices, an index for a list of pools. A path into a record names one of its
fields, or an item of a field that is a list. Walking the JSON of a report along such a path ends at
the JSON of the field, whose text is the one that the field has by itself.
-/
namespace MarketQuery

/-- The names between the inmost braces of a description, without the mark of a list. -/
def OutputShape.fieldNames (shape : OutputShape) : List String :=
  match (shape.describe.toList.splitOn '\x7b').tail.getLast? with
  | none => []
  | some inner =>
    ((inner.takeWhile (· != '\x7d')).splitOn ',').map fun name =>
      String.ofList ((Text.trim name).takeWhile (· != '['))

inductive Datum where
  | number (x : Float)
  | text (s : String)

namespace Datum

def json : Datum → Json
  | number x => .ofFloat x
  | text s => .string s

def shown : Datum → String
  | number x => Figures.number x
  | text s => s

def IsProper : Datum → Prop
  | number x => x.isFinite = true
  | text _ => True

end Datum

inductive FieldValue where
  | one (d : Datum)
  | many (ds : List Datum)

namespace FieldValue

def shown : FieldValue → String
  | one d => d.shown
  | many [] => Layouts.noData
  | many ds => (Json.array (ds.map Datum.json)).pretty

def IsProper : FieldValue → Prop
  | one d => d.IsProper
  | many ds => ∀ d ∈ ds, d.IsProper

inductive SpelledBy : FieldValue → Json → Prop
  | number (n : Number) : SpelledBy (.one (.number n.toFloat)) (.number n)
  | text (s : String) : SpelledBy (.one (.text s)) (.string s)
  | many (ds : List Datum) : SpelledBy (.many ds) (.array (ds.map Datum.json))

theorem SpelledBy.leaf_eq {v : FieldValue} {json : Json} (h : v.SpelledBy json) :
    Node.leaf json = v.shown := by
  cases h with
  | number n => rfl
  | text s => rfl
  | many ds => cases ds <;> rfl

theorem spelledBy_json {d : Datum} (h : d.IsProper) : SpelledBy (.one d) d.json := by
  cases d with
  | number x =>
    rw [Datum.json, ofFloat_finite h]
    exact .number (.float x)
  | text s => exact .text s

end FieldValue

abbrev FieldValues := List (String × FieldValue)

def TokenPrice.fields (p : TokenPrice) : FieldValues :=
  [("current", .one (.number p.current)), ("previous", .one (.number p.previous)),
   ("lastUpdated", .one (.number (Float.ofInt p.lastUpdated))),
   ("priceChange24h", .one (.number p.change24h))]

def Pool.fields (p : Pool) : FieldValues :=
  [("id", .one (.text p.id)), ("tokens", .many (p.tokens.map .text)),
   ("reserves", .many (p.reserves.map .number)), ("fee", .one (.number p.fee)),
   ("tvl", .one (.number p.tvl)), ("apr", .one (.number p.apr))]

theorem Pool.figures_mem (p : Pool) :
    ("fee", .one (.number p.fee)) ∈ p.fields ∧ ("tvl", .one (.number p.tvl)) ∈ p.fields ∧
      ("apr", .one (.number p.apr)) ∈ p.fields := by
  simp [fields]

/-- What a path into a record reads: a field, or an item of a field that is a list. -/
inductive Reads (fields : FieldValues) : List Path.Segment → FieldValue → Prop
  | field {segment : Path.Segment} {v : FieldValue} (h : (segment.asKey, v) ∈ fields) :
      Reads fields [segment] v
  | item {segment index : Path.Segment} {ds : List Datum} {i : Nat} {d : Datum}
      (h : (segment.asKey, .many ds) ∈ fields) (hi : index.asIndex? = some i)
      (hd : ds[i]? = some d) : Reads fields [segment, index] (.one d)

inductive MarketReport.Record : MarketReport → List Path.Segment → FieldValues → Prop
  | price (p : TokenPrice) : Record (.price p) [] p.fields
  | prices {entries : List (String × TokenPrice)} {asset : Path.Segment} {p : TokenPrice}
      (h : Keyed.get? asset.asKey entries = some p) : Record (.prices entries) [asset] p.fields
  | pool (p : Pool) : Record (.pool p) [] p.fields
  | pools {all : List Pool} {index : Path.Segment} {i : Nat} {p : Pool}
      (hi : index.asIndex? = some i) (hp : all[i]? = some p) : Record (.pools all) [index] p.fields

/-- The descriptions name the fields. -/
theorem MarketReport.Record.fieldNames_eq {report : MarketReport} {front : List Path.Segment}
    {fields : FieldValues} (h : report.Record front fields) :
    fields.map Prod.fst = report.shape.fieldNames := by
  have hprice : OutputShape.pricedAsset.fieldNames =
      ["current", "previous", "lastUpdated", "priceChange24h"] := by decide +kernel
  have hprices : OutputShape.pricedAssetMap.fieldNames =
      ["current", "previous", "lastUpdated", "priceChange24h"] := by decide +kernel
  have hpool : OutputShape.poolSnapshot.fieldNames =
      ["id", "tokens", "reserves", "fee", "tvl", "apr"] := by decide +kernel
  have hpools : OutputShape.poolList.fieldNames =
      ["id", "tokens", "reserves", "fee", "tvl", "apr"] := by decide +kernel
  cases h with
  | price p => exact hprice.symm
  | prices h => exact hprices.symm
  | pool p => exact hpool.symm
  | pools hi hp => exact hpools.symm

/-- Every asset in the JSON of a map of prices has a record. -/
theorem MarketReport.exists_record_asset {report : MarketReport}
    (hshape : report.shape = .pricedAssetMap) (asset : Path.Segment) {json : Json}
    (hget : report.json.get? asset.asKey = some json) :
    ∃ p : TokenPrice, report.Record [asset] p.fields := by
  cases report with
  | prices entries =>
    have hmap := Keyed.get?_map TokenPrice.json asset.asKey entries
    rw [show Keyed.get? asset.asKey (entries.map (Prod.map id TokenPrice.json)) = some json from hget]
      at hmap
    obtain ⟨p, hp, -⟩ := Option.map_eq_some_iff.mp hmap.symm
    exact ⟨p, .prices hp⟩
  | _ => cases hshape

/-- Every index into the JSON of a list of pools has a record. -/
theorem MarketReport.exists_record_index {report : MarketReport} (hshape : report.shape = .poolList)
    {index : Path.Segment} {i : Nat} (hi : index.asIndex? = some i) {items : List Json}
    (hitems : report.json.items? = some items) (hlt : i < items.length) :
    ∃ p : Pool, report.Record [index] p.fields := by
  cases report with
  | pools all =>
    obtain rfl : all.map Pool.json = items := Option.some.inj hitems
    rw [List.length_map] at hlt
    exact ⟨all[i], .pools hi (List.getElem?_eq_getElem hlt)⟩
  | _ => cases hshape

namespace Node

variable {t : SymbolTable} {n : Node} {fields : FieldValues}

theorem walk_append (t : SymbolTable) (n : Node) (front back : List Path.Segment) :
    n.walk t (front ++ back) = (n.walk t front).bind fun m => m.walk t back := by
  induction front generalizing n with
  | nil => rfl
  | cons segment rest ih =>
    rw [List.cons_append, walk, walk]
    cases n.child? t segment with
    | none => rfl
    | some next => exact ih next

theorem text_plain (t : SymbolTable) (json : Json) : (plain json).text t = leaf json := rfl

theorem child_of_get {segment : Path.Segment} {json : Json} (hshape : n.shape ≠ some .pricedAssetMap)
    (hget : n.value.get? segment.asKey = some json) : n.child? t segment = some (plain json) := by
  cases hvalue : n.value with
  | object members =>
    rw [hvalue, Json.get?] at hget
    simp only [child?, hvalue, hshape, if_false, hget, Option.map_some]
  | _ => simp [hvalue, Json.get?] at hget

/-- A node at which these fields are looked up by their names. -/
structure IsRecord (n : Node) (fields : FieldValues) : Prop where
  get : ∀ e ∈ fields, e.2.IsProper ∧ ∃ json, n.value.get? e.1 = some json ∧ e.2.SpelledBy json
  shape : n.shape ≠ some .pricedAssetMap

theorem IsRecord.child (h : n.IsRecord fields) {segment : Path.Segment} {v : FieldValue}
    (hv : (segment.asKey, v) ∈ fields) :
    v.IsProper ∧ ∃ json, n.child? t segment = some (plain json) ∧ v.SpelledBy json := by
  obtain ⟨hproper, json, hget, hspelled⟩ := h.get _ hv
  exact ⟨hproper, json, child_of_get h.shape hget, hspelled⟩

/-- Reading a record ends at the JSON of what is read. -/
theorem IsRecord.walk_reads (h : n.IsRecord fields) {segments : List Path.Segment} {v : FieldValue}
    (hreads : Reads fields segments v) :
    v.IsProper ∧ ∃ json, n.walk t segments = some (plain json) ∧ v.SpelledBy json := by
  cases hreads with
  | field hv =>
    obtain ⟨hproper, json, hchild, hspelled⟩ := h.child (t := t) hv
    refine ⟨hproper, json, ?_, hspelled⟩
    rw [walk, hchild]
    rfl
  | @item segment index ds i d hds hi hd =>
    obtain ⟨hproper, json, hchild, hspelled⟩ := h.child (t := t) hds
    have hitem : d.IsProper := hproper d (List.mem_of_getElem? hd)
    refine ⟨hitem, d.json, ?_, FieldValue.spelledBy_json hitem⟩
    cases hspelled
    rw [walk, hchild, Option.bind_some, walk]
    have hnext : child? t (plain (.array (ds.map Datum.json))) index = some (plain d.json) := by
      simp [child?, plain, hi, hd]
    rw [hnext]
    rfl

end Node

theorem TokenPrice.isRecord {p : TokenPrice} (hp : p.IsProper) {n : Node} (hvalue : n.value = p.json)
    (hshape : n.shape ≠ some .pricedAssetMap) : n.IsRecord p.fields := by
  refine ⟨?_, hshape⟩
  intro e he
  rw [hvalue]
  simp only [fields, List.mem_cons, List.not_mem_nil, or_false] at he
  rcases he with rfl | rfl | rfl | rfl
  · exact ⟨hp.current, _, by simp [json, Json.get?, Keyed.get?_cons, Datum.json],
      FieldValue.spelledBy_json hp.current⟩
  · exact ⟨hp.previous, _, by simp [json, Json.get?, Keyed.get?_cons, Datum.json],
      FieldValue.spelledBy_json hp.previous⟩
  · exact ⟨Decimal.isFinite_ofInt hp.time_ge hp.time_lt, _,
      by simp [json, Json.get?, Keyed.get?_cons, Json.ofInt], .number (.int p.lastUpdated)⟩
  · exact ⟨hp.change24h, _, by simp [json, Json.get?, Keyed.get?_cons, Datum.json],
      FieldValue.spelledBy_json hp.change24h⟩

theorem Pool.isRecord {p : Pool} (hp : p.IsProper) {n : Node} (hvalue : n.value = p.json)
    (hshape : n.shape ≠ some .pricedAssetMap) : n.IsRecord p.fields := by
  have htokens : Json.ofStrings p.tokens = .array ((p.tokens.map .text).map Datum.json) := by
    simp [Json.ofStrings, Datum.json]
  have hreserves : (Json.array (p.reserves.map .ofFloat)) =
      .array ((p.reserves.map .number).map Datum.json) := by
    simp [Datum.json]
  refine ⟨?_, hshape⟩
  intro e he
  rw [hvalue]
  simp only [fields, List.mem_cons, List.not_mem_nil, or_false] at he
  rcases he with rfl | rfl | rfl | rfl | rfl | rfl
  · exact ⟨trivial, _, by simp [json, Json.get?, Keyed.get?_cons], .text p.id⟩
  · refine ⟨?_, _, by simp [json, Json.get?, Keyed.get?_cons, htokens], .many _⟩
    simp [FieldValue.IsProper, Datum.IsProper]
  · refine ⟨?_, _, by simp [json, Json.get?, Keyed.get?_cons, hreserves], .many _⟩
    simpa [FieldValue.IsProper, Datum.IsProper] using hp.reserves
  · exact ⟨hp.fee, _, by simp [json, Json.get?, Keyed.get?_cons, Datum.json], FieldValue.spelledBy_json hp.fee⟩
  · exact ⟨hp.tvl, _, by simp [json, Json.get?, Keyed.get?_cons, Datum.json], FieldValue.spelledBy_json hp.tvl⟩
  · exact ⟨hp.apr, _, by simp [json, Json.get?, Keyed.get?_cons, Datum.json], FieldValue.spelledBy_json hp.apr⟩

namespace MarketReport

variable {report : MarketReport} {t : SymbolTable} {n : Node}

/-- The path of a record leads to it. -/
theorem Record.walk_front {front : List Path.Segment} {fields : FieldValues}
    (h : report.Record front fields) (hproper : report.IsProper) (hvalue : n.value = report.json)
    (hshape : n.shape = some report.shape) :
    ∃ m, n.walk t front = some m ∧ m.IsRecord fields := by
  cases h with
  | price p => exact ⟨n, rfl, TokenPrice.isRecord hproper hvalue (by simp [hshape, shape])⟩
  | @prices entries asset p hget =>
    have hfind := Keyed.find?_of_get? ((Keyed.get?_map TokenPrice.json _ entries).trans
      (congrArg (Option.map TokenPrice.json) hget))
    have hchild : n.child? t asset =
        some ⟨p.json, some .pricedAsset, some (t.displayName asset.asKey), none⟩ := by
      simp only [Node.child?, hvalue, json, hshape, shape, if_true, Node.pricedEntry?, Json.fields?]
      simp [hfind]
    refine ⟨_, by rw [Node.walk, hchild]; rfl, TokenPrice.isRecord ?_ rfl (by simp)⟩
    exact hproper _ (Keyed.mem_of_get? hget)
  | pool p => exact ⟨n, rfl, Pool.isRecord hproper hvalue (by simp [hshape, shape])⟩
  | @pools all index i p hi hp =>
    have hchild : n.child? t index = some ⟨p.json, some .poolSnapshot, none, none⟩ := by
      simp [Node.child?, Node.plain, hvalue, json, hshape, shape, hi, hp]
    refine ⟨_, by rw [Node.walk, hchild]; rfl, Pool.isRecord ?_ rfl (by simp)⟩
    exact hproper p (List.mem_of_getElem? hp)

/-- A path to a field of a report leads to a value with the text of the field. -/
theorem Record.text_eq {front back : List Path.Segment} {fields : FieldValues} {v : FieldValue}
    (h : report.Record front fields) (hreads : Reads fields back v) (hproper : report.IsProper)
    (hvalue : n.value = report.json) (hshape : n.shape = some report.shape) :
    v.IsProper ∧ (n.walk t (front ++ back)).map (Node.text t) = some v.shown := by
  obtain ⟨m, hfront, hrecord⟩ := h.walk_front (t := t) hproper hvalue hshape
  obtain ⟨hv, json, hback, hspelled⟩ := hrecord.walk_reads (t := t) hreads
  refine ⟨hv, ?_⟩
  rw [Node.walk_append, hfront, Option.bind_some, hback, Option.map_some, Node.text_plain,
    hspelled.leaf_eq]

end MarketReport

end MarketQuery
