import MarketQuery.Proofs.Market.Encoding
import MarketQuery.Proofs.Query.Contracts
import MarketQuery.Proofs.Query.Declarations
import MarketQuery.Proofs.Query.SymbolLists
import MarketQuery.Proofs.Tool.Integers

/-!
Calls that are made again from their record. The record has every argument as a JSON value, and the
kind of the argument reads this value as the same argument, with one exception: a text may be read
as a float that is not finite, for which the record has a null. Where there is no such argument, and
the table leaves the recorded identifiers as they are, the record is an input for the same call.
-/
namespace MarketQuery

def Argument.isFinite : Argument → Bool
  | number x => x.isFinite
  | _ => true

/-- The table resolves the identifiers in an argument to themselves. -/
def Argument.IsResolved (t : SymbolTable) (a : Argument) : Prop :=
  t.resolveAssets a.json = .ok a.json

theorem Argument.json_of_not_isFinite {a : Argument} (h : a.isFinite = false) :
    a.json = .null := by
  cases a with
  | number x => exact if_neg (Bool.eq_false_iff.mp h)
  | string | integer | boolean | stringList => simp [isFinite] at h

theorem Argument.isNull_json {a : Argument} (h : a.isFinite = true) : a.json.isNull = false := by
  cases a with
  | number x =>
    rw [json, ofFloat_finite h]
    rfl
  | string | integer | boolean | stringList => rfl

namespace ParameterKind

variable {kind : ParameterKind} {v : Json} {a : Argument}

theorem coerce_null (kind : ParameterKind) : kind.coerce .null = .error (.wrongType kind .null) := by
  cases kind <;> rfl

/-- An integer that is accepted is read from the record as it is. -/
theorem lt_of_coerce_integer {i : Int} (h : integer.coerce v = .ok (.integer i)) :
    i < Decimal.signedLimit := by
  cases v with
  | number n =>
    rw [coerce] at h
    cases hread : n.integral? with
    | none => simp [hread] at h
    | some k =>
      obtain rfl : k = i := by simpa [hread] using h
      exact Number.lt_of_integral? hread
  | string s =>
    obtain ⟨k, -, hk, heq⟩ := Json.coerce_integer_string.mp h
    obtain rfl := Argument.integer.inj heq
    exact hk.2
  | null | bool _ | array _ | object _ => simp [coerce] at h

/-- The record of a finite argument is accepted as this argument. -/
theorem coerce_json (h : kind.coerce v = .ok a) (hfinite : a.isFinite = true) :
    kind.coerce a.json = .ok a := by
  obtain rfl := kind_of_coerce h
  cases a with
  | string s => rfl
  | number x =>
    rw [Argument.json, ofFloat_finite hfinite]
    rfl
  | integer i =>
    have hread : (Number.int i).integral? = some i := by
      simp [Number.integral?, Number.int64?, lt_of_coerce_integer h]
    simp [Argument.kind, Argument.json, Json.ofInt, coerce, hread]
  | boolean b => rfl
  | stringList items =>
    simp [Argument.kind, Argument.json, Json.ofStrings, coerce, stringItems_strings, Except.map]

/-- The value is a text for a number, and is read as a float that is not finite. -/
def ReadsUnbounded (kind : ParameterKind) (v : Json) : Prop :=
  kind = .number ∧
    ∃ s x, v = .string s ∧ Decimal.float? (Text.trim s.toList) = some x ∧ x.isFinite = false

/-- Only such a text becomes an argument that is not finite. -/
theorem readsUnbounded_iff (hproper : v.IsProper) (h : kind.coerce v = .ok a) :
    kind.ReadsUnbounded v ↔ a.isFinite = false := by
  constructor
  · rintro ⟨rfl, s, x, rfl, hread, hinfinite⟩
    obtain rfl : .number x = a := by simpa [coerce, hread] using h
    exact hinfinite
  · intro hinfinite
    obtain rfl := kind_of_coerce h
    cases a with
    | string | integer | boolean | stringList => simp [Argument.isFinite] at hinfinite
    | number x =>
      refine ⟨rfl, ?_⟩
      cases v with
      | number n =>
        obtain rfl := Argument.number.inj (Except.ok.inj h)
        have hnumber : n.IsProper := hproper
        exact absurd hnumber.isFinite_toFloat (Bool.eq_false_iff.mp hinfinite)
      | string s =>
        rw [Argument.kind, coerce] at h
        cases hread : Decimal.float? (Text.trim s.toList) with
        | none => simp [hread] at h
        | some y =>
          obtain rfl : y = x := by simpa [hread] using h
          exact ⟨s, y, rfl, hread, hinfinite⟩
      | null | bool _ | array _ | object _ => simp [Argument.kind, coerce] at h

end ParameterKind

namespace ToolDefinition

variable {d : ToolDefinition} {t : SymbolTable} {input fields : Fields} {args : Arguments}

/-- From the record a parameter gets the argument that it had. -/
theorem argument?_recorded {p : Parameter} (h : d.argument? t input p = .ok (args.get? p.name))
    (hfields : Keyed.get? p.name fields = (args.get? p.name).map Argument.json)
    (hfinite : ∀ a, args.get? p.name = some a → a.isFinite = true)
    (hresolved : p.assetReference = true → ∀ a, args.get? p.name = some a → a.IsResolved t) :
    d.argument? t fields p = d.argument? t input p := by
  cases hget : args.get? p.name with
  | none =>
    rw [hget] at h hfields
    obtain ⟨habsent, hoptional⟩ := argument?_eq_none_iff.mp h
    obtain ⟨-, hdefault⟩ := Parameter.isSupplied_eq_false_iff.mp habsent
    have hgiven : p.given? fields = none := by simp [Parameter.given?, hfields]
    have hagain := Parameter.isSupplied_eq_false_iff.mpr ⟨hgiven, hdefault⟩
    rw [h, argument?_of_optional hagain hoptional]
  | some a =>
    rw [hget] at h hfields
    obtain ⟨raw, -, hcoerce⟩ := argument?_eq_some_iff.mp h
    have hnull : a.json.isNull = false := Argument.isNull_json (hfinite a hget)
    have hgiven : p.given? fields = some a.json := by
      simp [Parameter.given?, hfields, Option.filter, hnull]
    have htakes : p.Takes t fields a := by
      refine ⟨a.json, ?_, ParameterKind.coerce_json hcoerce (hfinite a hget)⟩
      cases hasset : p.assetReference with
      | false => exact .plain hasset hgiven
      | true => exact .asset hasset hgiven (hresolved hasset a hget)
    rw [h, argument?_of_takes htakes]

/-- The record of a call is an input for the same call. -/
theorem arguments_recorded (hnames : (d.parameters.map Parameter.name).Nodup)
    (h : d.arguments t input = .ok args) (hfinite : ∀ entry ∈ args, entry.2.isFinite = true)
    (hresolved : ∀ p ∈ d.parameters, p.assetReference = true →
      ∀ a, args.get? p.name = some a → a.IsResolved t) :
    ∃ fields, args.json = .object fields ∧ d.arguments t fields = .ok args := by
  obtain ⟨fields, hjson, -, -, hfields⟩ := (meets_of_arguments hnames h).recorded
  refine ⟨fields, hjson, ?_⟩
  rw [← h]
  refine argumentsOf_congr fun p hp => argument?_recorded (argument?_eq_get? h hnames hp)
    (hfields p.name) (fun a ha => ?_) (hresolved p hp)
  exact hfinite (p.name, a) (Keyed.mem_of_get? ha)

end ToolDefinition

namespace ParameterKind

/-- An accepted argument is accepted again from the record, as itself, exactly if it was not read
from a text as a float that is not finite. Of such a float the record is a null, and from this no
number is read. A call of the catalog is made again from its record, if its arguments are finite and
the table leaves the recorded identifiers as they are. -/
theorem coerce_json_iff {kind : ParameterKind} {v : Json} {a : Argument}
    (hproper : v.IsProper) (h : kind.coerce v = .ok a) :
    (kind.coerce a.json = .ok a ↔ ¬ kind.ReadsUnbounded v) ∧
    (kind.ReadsUnbounded v →
      a.json = .null ∧ kind.coerce a.json = .error (.wrongType .number .null)) ∧
    ∀ {σ : Type} (source : Provider σ) (t : SymbolTable) (action : Action) (tool : Tool σ)
      (args : Arguments), (Registry.standard source).prepare t action = .ok (tool, args) →
      (∀ entry ∈ args, entry.2.isFinite = true) →
      (∀ p ∈ tool.definition.parameters, p.assetReference = true →
        ∀ a, args.get? p.name = some a → a.IsResolved t) →
      ∃ fields, args.json = .object fields ∧
        (Registry.standard source).prepare t ⟨action.tool, fields⟩ = .ok (tool, args) := by
  have hiff := readsUnbounded_iff hproper h
  have hlost (hreads : kind.ReadsUnbounded v) :
      a.json = .null ∧ kind.coerce a.json = .error (.wrongType .number .null) := by
    have hjson := Argument.json_of_not_isFinite (hiff.mp hreads)
    exact ⟨hjson, by rw [hjson, coerce_null, hreads.1]⟩
  refine ⟨⟨fun hagain hreads => ?_, fun hnot => ?_⟩, hlost, ?_⟩
  · rw [(hlost hreads).2] at hagain
    simp at hagain
  · rw [hiff, Bool.not_eq_false] at hnot
    exact coerce_json h hnot
  · intro σ source t action tool args hprepare hfinite hresolved
    obtain ⟨hfind, harguments⟩ := Registry.prepare_eq_ok hprepare
    have hreads : tool.Reads := Tool.reads_catalog tool (Registry.mem_of_find? hfind)
    obtain ⟨fields, hjson, hagain⟩ :=
      ToolDefinition.arguments_recorded hreads.names harguments hfinite hresolved
    refine ⟨fields, hjson, ?_⟩
    simp [Registry.prepare, Registry.lookup, hfind, hagain, Except.map]

/-- Symbols in one text are recorded as a list of identifiers. -/
theorem coerce_json_iff_symbols :
    let t := SymbolTable.empty.insertAll [("sui", "0x2::sui"), ("usdc", "0xdb::usdc")]
    let source := ({} : Snapshot).provider Unit
    let args : Arguments := [("symbols", .stringList ["0x2::sui", "0xdb::usdc"])]
    let ids : Json := .array [.string "0x2::sui", .string "0xdb::usdc"]
    stringList.coerce (.string "0x2::sui, 0xdb::usdc") = stringList.coerce ids ∧
      (Registry.standard source).prepare t ⟨"get_token_prices", [("symbols", .string "SUI, Usdc")]⟩ =
        .ok (MarketTool.tokenPrices source, args) ∧
      (Registry.standard source).prepare t ⟨"get_token_prices", [("symbols", ids)]⟩ =
        .ok (MarketTool.tokenPrices source, args) := by
  intro t source args ids
  have htext : stringList.coerce (.string "0x2::sui, 0xdb::usdc") =
      .ok (.stringList ["0x2::sui", "0xdb::usdc"]) := by
    rfl
  have hproper : Json.IsProper (.string "0x2::sui, 0xdb::usdc") := trivial
  have hnumber : ¬ stringList.ReadsUnbounded (.string "0x2::sui, 0xdb::usdc") := by
    rintro ⟨heq, -⟩
    cases heq
  have hprepare : (Registry.standard source).prepare t
      ⟨"get_token_prices", [("symbols", .string "SUI, Usdc")]⟩ =
        .ok (MarketTool.tokenPrices source, args) := by
    rfl
  have hfinite : ∀ entry ∈ args, entry.2.isFinite = true := List.all_eq_true.mp rfl
  have hresolved : ∀ p ∈ (MarketTool.tokenPrices source).definition.parameters,
      p.assetReference = true → ∀ a, args.get? p.name = some a → a.IsResolved t := by
    intro p hp _ a ha
    obtain rfl := List.mem_singleton.mp hp
    obtain rfl := Option.some.inj ha
    rfl
  obtain ⟨hagain, -, hrecord⟩ := coerce_json_iff hproper htext
  obtain ⟨fields, hjson, hprepared⟩ := hrecord source t _ _ _ hprepare hfinite hresolved
  obtain rfl := Json.object.inj hjson
  exact ⟨htext.trans (hagain.mpr hnumber).symm, hprepare, hprepared⟩

/-- The infinite number is accepted as a text, and refused as it is recorded. -/
theorem coerce_json_unbounded :
    let a : Argument := .number (1.0 / 0.0)
    number.coerce (.string "inf") = .ok a ∧ a.json = .null ∧ number.coerce a.json ≠ .ok a := by
  intro a
  have hjson : a.json = .null := Argument.json_of_not_isFinite rfl
  refine ⟨rfl, hjson, ?_⟩
  rw [hjson, coerce_null]
  simp

end ParameterKind

end MarketQuery
