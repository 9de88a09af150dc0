import Mathlib.Data.List.Forall2
import MarketQuery.Market.Snapshot
import MarketQuery.Proofs.Query.Arguments
import MarketQuery.Query.Prompt
import MarketQuery.Symbol.Coins
import MarketQuery.Tool.Market

/-!
What an input has to bring for the parameters that a tool declares. A parameter has a value if the
input gives one or the declaration does. It is accepted if its value can be resolved and coerced, or
if it has none and need not have one. The arguments of a call go through the parameters in order:
each accepted one adds its argument, and the first that is not accepted decides the error. So the
list of arguments, the look-up by name, the recorded object and the required names in the prompt
all say the same about which parameters have a value.
-/
namespace MarketQuery

namespace Parameter

/-- The value that the input has for the parameter. Null counts as absent. -/
def given? (p : Parameter) (input : Fields) : Option Json :=
  (Keyed.get? p.name input).filter fun v => !v.isNull

def isSupplied (p : Parameter) (input : Fields) : Bool :=
  (p.given? input).isSome || p.default.isSome

/-- The value of the parameter before coercion. A default is not resolved. -/
inductive Raw (p : Parameter) (t : SymbolTable) (input : Fields) : Json → Prop
  | asset {v raw : Json} (hasset : p.assetReference = true) (hgiven : p.given? input = some v)
      (hresolve : t.resolveAssets v = .ok raw) : Raw p t input raw
  | plain {v : Json} (hasset : p.assetReference = false) (hgiven : p.given? input = some v) :
      Raw p t input v
  | default {v : Json} (habsent : p.given? input = none) (hdefault : p.default = some v) :
      Raw p t input v

def Takes (p : Parameter) (t : SymbolTable) (input : Fields) (a : Argument) : Prop :=
  ∃ raw, p.Raw t input raw ∧ p.kind.coerce raw = .ok a

/-- The value of the parameter resolves and coerces. If it has none, none is required. -/
structure Accepted (p : Parameter) (t : SymbolTable) (input : Fields) : Prop where
  takes : p.isSupplied input = true → ∃ a, p.Takes t input a
  optional : p.isSupplied input = false → p.required = false

variable {p : Parameter} {t : SymbolTable} {input : Fields}

theorem isSupplied_eq_false_iff :
    p.isSupplied input = false ↔ p.given? input = none ∧ p.default = none := by
  simp [isSupplied]

theorem Raw.isSupplied {raw : Json} (h : p.Raw t input raw) : p.isSupplied input = true := by
  cases h with
  | asset hasset hgiven hresolve => simp [Parameter.isSupplied, hgiven]
  | plain hasset hgiven => simp [Parameter.isSupplied, hgiven]
  | default habsent hdefault => simp [Parameter.isSupplied, hdefault]

theorem Takes.kind {a : Argument} (h : p.Takes t input a) : a.kind = p.kind := by
  obtain ⟨raw, -, hcoerce⟩ := h
  exact ParameterKind.kind_of_coerce hcoerce

theorem Takes.accepted {a : Argument} (h : p.Takes t input a) : p.Accepted t input where
  takes _ := ⟨a, h⟩
  optional hnot := by
    obtain ⟨raw, hraw, -⟩ := h
    simp [hraw.isSupplied] at hnot

end Parameter

namespace SymbolTable

variable {t : SymbolTable} {e : QueryError}

theorem resolveOrFail_eq_error {symbol : String} (h : t.resolveOrFail symbol = .error e) :
    ∃ s, e = .unknownSymbol s := by
  unfold resolveOrFail at h
  split at h
  · simp at h
  · exact ⟨_, (Except.error.inj h).symm⟩

theorem resolveAll_eq_error {symbols : List String} (h : t.resolveAll symbols = .error e) :
    ∃ s, e = .unknownSymbol s := by
  induction symbols with
  | nil => simp [resolveAll] at h
  | cons symbol rest ih =>
    simp only [resolveAll] at h
    split at h
    · next hsymbol =>
      obtain rfl := Except.error.inj h
      exact resolveOrFail_eq_error hsymbol
    · exact ih (Outcome.map_eq_error_iff.mp h)

theorem resolveItems_eq_error {items : List Json} (h : t.resolveItems items = .error e) :
    ∃ s, e = .unknownSymbol s := by
  induction items with
  | nil => simp [resolveItems] at h
  | cons item rest ih =>
    cases item with
    | string symbol =>
      simp only [resolveItems] at h
      split at h
      · next hsymbol =>
        obtain rfl := Except.error.inj h
        exact resolveOrFail_eq_error hsymbol
      · exact ih (Outcome.map_eq_error_iff.mp h)
    | null | bool _ | number _ | array _ | object _ => exact ih (Outcome.map_eq_error_iff.mp h)

/-- A value that does not resolve has a symbol that the table does not know. -/
theorem resolveAssets_eq_error {v : Json} (h : t.resolveAssets v = .error e) :
    ∃ s, e = .unknownSymbol s := by
  cases v with
  | string text =>
    have htext : t.resolveText text = .error e := Outcome.map_eq_error_iff.mp h
    unfold resolveText at htext
    split at htext
    · exact resolveAll_eq_error (Outcome.map_eq_error_iff.mp htext)
    · exact resolveOrFail_eq_error htext
  | array items => exact resolveItems_eq_error (Outcome.map_eq_error_iff.mp h)
  | null | bool _ | number _ | object _ => simp [resolveAssets] at h

end SymbolTable

namespace ToolDefinition

variable {d : ToolDefinition} {t : SymbolTable} {input : Fields} {p : Parameter}

inductive Refuses (d : ToolDefinition) (t : SymbolTable) (input : Fields) (p : Parameter) :
    QueryError → Prop
  | unresolved {v : Json} {symbol : String} (hasset : p.assetReference = true)
      (hgiven : p.given? input = some v)
      (hresolve : t.resolveAssets v = .error (.unknownSymbol symbol)) :
      Refuses d t input p (.unknownSymbol symbol)
  | invalid {raw : Json} {fault : CoercionFault} (hraw : p.Raw t input raw)
      (hcoerce : p.kind.coerce raw = .error fault) :
      Refuses d t input p (.invalidParameter d.name p.name fault)
  | missing (habsent : p.isSupplied input = false) (hrequired : p.required = true) :
      Refuses d t input p (.missingParameter d.name p.name)

theorem rawValue_eq (d : ToolDefinition) (t : SymbolTable) (input : Fields) (p : Parameter) :
    d.rawValue t input p =
      match p.given? input with
      | some v => if p.assetReference then (t.resolveAssets v).map some else .ok (some v)
      | none =>
        match p.default with
        | some default => .ok (some default)
        | none => if p.required then .error (.missingParameter d.name p.name) else .ok none :=
  rfl

theorem rawValue_of_raw {raw : Json} (h : p.Raw t input raw) :
    d.rawValue t input p = .ok (some raw) := by
  cases h with
  | asset hasset hgiven hresolve => simp [rawValue_eq, hasset, hgiven, hresolve, Except.map]
  | plain hasset hgiven => simp [rawValue_eq, hasset, hgiven]
  | default habsent hdefault => simp [rawValue_eq, habsent, hdefault]

theorem argument?_of_takes {a : Argument} (h : p.Takes t input a) :
    d.argument? t input p = .ok (some a) := by
  obtain ⟨raw, hraw, hcoerce⟩ := h
  simp [argument?, rawValue_of_raw hraw, hcoerce]

theorem argument?_of_optional (habsent : p.isSupplied input = false)
    (hoptional : p.required = false) : d.argument? t input p = .ok none := by
  obtain ⟨hgiven, hdefault⟩ := Parameter.isSupplied_eq_false_iff.mp habsent
  simp [argument?, rawValue_eq, hgiven, hdefault, hoptional]

theorem argument?_of_refuses {e : QueryError} (h : d.Refuses t input p e) :
    d.argument? t input p = .error e := by
  cases h with
  | unresolved hasset hgiven hresolve =>
    simp [argument?, rawValue_eq, hasset, hgiven, hresolve, Except.map]
  | invalid hraw hcoerce => simp [argument?, rawValue_of_raw hraw, hcoerce]
  | missing habsent hrequired =>
    obtain ⟨hgiven, hdefault⟩ := Parameter.isSupplied_eq_false_iff.mp habsent
    simp [argument?, rawValue_eq, hgiven, hdefault, hrequired]

theorem takes_or_refuses {raw : Json} (h : p.Raw t input raw) :
    (∃ a, p.Takes t input a) ∨ ∃ e, d.Refuses t input p e := by
  cases hcoerce : p.kind.coerce raw with
  | ok a => exact .inl ⟨a, raw, h, hcoerce⟩
  | error fault => exact .inr ⟨_, .invalid h hcoerce⟩

/-- There is no fourth case. -/
theorem verdict (d : ToolDefinition) (t : SymbolTable) (input : Fields) (p : Parameter) :
    (∃ a, p.Takes t input a) ∨ (p.isSupplied input = false ∧ p.required = false) ∨
      ∃ e, d.Refuses t input p e := by
  cases hgiven : p.given? input with
  | some v =>
    cases hasset : p.assetReference with
    | true =>
      cases hresolve : t.resolveAssets v with
      | ok raw =>
        have hraw : p.Raw t input raw := .asset hasset hgiven hresolve
        exact (takes_or_refuses hraw).imp_right .inr
      | error e =>
        obtain ⟨symbol, rfl⟩ := SymbolTable.resolveAssets_eq_error hresolve
        exact .inr (.inr ⟨_, .unresolved hasset hgiven hresolve⟩)
    | false =>
      have hraw : p.Raw t input v := .plain hasset hgiven
      exact (takes_or_refuses hraw).imp_right .inr
  | none =>
    cases hdefault : p.default with
    | some v =>
      have hraw : p.Raw t input v := .default hgiven hdefault
      exact (takes_or_refuses hraw).imp_right .inr
    | none =>
      have habsent := Parameter.isSupplied_eq_false_iff.mpr ⟨hgiven, hdefault⟩
      cases hrequired : p.required with
      | true => exact .inr (.inr ⟨_, .missing habsent hrequired⟩)
      | false => exact .inr (.inl ⟨habsent, rfl⟩)

theorem argument?_eq_some_iff {a : Argument} :
    d.argument? t input p = .ok (some a) ↔ p.Takes t input a := by
  constructor
  · intro h
    rcases verdict d t input p with ⟨found, hfound⟩ | ⟨habsent, hoptional⟩ | ⟨e, he⟩
    · rw [argument?_of_takes hfound] at h
      obtain rfl := Option.some.inj (Except.ok.inj h)
      exact hfound
    · simp [argument?_of_optional habsent hoptional] at h
    · simp [argument?_of_refuses he] at h
  · exact argument?_of_takes

theorem argument?_eq_none_iff :
    d.argument? t input p = .ok none ↔ p.isSupplied input = false ∧ p.required = false := by
  constructor
  · intro h
    rcases verdict d t input p with ⟨a, ha⟩ | hnone | ⟨e, he⟩
    · simp [argument?_of_takes ha] at h
    · exact hnone
    · simp [argument?_of_refuses he] at h
  · rintro ⟨habsent, hoptional⟩
    exact argument?_of_optional habsent hoptional

theorem argument?_eq_error_iff {e : QueryError} :
    d.argument? t input p = .error e ↔ d.Refuses t input p e := by
  constructor
  · intro h
    rcases verdict d t input p with ⟨a, ha⟩ | ⟨habsent, hoptional⟩ | ⟨cause, hcause⟩
    · simp [argument?_of_takes ha] at h
    · simp [argument?_of_optional habsent hoptional] at h
    · rw [argument?_of_refuses hcause] at h
      obtain rfl := Except.error.inj h
      exact hcause
  · exact argument?_of_refuses

theorem exists_argument?_iff :
    (∃ found, d.argument? t input p = .ok found) ↔ p.Accepted t input := by
  constructor
  · rintro ⟨_ | a, h⟩
    · obtain ⟨habsent, hoptional⟩ := argument?_eq_none_iff.mp h
      exact ⟨fun hsupplied => by simp [habsent] at hsupplied, fun _ => hoptional⟩
    · exact (argument?_eq_some_iff.mp h).accepted
  · intro h
    cases hsupplied : p.isSupplied input with
    | true =>
      obtain ⟨a, ha⟩ := h.takes hsupplied
      exact ⟨some a, argument?_of_takes ha⟩
    | false => exact ⟨none, argument?_of_optional hsupplied (h.optional hsupplied)⟩

/-- Inputs in which a parameter has the same value give it the same argument. -/
theorem argument?_congr {other : Fields} (h : p.given? other = p.given? input) :
    d.argument? t other p = d.argument? t input p := by
  simp only [argument?, rawValue_eq, h]

variable {parameters : List Parameter} {args : Arguments}

/-- An accepted parameter puts its argument in front, if it has one. -/
theorem argumentsOf_cons {found : Option Argument} (h : d.argument? t input p = .ok found)
    (rest : List Parameter) : d.argumentsOf t input (p :: rest) =
      (d.argumentsOf t input rest).map ((found.map (Prod.mk p.name)).toList ++ ·) := by
  cases found with
  | none =>
    simp only [argumentsOf, h]
    cases d.argumentsOf t input rest <;> rfl
  | some a => simp [argumentsOf, h]

theorem argumentsOf_cons_of_refuses {e : QueryError} (h : d.Refuses t input p e)
    (rest : List Parameter) : d.argumentsOf t input (p :: rest) = .error e := by
  simp [argumentsOf, argument?_of_refuses h]

theorem argumentsOf_congr {t' : SymbolTable} {other : Fields}
    (h : ∀ p ∈ parameters, d.argument? t' other p = d.argument? t input p) :
    d.argumentsOf t' other parameters = d.argumentsOf t input parameters := by
  induction parameters with
  | nil => rfl
  | cons first rest ih =>
    obtain ⟨hfirst, hrest⟩ := List.forall_mem_cons.mp h
    simp only [argumentsOf, hfirst, ih hrest]

theorem exists_argumentsOf_iff :
    (∃ args, d.argumentsOf t input parameters = .ok args) ↔
      ∀ p ∈ parameters, p.Accepted t input := by
  induction parameters with
  | nil => simp [argumentsOf]
  | cons first rest ih =>
    rw [List.forall_mem_cons, ← ih, ← exists_argument?_iff (d := d)]
    constructor
    · rintro ⟨args, hargs⟩
      cases hfirst : d.argument? t input first with
      | error e => simp [argumentsOf, hfirst] at hargs
      | ok found =>
        rw [argumentsOf_cons hfirst] at hargs
        obtain ⟨more, hmore, -⟩ := Outcome.map_eq_ok_iff.mp hargs
        exact ⟨⟨found, rfl⟩, more, hmore⟩
    · rintro ⟨⟨found, hfound⟩, more, hmore⟩
      exact ⟨_, by rw [argumentsOf_cons hfound, hmore]; rfl⟩

/-- The error is that of the first parameter that is not accepted. -/
theorem argumentsOf_eq_error_iff {e : QueryError} :
    d.argumentsOf t input parameters = .error e ↔
      ∃ before p after, parameters = before ++ p :: after ∧
        (∀ q ∈ before, q.Accepted t input) ∧ d.Refuses t input p e := by
  constructor
  · intro h
    induction parameters with
    | nil => simp [argumentsOf] at h
    | cons first rest ih =>
      cases hfirst : d.argument? t input first with
      | error cause =>
        have hrefuses := argument?_eq_error_iff.mp hfirst
        rw [argumentsOf_cons_of_refuses hrefuses] at h
        obtain rfl := Except.error.inj h
        exact ⟨[], first, rest, rfl, by simp, hrefuses⟩
      | ok found =>
        rw [argumentsOf_cons hfirst] at h
        obtain ⟨before, p, after, rfl, hbefore, hp⟩ := ih (Outcome.map_eq_error_iff.mp h)
        have haccepted := exists_argument?_iff.mp ⟨found, hfirst⟩
        exact ⟨first :: before, p, after, rfl, List.forall_mem_cons.mpr ⟨haccepted, hbefore⟩, hp⟩
  · rintro ⟨before, p, after, rfl, hbefore, hp⟩
    induction before with
    | nil => exact argumentsOf_cons_of_refuses hp after
    | cons first rest ih =>
      obtain ⟨hfirst, hrest⟩ := List.forall_mem_cons.mp hbefore
      obtain ⟨found, hfound⟩ := exists_argument?_iff.mpr hfirst
      rw [List.cons_append, argumentsOf_cons hfound, ih hrest]
      rfl

/-- The entry is the argument of the parameter, under its name. -/
structure EntryOf (t : SymbolTable) (input : Fields) (p : Parameter) (entry : String × Argument) :
    Prop where
  name : entry.1 = p.name
  takes : p.Takes t input entry.2
  kind : entry.2.kind = p.kind

def supplied (d : ToolDefinition) (input : Fields) : List Parameter :=
  d.parameters.filter fun p => p.isSupplied input

theorem entries_of_argumentsOf (h : d.argumentsOf t input parameters = .ok args) :
    List.Forall₂ (EntryOf t input) (parameters.filter fun p => p.isSupplied input) args := by
  induction parameters generalizing args with
  | nil =>
    obtain rfl := Except.ok.inj h
    exact .nil
  | cons first rest ih =>
    cases hfirst : d.argument? t input first with
    | error e => simp [argumentsOf, hfirst] at h
    | ok found =>
      rw [argumentsOf_cons hfirst] at h
      obtain ⟨more, hmore, rfl⟩ := Outcome.map_eq_ok_iff.mp h
      cases found with
      | none =>
        obtain ⟨habsent, -⟩ := argument?_eq_none_iff.mp hfirst
        rw [List.filter_cons_of_neg (by simp [habsent])]
        exact ih hmore
      | some a =>
        have htakes := argument?_eq_some_iff.mp hfirst
        obtain ⟨raw, hraw, -⟩ := id htakes
        rw [List.filter_cons_of_pos (by simp [hraw.isSupplied])]
        exact .cons ⟨rfl, htakes, htakes.kind⟩ (ih hmore)

theorem names_of_entries {taken : List Parameter}
    (h : List.Forall₂ (EntryOf t input) taken args) :
    args.map Prod.fst = taken.map Parameter.name := by
  induction h with
  | nil => rfl
  | cons hentry _ ih => rw [List.map_cons, List.map_cons, hentry.name, ih]

/-- The arguments of a call are what the declarations and the input make them. -/
structure Meets (d : ToolDefinition) (t : SymbolTable) (input : Fields) (args : Arguments) :
    Prop where
  names : args.map Prod.fst = (d.supplied input).map Parameter.name
  entries : List.Forall₂ (EntryOf t input) (d.supplied input) args
  lookup : ∀ p ∈ d.parameters, ∀ a, args.get? p.name = some a ↔ p.Takes t input a
  recorded : ∃ fields, args.json = .object fields ∧ Keyed.Sorted fields ∧
    (∀ name, name ∈ fields.map Prod.fst ↔ name ∈ args.map Prod.fst) ∧
    ∀ name, Keyed.get? name fields = (args.get? name).map Argument.json

theorem recorded_of_nodup (h : (args.map Prod.fst).Nodup) :
    ∃ fields, args.json = .object fields ∧ Keyed.Sorted fields ∧
      (∀ name, name ∈ fields.map Prod.fst ↔ name ∈ args.map Prod.fst) ∧
      ∀ name, Keyed.get? name fields = (args.get? name).map Argument.json := by
  have hkeys : (args.map (Prod.map id Argument.json)).map Prod.fst = args.map Prod.fst := by simp
  have hget : ∀ name, Keyed.get? name (Keyed.ofList (args.map (Prod.map id Argument.json))) =
      (args.get? name).map Argument.json := by
    intro name
    rw [Keyed.get?_ofList (hkeys ▸ h), Keyed.get?_map]
    rfl
  refine ⟨_, rfl, Keyed.sorted_ofList _, ?_, hget⟩
  intro name
  rw [← Keyed.isSome_get?_iff, ← Keyed.isSome_get?_iff]
  exact (congrArg Option.isSome (hget name)).trans Option.isSome_map ▸ Iff.rfl

theorem meets_of_arguments (hnames : (d.parameters.map Parameter.name).Nodup)
    (h : d.arguments t input = .ok args) : d.Meets t input args := by
  have hentries : List.Forall₂ (EntryOf t input) (d.supplied input) args :=
    entries_of_argumentsOf h
  have hkeys := names_of_entries hentries
  refine ⟨hkeys, hentries, ?_, ?_⟩
  · intro p hp a
    rw [← argument?_eq_some_iff (d := d), argument?_eq_get? h hnames hp]
    simp
  · apply recorded_of_nodup
    rw [hkeys]
    exact (List.filter_sublist.map Parameter.name).nodup hnames

theorem mem_requiredNames_of_refuses {tool name : String} (hp : p ∈ d.parameters)
    (h : d.Refuses t input p (.missingParameter tool name)) :
    tool = d.name ∧ name ∈ d.requiredNames := by
  cases h with
  | missing habsent hrequired =>
    obtain ⟨-, hdefault⟩ := Parameter.isSupplied_eq_false_iff.mp habsent
    have hmem : p ∈ d.parameters.filter fun p => p.required && p.default.isNone := by
      simp [hp, hrequired, hdefault]
    exact ⟨rfl, List.mem_map_of_mem hmem⟩

theorem required_mem_toolLines {name : String} (h : name ∈ d.requiredNames) :
    "    required: " ++ ", ".intercalate d.requiredNames ∈ Prompt.toolLines d := by
  have hne : d.requiredNames ≠ [] := List.ne_nil_of_mem h
  simp [Prompt.toolLines, hne]

/-- Arguments are built as the tool declares its parameters. There are arguments exactly if every
parameter is accepted, and they are those of the parameters with a value, in order of declaration,
under their names, of their kinds, and recorded as they are looked up. Otherwise the error is that
of the first parameter that is not accepted; only a parameter that the prompt lists as required is
ever missing. Nothing of the input matters but the values of the declared parameters. -/
theorem arguments_as_declared (d : ToolDefinition)
    (hnames : (d.parameters.map Parameter.name).Nodup) (t : SymbolTable) (input : Fields) :
    ((∃ args, d.arguments t input = .ok args) ↔ ∀ p ∈ d.parameters, p.Accepted t input) ∧
    (∀ args, d.arguments t input = .ok args → d.Meets t input args) ∧
    (∀ e, d.arguments t input = .error e ↔
      ∃ before p after, d.parameters = before ++ p :: after ∧
        (∀ q ∈ before, q.Accepted t input) ∧ d.Refuses t input p e) ∧
    (∀ tool name, d.arguments t input = .error (.missingParameter tool name) →
      tool = d.name ∧ name ∈ d.requiredNames ∧
        "    required: " ++ ", ".intercalate d.requiredNames ∈ Prompt.toolLines d) ∧
    ∀ other, (∀ p ∈ d.parameters, p.given? other = p.given? input) →
      d.arguments t other = d.arguments t input := by
  refine ⟨exists_argumentsOf_iff, fun args h => meets_of_arguments hnames h,
    fun e => argumentsOf_eq_error_iff, ?_, ?_⟩
  · intro tool name h
    obtain ⟨before, p, after, hsplit, -, hp⟩ := argumentsOf_eq_error_iff.mp h
    have hmem : p ∈ d.parameters := by simp [hsplit]
    obtain ⟨htool, hname⟩ := mem_requiredNames_of_refuses hmem hp
    exact ⟨htool, hname, required_mem_toolLines hname⟩
  · intro other h
    exact argumentsOf_congr fun p hp => argument?_congr (h p hp)

/-- A null takes the default, and without the id of the pool nothing else matters. -/
theorem arguments_as_declared_spotPrice :
    let d := (MarketTool.spotPrice (({} : Snapshot).provider Unit)).definition
    let coins : Fields := [("coin_in", .string " sui"), ("coin_out", .string "usdc"),
      ("with_fees", .null)]
    let given : Fields := ("pool_id", .string "SUI") :: coins
    (d.parameters.map Parameter.name).Nodup ∧
      d.arguments SymbolTable.builtin coins =
        .error (.missingParameter "get_spot_price" "pool_id") ∧
      "pool_id" ∈ d.requiredNames ∧
      ∃ args, d.arguments SymbolTable.builtin given = .ok args ∧
        args.map Prod.fst = ["pool_id", "coin_in", "coin_out", "with_fees"] ∧
        args.get? "with_fees" = some (.boolean true) := by
  intro d coins given
  have hnames : (d.parameters.map Parameter.name).Nodup := by simp [d, MarketTool.spotPrice]
  have hcoins := arguments_as_declared d hnames SymbolTable.builtin coins
  have hgiven := arguments_as_declared d hnames SymbolTable.builtin given
  have hmissing : d.arguments SymbolTable.builtin coins =
      .error (.missingParameter "get_spot_price" "pool_id") := by
    refine (hcoins.2.2.1 _).mpr ⟨[], _, _, rfl, by simp, ?_⟩
    exact .missing rfl rfl
  have hrequired : "pool_id" ∈ d.requiredNames := (hcoins.2.2.2.1 _ _ hmissing).2.1
  obtain ⟨args, hargs⟩ : ∃ args, d.arguments SymbolTable.builtin given = .ok args := ⟨_, rfl⟩
  have hmeets : d.Meets SymbolTable.builtin given args := hgiven.2.1 args hargs
  have hfees : args.get? "with_fees" = some (.boolean true) :=
    (hmeets.lookup _ (List.getLast_mem (by simp [d, MarketTool.spotPrice])) _).mpr
      ⟨.bool true, .default rfl rfl, rfl⟩
  exact ⟨hnames, hmissing, hrequired, args, hargs, hmeets.names, hfees⟩

end ToolDefinition

end MarketQuery
