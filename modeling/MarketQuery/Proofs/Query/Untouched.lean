import MarketQuery.Proofs.Query.Assets
import MarketQuery.Proofs.Query.Declarations

/-!
What a symbol table does not touch. Two runs over one input are compared parameter by parameter.
Which parameters have a value is a matter of the input and the declarations, so both runs have the
same names in the same places; and a parameter that is no asset reference has one argument whatever
the table is. The tables tell the runs apart only in the arguments of asset references, and in
whether there are arguments at all.
-/
namespace MarketQuery

namespace Parameter

variable {p : Parameter} {t t₁ t₂ : SymbolTable} {input : Fields}

theorem Raw.unique {raw other : Json} (h : p.Raw t input raw) (hother : p.Raw t input other) :
    raw = other := by
  cases h <;> cases hother <;> simp_all

/-- Only the value of an asset reference is looked up in the table. -/
theorem Raw.of_plain {raw : Json} (hplain : p.assetReference = false)
    (h : p.Raw t₁ input raw) : p.Raw t₂ input raw := by
  cases h with
  | asset hasset hgiven hresolve => simp [hplain] at hasset
  | plain hasset hgiven => exact .plain hasset hgiven
  | default habsent hdefault => exact .default habsent hdefault

theorem Takes.eq_of_plain {a b : Argument} (hplain : p.assetReference = false)
    (ha : p.Takes t₁ input a) (hb : p.Takes t₂ input b) : a = b := by
  obtain ⟨raw, hraw, hcoerce⟩ := ha
  obtain ⟨other, hother, hcoerce'⟩ := hb
  obtain rfl : raw = other := (hraw.of_plain hplain).unique hother
  exact Except.ok.inj (hcoerce.symm.trans hcoerce')

end Parameter

namespace ToolDefinition

variable {d : ToolDefinition} {t t₁ t₂ : SymbolTable} {input : Fields} {p : Parameter}
  {args args₁ args₂ : Arguments} {taken : List Parameter}

theorem argument?_of_plain (hplain : p.assetReference = false) :
    d.argument? t₁ input p = d.argument? t₂ input p := by
  simp [argument?, rawValue_eq, hplain]

theorem EntryOf.eq_of_plain {first second : String × Argument} (hplain : p.assetReference = false)
    (h₁ : EntryOf t₁ input p first) (h₂ : EntryOf t₂ input p second) : first = second := by
  apply Prod.ext
  · rw [h₁.name, h₂.name]
  · exact h₁.takes.eq_of_plain hplain h₂.takes

/-- Each parameter with a value has the entry in its place. -/
theorem exists_entry (h : List.Forall₂ (EntryOf t input) taken args) {i : ℕ}
    (hp : taken[i]? = some p) : ∃ entry, args[i]? = some entry ∧ EntryOf t input p entry := by
  induction h generalizing i with
  | nil => simp at hp
  | cons hentry _ ih =>
    cases i with
    | zero =>
      obtain rfl := Option.some.inj hp
      exact ⟨_, rfl, hentry⟩
    | succ i => exact ih hp

/-- The first entry of a name is the same in both runs if no asset reference has this name. -/
theorem get?_of_plain (h₁ : List.Forall₂ (EntryOf t₁ input) taken args₁)
    (h₂ : List.Forall₂ (EntryOf t₂ input) taken args₂) {name : String}
    (hplain : ∀ p ∈ taken, p.name = name → p.assetReference = false) :
    args₁.get? name = args₂.get? name := by
  induction h₁ generalizing args₂ with
  | nil =>
    cases h₂
    rfl
  | @cons p first rest more hfirst _ ih =>
    cases h₂ with
    | @cons _ second _ others hsecond hothers =>
      obtain ⟨hp, hrest⟩ := List.forall_mem_cons.mp hplain
      have hmore := ih hothers hrest
      by_cases hname : p.name = name
      · have heq : first = second := hfirst.eq_of_plain (hp hname) hsecond
        obtain ⟨key, a⟩ := first
        subst heq
        rw [Arguments.get?_cons, Arguments.get?_cons, hmore]
      · obtain ⟨key, a⟩ := first
        obtain ⟨key', b⟩ := second
        have hkey : name ≠ key := fun h => hname (hfirst.name.symm.trans h.symm)
        have hkey' : name ≠ key' := fun h => hname (hsecond.name.symm.trans h.symm)
        rw [Arguments.get?_cons, Arguments.get?_cons, if_neg hkey, if_neg hkey', hmore]

/-- A text for a parameter that takes texts and names no asset is the argument as it stands. -/
theorem argument?_text {s : String} (hplain : p.assetReference = false) (hkind : p.kind = .string)
    (hgiven : p.given? input = some (.string s)) :
    d.argument? t input p = .ok (some (.string s)) := by
  have hcoerce : p.kind.coerce (.string s) = .ok (.string s) := by
    rw [hkind]
    rfl
  exact argument?_of_takes ⟨.string s, .plain hplain hgiven, hcoerce⟩

/-- A symbol table touches only asset references. Two tables under which a call has arguments give
it the same names in the same places, and the same arguments wherever the parameter is no asset
reference, by place and by name. A tool without asset references is called in the same way, or
refused for the same reason, under every table. A text for a parameter that takes texts and is no
asset reference reaches the tool as it is. -/
theorem arguments_apart_from_assets (d : ToolDefinition) (input : Fields) (t₁ t₂ : SymbolTable) :
    (∀ args₁ args₂, d.arguments t₁ input = .ok args₁ → d.arguments t₂ input = .ok args₂ →
      args₁.map Prod.fst = args₂.map Prod.fst ∧
      (∀ (i : ℕ) (p : Parameter), (d.supplied input)[i]? = some p →
        p.assetReference = false → args₁[i]? = args₂[i]?) ∧
      ∀ name, (∀ p ∈ d.parameters, p.name = name → p.assetReference = false) →
        args₁.get? name = args₂.get? name) ∧
    ((∀ p ∈ d.parameters, p.assetReference = false) →
      d.arguments t₁ input = d.arguments t₂ input) ∧
    ∀ p ∈ d.parameters, p.assetReference = false → p.kind = .string →
      ∀ s, p.given? input = some (.string s) → ∀ args, d.arguments t₁ input = .ok args →
        (p.name, .string s) ∈ args ∧
        ((d.parameters.map Parameter.name).Nodup → args.get? p.name = some (.string s)) := by
  refine ⟨?_, ?_, ?_⟩
  · intro args₁ args₂ h₁ h₂
    have hentries₁ : List.Forall₂ (EntryOf t₁ input) (d.supplied input) args₁ :=
      entries_of_argumentsOf h₁
    have hentries₂ : List.Forall₂ (EntryOf t₂ input) (d.supplied input) args₂ :=
      entries_of_argumentsOf h₂
    refine ⟨?_, ?_, ?_⟩
    · rw [names_of_entries hentries₁, names_of_entries hentries₂]
    · intro i p hp hplain
      obtain ⟨first, hfirst, hentry₁⟩ := exists_entry hentries₁ hp
      obtain ⟨second, hsecond, hentry₂⟩ := exists_entry hentries₂ hp
      rw [hfirst, hsecond, hentry₁.eq_of_plain hplain hentry₂]
    · intro name hplain
      apply get?_of_plain hentries₁ hentries₂
      intro p hp
      exact hplain p (List.mem_of_mem_filter hp)
  · intro hplain
    exact argumentsOf_congr fun p hp => argument?_of_plain (hplain p hp)
  · intro p hp hplain hkind s hgiven args hargs
    have hargument : d.argument? t₁ input p = .ok (some (.string s)) :=
      argument?_text hplain hkind hgiven
    constructor
    · obtain ⟨found, hfound, hplace⟩ := argument_of_argumentsOf hargs hp
      rw [hargument] at hfound
      exact hplace _ (Except.ok.inj hfound).symm
    · intro hnames
      have hget := argument?_eq_get? hargs hnames hp
      rw [hargument] at hget
      exact (Except.ok.inj hget).symm

/-- The id of a pool is spelled like a symbol, and two tables know other coins by the symbols. -/
theorem arguments_apart_from_assets_spotPrice :
    let d := (MarketTool.spotPrice (({} : Snapshot).provider Unit)).definition
    let coins := SymbolTable.empty.insertAll [("SUI", "0x2::sui::SUI"), ("USDC", "0xdb::usdc::USDC")]
    let others := SymbolTable.empty.insertAll [("SUI", "0x7"), ("USDC", "0x8")]
    let input : Fields := [("coin_in", .string "sui"), ("coin_out", .string "USDC"),
      ("pool_id", .string "SUI")]
    ∃ args₁ args₂, d.arguments coins input = .ok args₁ ∧ d.arguments others input = .ok args₂ ∧
      args₁.get? "coin_in" ≠ args₂.get? "coin_in" ∧
      args₁.get? "with_fees" = args₂.get? "with_fees" ∧
      args₁.get? "pool_id" = some (.string "SUI") ∧ args₂.get? "pool_id" = some (.string "SUI") := by
  intro d coins others input
  have hnames : (d.parameters.map Parameter.name).Nodup := by simp [d, MarketTool.spotPrice]
  obtain ⟨args₁, h₁, hcoin₁⟩ : ∃ args, d.arguments coins input = .ok args ∧
      args.get? "coin_in" = some (.string "0x2::sui::SUI") := ⟨_, rfl, rfl⟩
  obtain ⟨args₂, h₂, hcoin₂⟩ : ∃ args, d.arguments others input = .ok args ∧
      args.get? "coin_in" = some (.string "0x7") := ⟨_, rfl, rfl⟩
  obtain ⟨hboth, -, hpool⟩ := arguments_apart_from_assets d input coins others
  have hfees : args₁.get? "with_fees" = args₂.get? "with_fees" := by
    apply (hboth args₁ args₂ h₁ h₂).2.2
    simp [d, MarketTool.spotPrice]
  have hpool₁ := (hpool _ List.mem_cons_self rfl rfl "SUI" rfl args₁ h₁).2 hnames
  have hpool₂ := (hboth args₁ args₂ h₁ h₂).2.2 "pool_id" (by simp [d, MarketTool.spotPrice])
  refine ⟨args₁, args₂, h₁, h₂, ?_, hfees, hpool₁, hpool₂.symm.trans hpool₁⟩
  rw [hcoin₁, hcoin₂]
  simp

end ToolDefinition

end MarketQuery
