import MarketQuery.Market.Snapshot
import MarketQuery.Proofs.Query.Execution
import MarketQuery.Proofs.Symbol.Displays
import MarketQuery.Tool.Catalog

/-!
What becomes of the assets that an action names. The resolver understands texts and lists of texts.
Every symbol in them becomes an identifier that some symbol points to, but the resolver does not
know the kind of the parameter: several identifiers are joined by commas also where one text is
wanted, a joined text is taken apart again where a list is wanted, and a number, which it leaves to
be refused, is taken as a text. The main theorem says when an argument is safe from all of this.
-/
namespace MarketQuery

/-- The symbols in a text: its parts if it has commas, else the text itself. -/
def symbolsInText (text : String) : List String :=
  if text.toList.contains ',' then commaParts text else [text]

def Json.symbols? : Json → Option (List String)
  | .string text => some (symbolsInText text)
  | .array items => items.mapM Json.string?
  | _ => none

/-- Every text in the argument is an identifier that some symbol points to. -/
def Argument.Canonical (t : SymbolTable) : Argument → Prop
  | .string s => t.Points s
  | .stringList items => ∀ s ∈ items, t.Points s
  | _ => True

namespace SymbolTable

def IsPart (s : String) : Prop :=
  s ≠ "" ∧ ',' ∉ s.toList ∧ Text.trimmed s = s

instance (s : String) : Decidable (IsPart s) :=
  inferInstanceAs (Decidable (s ≠ "" ∧ ',' ∉ s.toList ∧ Text.trimmed s = s))

/-- No identifier of the table is changed by joining and taking apart at commas. -/
def Plain (t : SymbolTable) : Prop :=
  ∀ id, t.Points id → IsPart id

/-- A value from which a parameter of this kind gets identifiers of the table only. As one text the
identifiers are joined, and a text that stands for a list is taken apart after they are. -/
def Settles (t : SymbolTable) (kind : ParameterKind) (v : Json) : Prop :=
  ∃ symbols ids, v.symbols? = some symbols ∧ t.resolveAll symbols = .ok ids ∧
    (kind = .string → t.Points (",".intercalate ids)) ∧
    (kind = .stringList → (∃ text, v = .string text) →
      ∀ id ∈ ids, ∀ part ∈ commaParts id, t.Points part)

variable {t : SymbolTable}

theorem plain_of_ids (h : ∀ e ∈ t.ids, IsPart e.2) : t.Plain := by
  rintro id ⟨symbol, hsymbol⟩
  exact h (symbol, id) (Keyed.mem_of_get? hsymbol)

theorem Consistent.points_of_resolve (h : t.Consistent) {symbol id : String}
    (hresolve : t.resolve symbol = .ok id) : t.Points id := by
  simp only [resolve] at hresolve
  split at hresolve
  · next found hfound =>
    obtain rfl := Except.ok.inj hresolve
    exact ⟨_, hfound⟩
  · split at hresolve
    · next hdisplay =>
      obtain rfl := Except.ok.inj hresolve
      exact (h.isSome_symbolFor_iff _).mp hdisplay
    · simp at hresolve

theorem Consistent.points_of_resolveOrFail (h : t.Consistent) {symbol id : String}
    (hresolve : t.resolveOrFail symbol = .ok id) : t.Points id := by
  simp only [resolveOrFail] at hresolve
  split at hresolve
  · next found hfound =>
    obtain rfl := Except.ok.inj hresolve
    exact h.points_of_resolve hfound
  · simp at hresolve

theorem resolveAll_cons_eq_ok {symbol : String} {rest ids : List String}
    (h : t.resolveAll (symbol :: rest) = .ok ids) :
    ∃ id more, t.resolveOrFail symbol = .ok id ∧ t.resolveAll rest = .ok more ∧
      ids = id :: more := by
  simp only [resolveAll] at h
  split at h
  · simp at h
  · next id hid =>
    obtain ⟨more, hmore, rfl⟩ := Outcome.map_eq_ok_iff.mp h
    exact ⟨id, more, hid, hmore, rfl⟩

theorem Consistent.points_of_resolveAll (h : t.Consistent) {symbols ids : List String}
    (hresolve : t.resolveAll symbols = .ok ids) : ∀ id ∈ ids, t.Points id := by
  induction symbols generalizing ids with
  | nil =>
    obtain rfl := Except.ok.inj hresolve
    simp
  | cons symbol rest ih =>
    obtain ⟨id, more, hid, hmore, rfl⟩ := resolveAll_cons_eq_ok hresolve
    intro other hmem
    rcases List.mem_cons.mp hmem with rfl | hmem
    · exact h.points_of_resolveOrFail hid
    · exact ih hmore other hmem

theorem length_of_resolveAll {symbols ids : List String} (h : t.resolveAll symbols = .ok ids) :
    ids.length = symbols.length := by
  induction symbols generalizing ids with
  | nil =>
    obtain rfl := Except.ok.inj h
    rfl
  | cons symbol rest ih =>
    obtain ⟨id, more, -, hmore, rfl⟩ := resolveAll_cons_eq_ok h
    simp [ih hmore]

theorem resolveText_eq_ok {text s : String} (h : t.resolveText text = .ok s) :
    ∃ ids, t.resolveAll (symbolsInText text) = .ok ids ∧ s = ",".intercalate ids := by
  unfold resolveText at h
  unfold symbolsInText
  split at h
  · next hcomma =>
    obtain ⟨ids, hids, rfl⟩ := Outcome.map_eq_ok_iff.mp h
    exact ⟨ids, by rw [if_pos hcomma, hids], rfl⟩
  · next hcomma =>
    refine ⟨[s], ?_, by simp⟩
    rw [if_neg hcomma]
    simp [resolveAll, h, Except.map]

/-- A list that is accepted after it was resolved held texts only, and all of them were resolved. -/
theorem resolveItems_eq_ok {items resolved : List Json} {ids : List String}
    (h : t.resolveItems items = .ok resolved) (hstrings : stringItems resolved = .ok ids) :
    ∃ symbols, items.mapM Json.string? = some symbols ∧ t.resolveAll symbols = .ok ids := by
  induction items generalizing resolved ids with
  | nil =>
    obtain rfl := Except.ok.inj h
    obtain rfl := Except.ok.inj hstrings
    exact ⟨[], rfl, rfl⟩
  | cons item rest ih =>
    cases item with
    | string symbol =>
      simp only [resolveItems] at h
      split at h
      · simp at h
      · next id hid =>
        obtain ⟨more, hmore, rfl⟩ := Outcome.map_eq_ok_iff.mp h
        obtain ⟨others, hothers, rfl⟩ := Outcome.map_eq_ok_iff.mp hstrings
        obtain ⟨symbols, hsymbols, hall⟩ := ih hmore hothers
        refine ⟨symbol :: symbols, by simp [Json.string?, hsymbols], ?_⟩
        simp [resolveAll, hid, hall, Except.map]
    | null | bool _ | number _ | array _ | object _ =>
      obtain ⟨more, -, rfl⟩ := Outcome.map_eq_ok_iff.mp h
      simp [stringItems] at hstrings

end SymbolTable

theorem commaParts_append (first second : String) :
    commaParts (first ++ "," ++ second) = commaParts first ++ commaParts second := by
  have hsplit : (first ++ "," ++ second).toList = first.toList ++ ',' :: second.toList := by simp
  simp [commaParts, hsplit, List.splitOn_append_cons_self]

theorem commaParts_intercalate (ids : List String) :
    commaParts (",".intercalate ids) = ids.flatMap commaParts := by
  induction ids with
  | nil => decide
  | cons id rest ih =>
    cases rest with
    | nil => simp
    | cons next more =>
      rw [String.intercalate_cons_cons, commaParts_append, ih]
      rfl

/-- A text without commas has one part, or none if it is blank. -/
theorem commaParts_of_not_mem {s : String} (h : ',' ∉ s.toList) :
    commaParts s = if Text.trim s.toList = [] then [] else [Text.trimmed s] := by
  have hsplit : s.toList.splitOn ',' = [s.toList] := List.splitOn_eq_singleton h
  split
  · next hnil => simp [commaParts, hsplit, hnil]
  · next hne => simp [commaParts, hsplit, hne, Text.trimmed]

theorem commaParts_of_isPart {s : String} (h : SymbolTable.IsPart s) : commaParts s = [s] := by
  obtain ⟨hne, hcomma, htrimmed⟩ := h
  have htrim : Text.trim s.toList ≠ [] := by
    rw [← Text.toList_trimmed, htrimmed]
    simpa using hne
  rw [commaParts_of_not_mem hcomma, if_neg htrim, htrimmed]

/-- How a value of an asset reference reaches the tool. Only the last two ways go past the
resolver: a number where a text is wanted, and a value of another kind. -/
inductive Dispatched (t : SymbolTable) : ParameterKind → Json → Argument → Prop
  | text {text : String} {ids : List String}
      (hids : t.resolveAll (symbolsInText text) = .ok ids) :
      Dispatched t .string (.string text) (.string (",".intercalate ids))
  | listText {text : String} {ids : List String}
      (hids : t.resolveAll (symbolsInText text) = .ok ids) :
      Dispatched t .stringList (.string text) (.stringList (ids.flatMap commaParts))
  | list {items : List Json} {symbols ids : List String}
      (hsymbols : items.mapM Json.string? = some symbols) (hids : t.resolveAll symbols = .ok ids) :
      Dispatched t .stringList (.array items) (.stringList ids)
  | figureText {kind : ParameterKind} {text : String} {ids : List String} {a : Argument}
      (hkind : kind ≠ .string ∧ kind ≠ .stringList)
      (hids : t.resolveAll (symbolsInText text) = .ok ids) (ha : a.Canonical t) :
      Dispatched t kind (.string text) a
  | number (n : Number) : Dispatched t .string (.number n) (.string n.text)
  | figure {kind : ParameterKind} {v : Json} {a : Argument}
      (hkind : kind ≠ .string ∧ kind ≠ .stringList) (hv : v.symbols? = none) (ha : a.Canonical t) :
      Dispatched t kind v a

/-- An argument that is no text and no list of texts names no asset. -/
theorem canonical_of_coerce {kind : ParameterKind} {raw : Json} {a : Argument} (t : SymbolTable)
    (hkind : kind ≠ .string ∧ kind ≠ .stringList) (h : kind.coerce raw = .ok a) :
    a.Canonical t := by
  cases a with
  | number x => trivial
  | integer i => trivial
  | boolean b => trivial
  | string s =>
    exfalso
    revert h
    fun_cases ParameterKind.coerce kind raw <;> simp_all
  | stringList items =>
    exfalso
    revert h
    fun_cases ParameterKind.coerce kind raw <;> simp_all

theorem dispatched_of_text {t : SymbolTable} {kind : ParameterKind} {text : String}
    {ids : List String} {a : Argument} (hids : t.resolveAll (symbolsInText text) = .ok ids)
    (h : kind.coerce (.string (",".intercalate ids)) = .ok a) :
    Dispatched t kind (.string text) a := by
  cases kind with
  | string =>
    obtain rfl := Except.ok.inj h
    exact .text hids
  | stringList =>
    obtain rfl := Except.ok.inj h
    rw [commaParts_intercalate]
    exact .listText hids
  | number | integer | boolean =>
    exact .figureText (by decide) hids (canonical_of_coerce t (by decide) h)

/-- Everything that resolution and coercion let through together. -/
theorem dispatched_of_coerce {t : SymbolTable} {kind : ParameterKind} {v raw : Json} {a : Argument}
    (hresolve : t.resolveAssets v = .ok raw) (h : kind.coerce raw = .ok a) :
    Dispatched t kind v a := by
  cases v with
  | string text =>
    obtain ⟨s, hs, rfl⟩ := Outcome.map_eq_ok_iff.mp hresolve
    obtain ⟨ids, hids, rfl⟩ := SymbolTable.resolveText_eq_ok hs
    exact dispatched_of_text hids h
  | array items =>
    obtain ⟨resolved, hresolved, rfl⟩ := Outcome.map_eq_ok_iff.mp hresolve
    cases kind with
    | stringList =>
      obtain ⟨ids, hids, rfl⟩ := Outcome.map_eq_ok_iff.mp h
      obtain ⟨symbols, hsymbols, hall⟩ := SymbolTable.resolveItems_eq_ok hresolved hids
      exact .list hsymbols hall
    | string | number | integer | boolean => simp [ParameterKind.coerce] at h
  | number n =>
    obtain rfl := Except.ok.inj hresolve
    cases kind with
    | string =>
      obtain rfl := Except.ok.inj h
      exact .number n
    | stringList => simp [ParameterKind.coerce] at h
    | number | integer | boolean =>
      exact .figure (by decide) rfl (canonical_of_coerce t (by decide) h)
  | null | bool b | object fields =>
    obtain rfl := Except.ok.inj hresolve
    cases kind with
    | string | stringList => simp [ParameterKind.coerce] at h
    | number | integer | boolean =>
      exact .figure (by decide) rfl (canonical_of_coerce t (by decide) h)

theorem SymbolTable.settles_iff {t : SymbolTable} {kind : ParameterKind} {v : Json}
    {symbols ids : List String} (hsymbols : v.symbols? = some symbols)
    (hids : t.resolveAll symbols = .ok ids) :
    t.Settles kind v ↔
      (kind = .string → t.Points (",".intercalate ids)) ∧
      (kind = .stringList → (∃ text, v = .string text) →
        ∀ id ∈ ids, ∀ part ∈ commaParts id, t.Points part) := by
  constructor
  · rintro ⟨symbols', ids', hsymbols', hids', hsettles⟩
    obtain rfl := Option.some.inj (hsymbols.symm.trans hsymbols')
    obtain rfl := Except.ok.inj (hids.symm.trans hids')
    exact hsettles
  · intro hsettles
    exact ⟨symbols, ids, hsymbols, hids, hsettles⟩

theorem SymbolTable.not_settles {t : SymbolTable} {kind : ParameterKind} {v : Json}
    (h : v.symbols? = none) : ¬ t.Settles kind v := by
  rintro ⟨symbols, ids, hsymbols, -⟩
  simp [h] at hsymbols

theorem Dispatched.canonical_iff {t : SymbolTable} (ht : t.Consistent) {kind : ParameterKind}
    {v : Json} {a : Argument} (h : Dispatched t kind v a) :
    v.symbols?.isSome = true ∧ a.Canonical t ↔ t.Settles kind v := by
  cases h with
  | text hids =>
    rw [SymbolTable.settles_iff rfl hids]
    simp [Json.symbols?, Argument.Canonical]
  | listText hids =>
    rw [SymbolTable.settles_iff rfl hids]
    simp only [Json.symbols?, Argument.Canonical, List.mem_flatMap]
    constructor
    · rintro ⟨-, hparts⟩
      exact ⟨by simp, fun _ _ id hid part hpart => hparts part ⟨id, hid, hpart⟩⟩
    · rintro ⟨-, hparts⟩
      refine ⟨rfl, ?_⟩
      rintro part ⟨id, hid, hpart⟩
      exact hparts trivial ⟨_, rfl⟩ id hid part hpart
  | @list items symbols ids hsymbols hids =>
    have hitems : (Json.array items).symbols? = some symbols := hsymbols
    rw [SymbolTable.settles_iff hitems hids, hitems]
    simpa [Argument.Canonical] using ht.points_of_resolveAll hids
  | figureText hkind hids ha =>
    rw [SymbolTable.settles_iff rfl hids]
    simp [Json.symbols?, hkind, ha]
  | number n =>
    have hnot : ¬ t.Settles .string (.number n) := SymbolTable.not_settles rfl
    simp [Json.symbols?, hnot]
  | figure hkind hv ha => simp [hv, SymbolTable.not_settles]

/-- Without commas in them, identifiers joined by commas are one identifier only if it is one. -/
theorem SymbolTable.Plain.points_intercalate_iff {t : SymbolTable} (h : t.Plain)
    {ids : List String} (hids : ∀ id ∈ ids, t.Points id) :
    t.Points (",".intercalate ids) ↔ ids.length = 1 := by
  cases ids with
  | nil =>
    have hempty : ¬ t.Points "" := fun hpoints => (h "" hpoints).1 rfl
    simpa using hempty
  | cons id rest =>
    cases rest with
    | nil => simpa using hids id (by simp)
    | cons next more =>
      have hcomma : ',' ∈ (",".intercalate (id :: next :: more)).toList := by
        simp [String.intercalate_cons_cons]
      have hnot : ¬ t.Points (",".intercalate (id :: next :: more)) :=
        fun hpoints => (h _ hpoints).2.1 hcomma
      constructor
      · intro hpoints
        exact absurd hpoints hnot
      · intro hone
        simp at hone

theorem SymbolTable.Plain.points_parts {t : SymbolTable} (h : t.Plain) {ids : List String}
    (hids : ∀ id ∈ ids, t.Points id) : ∀ id ∈ ids, ∀ part ∈ commaParts id, t.Points part := by
  intro id hid part hpart
  rw [commaParts_of_isPart (h id (hids id hid))] at hpart
  obtain rfl : part = id := by simpa using hpart
  exact hids part hid

theorem SymbolTable.Plain.settles_iff {t : SymbolTable} (h : t.Plain) (ht : t.Consistent)
    {kind : ParameterKind} {v : Json} {symbols ids : List String}
    (hsymbols : v.symbols? = some symbols) (hids : t.resolveAll symbols = .ok ids) :
    t.Settles kind v ↔ (kind = .string → symbols.length = 1) := by
  have hpoints := ht.points_of_resolveAll hids
  rw [SymbolTable.settles_iff hsymbols hids, h.points_intercalate_iff hpoints,
    SymbolTable.length_of_resolveAll hids]
  constructor
  · exact And.left
  · intro hone
    exact ⟨hone, fun _ _ => h.points_parts hpoints⟩

theorem Dispatched.resolveAll {t : SymbolTable} {kind : ParameterKind} {v : Json} {a : Argument}
    (h : Dispatched t kind v a) {symbols : List String} (hsymbols : v.symbols? = some symbols) :
    ∃ ids, t.resolveAll symbols = .ok ids := by
  cases h with
  | text hids | listText hids | figureText _ hids _ =>
    obtain rfl := Option.some.inj hsymbols
    exact ⟨_, hids⟩
  | list hitems hids =>
    obtain rfl := Option.some.inj (hitems.symm.trans hsymbols)
    exact ⟨_, hids⟩
  | number n => simp [Json.symbols?] at hsymbols
  | figure hkind hv ha => simp [hv] at hsymbols

/-- In a table with plain identifiers it depends on the value alone. -/
theorem Dispatched.plain_settles_iff {t : SymbolTable} (hplain : t.Plain) (ht : t.Consistent)
    {kind : ParameterKind} {v : Json} {a : Argument} (h : Dispatched t kind v a) :
    t.Settles kind v ↔
      ∃ symbols, v.symbols? = some symbols ∧ (kind = .string → symbols.length = 1) := by
  constructor
  · intro hsettles
    obtain ⟨symbols, ids, hsymbols, hids, -⟩ := id hsettles
    exact ⟨symbols, hsymbols, (hplain.settles_iff ht hsymbols hids).mp hsettles⟩
  · rintro ⟨symbols, hsymbols, hone⟩
    obtain ⟨ids, hids⟩ := h.resolveAll hsymbols
    exact (hplain.settles_iff ht hsymbols hids).mpr hone

namespace ToolDefinition

/-- Each parameter has its own place among the arguments. -/
theorem argument_of_argumentsOf {d : ToolDefinition} {t : SymbolTable} {input : Fields}
    {parameters : List Parameter} {args : Arguments}
    (h : d.argumentsOf t input parameters = .ok args) {p : Parameter} (hp : p ∈ parameters) :
    ∃ found, d.argument? t input p = .ok found ∧ ∀ a, found = some a → (p.name, a) ∈ args := by
  induction parameters generalizing args with
  | nil => simp at hp
  | cons first rest ih =>
    simp only [argumentsOf] at h
    split at h
    · simp at h
    · next hfirst =>
      rcases List.mem_cons.mp hp with rfl | hmem
      · exact ⟨none, hfirst, by simp⟩
      · exact ih h hmem
    · next a hfirst =>
      obtain ⟨more, hmore, rfl⟩ := Outcome.map_eq_ok_iff.mp h
      rcases List.mem_cons.mp hp with rfl | hmem
      · refine ⟨some a, hfirst, ?_⟩
        rintro other heq
        obtain rfl := Option.some.inj heq
        exact List.mem_cons_self
      · obtain ⟨found, hfound, hplace⟩ := ih hmore hmem
        exact ⟨found, hfound, fun other heq => List.mem_cons_of_mem _ (hplace other heq)⟩

/-- The argument of an asset reference whose value was given. -/
theorem dispatched_of_argument {d : ToolDefinition} {t : SymbolTable} {input : Fields}
    {p : Parameter} {v : Json} {found : Option Argument} (hasset : p.assetReference = true)
    (hgiven : Keyed.get? p.name input = some v) (hnull : v.isNull = false)
    (h : d.argument? t input p = .ok found) :
    ∃ a, found = some a ∧ Dispatched t p.kind v a := by
  have hraw : d.rawValue t input p = (t.resolveAssets v).map some := by
    simp [rawValue, hgiven, Option.filter, hnull, hasset]
  simp only [argument?, hraw] at h
  cases hresolve : t.resolveAssets v with
  | error e => simp [hresolve, Except.map] at h
  | ok raw =>
    simp only [hresolve, Except.map] at h
    split at h
    · next a ha =>
      obtain rfl := Except.ok.inj h
      exact ⟨a, rfl, dispatched_of_coerce hresolve ha⟩
    · simp at h

end ToolDefinition

/-- When an action is accepted, every asset reference whose value was given has an argument. Its
value was one that the resolver understands and the argument consists of identifiers of the table
exactly if the value settles. Where no identifier has commas or blanks at its ends, this is so
exactly if the value is a text or a list of texts, and names one symbol where a text is wanted. -/
theorem Registry.prepare_canonical_iff {σ : Type} {r : Registry σ} {t : SymbolTable}
    (ht : t.Reachable) {action : Action} {tool : Tool σ} {args : Arguments}
    (hprepare : r.prepare t action = .ok (tool, args)) {p : Parameter}
    (hp : p ∈ tool.definition.parameters) (hasset : p.assetReference = true) {v : Json}
    (hgiven : Keyed.get? p.name action.input = some v) (hnull : v.isNull = false) :
    ∃ a, tool.definition.argument? t action.input p = .ok (some a) ∧ (p.name, a) ∈ args ∧
      (v.symbols?.isSome = true ∧ a.Canonical t ↔ t.Settles p.kind v) ∧
      (t.Plain → (v.symbols?.isSome = true ∧ a.Canonical t ↔
        ∃ symbols, v.symbols? = some symbols ∧ (p.kind = .string → symbols.length = 1))) := by
  have hconsistent := ht.consistent
  obtain ⟨-, harguments⟩ := Registry.prepare_eq_ok hprepare
  obtain ⟨found, hfound, hplace⟩ := ToolDefinition.argument_of_argumentsOf harguments hp
  obtain ⟨a, rfl, hdispatched⟩ :=
    ToolDefinition.dispatched_of_argument hasset hgiven hnull hfound
  have hiff := hdispatched.canonical_iff hconsistent
  refine ⟨a, hfound, hplace a rfl, hiff, ?_⟩
  intro hplain
  exact hiff.trans (hdispatched.plain_settles_iff hplain hconsistent)

/-- Two symbols in one text, where a list is wanted. -/
theorem Registry.prepare_canonical_iff_symbols :
    let t := SymbolTable.empty.insertAll [("sui", "0x2::sui"), ("usdc", "0xdb::usdc")]
    let source := ({} : Snapshot).provider Unit
    let v : Json := .string "SUI, Usdc"
    ∃ args a, (Registry.standard source).prepare t ⟨"get_token_prices", [("symbols", v)]⟩ =
        .ok (MarketTool.tokenPrices source, args) ∧
      ("symbols", a) ∈ args ∧ v.symbols?.isSome = true ∧ a.Canonical t := by
  intro t source v
  have hreachable : t.Reachable := ⟨_, rfl⟩
  have hplain : t.Plain := SymbolTable.plain_of_ids (by decide +kernel)
  have hprepare :
      (Registry.standard source).prepare t ⟨"get_token_prices", [("symbols", v)]⟩ =
        .ok (MarketTool.tokenPrices source,
          [("symbols", .stringList ["0x2::sui", "0xdb::usdc"])]) :=
    rfl
  obtain ⟨a, -, hplace, -, hiff⟩ := Registry.prepare_canonical_iff hreachable hprepare
    (List.mem_singleton.mpr rfl) rfl rfl rfl
  have hsymbols : v.symbols? = some ["SUI", "Usdc"] := by decide
  obtain ⟨hsome, hcanonical⟩ := (hiff hplain).mpr ⟨_, hsymbols, by simp⟩
  exact ⟨_, a, hprepare, hplace, hsome, hcanonical⟩

/-- A number given for the symbol of a token is let through: the tool is called with its text, to
which no symbol points. -/
theorem Registry.prepare_number_for_symbol :
    let source := ({} : Snapshot).provider Unit
    let v : Json := .number (.int 5)
    (Registry.standard source).prepare SymbolTable.builtin ⟨"get_token_price", [("symbol", v)]⟩ =
        .ok (MarketTool.tokenPrice source, [("symbol", .string "5")]) ∧
      (∃ p ∈ (MarketTool.tokenPrice source).definition.parameters,
        p.name = "symbol" ∧ p.kind = .string ∧ p.assetReference = true) ∧
      v.symbols? = none ∧ ¬ SymbolTable.builtin.Points "5" := by
  intro source v
  refine ⟨rfl, ⟨_, List.mem_singleton.mpr rfl, rfl, rfl, rfl⟩, rfl, ?_⟩
  rintro ⟨symbol, hsymbol⟩
  have hids : ∀ e ∈ SymbolTable.builtin.ids, e.2 ≠ "5" := by decide +kernel
  exact hids _ (Keyed.mem_of_get? hsymbol) rfl

end MarketQuery
