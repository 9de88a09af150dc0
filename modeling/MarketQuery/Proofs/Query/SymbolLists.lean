import MarketQuery.Proofs.Plan.Statuses
import MarketQuery.Proofs.Query.Assets
import MarketQuery.Proofs.Query.Declarations

/-!
The two spellings of a list of symbols, as an array of texts and as one text with commas. The array
is resolved item by item. The text is taken apart, resolved, joined and taken apart again, so that
an identifier comes through only if it is one part of itself. The two spellings mean the same
exactly if this holds of every identifier in the list.
-/
namespace MarketQuery

def Text.Padded (part symbol : String) : Prop :=
  ∃ front back : List Char, (∀ c ∈ front, Text.isBlank c = true) ∧
    (∀ c ∈ back, Text.isBlank c = true) ∧ part.toList = front ++ symbol.toList ++ back

/-- The text is the symbols joined by commas, with blanks around them. -/
def IsListText (symbols : List String) (text : String) : Prop :=
  ∃ parts, List.Forall₂ Text.Padded parts symbols ∧ text = ",".intercalate parts

/-- A symbol that can stand in a text with commas. -/
structure IsListed (symbol : String) : Prop where
  solid : Text.isBlankText symbol = false
  comma : ',' ∉ symbol.toList

instance (symbol : String) : Decidable (IsListed symbol) :=
  decidable_of_iff (Text.isBlankText symbol = false ∧ ',' ∉ symbol.toList)
    ⟨fun h => ⟨h.1, h.2⟩, fun h => ⟨h.solid, h.comma⟩⟩

theorem commaParts_of_isListed {s : String} (h : IsListed s) : commaParts s = [Text.trimmed s] := by
  rw [commaParts_of_not_mem h.comma, if_neg (Text.trim_ne_nil h.solid)]

theorem Text.Padded.trimmed_eq {part symbol : String} (h : Text.Padded part symbol) :
    Text.trimmed part = Text.trimmed symbol := by
  obtain ⟨front, back, hfront, hback, hpart⟩ := h
  rw [Text.trimmed, Text.trimmed, hpart, Text.trim_padded hfront hback]

theorem Text.Padded.isListed {part symbol : String} (h : Text.Padded part symbol)
    (hsymbol : IsListed symbol) : IsListed part := by
  obtain ⟨front, back, hfront, hback, hpart⟩ := h
  have hblank : Text.isBlank ',' = false := by decide
  constructor
  · obtain ⟨c, hc, hsolid⟩ := Text.says_iff.mpr hsymbol.solid
    exact Text.says_iff.mp ⟨c, by simp [hpart, hc], hsolid⟩
  · rw [hpart, List.mem_append, List.mem_append]
    rintro ((hmem | hmem) | hmem)
    · simp [hfront _ hmem] at hblank
    · exact hsymbol.comma hmem
    · simp [hback _ hmem] at hblank

/-- Taking a list apart gives its symbols. -/
theorem commaParts_listText {symbols : List String} {text : String} (h : IsListText symbols text)
    (hsymbols : ∀ s ∈ symbols, IsListed s) : commaParts text = symbols.map Text.trimmed := by
  obtain ⟨parts, hparts, rfl⟩ := h
  rw [commaParts_intercalate]
  induction hparts with
  | nil => rfl
  | cons hpart _ ih =>
    obtain ⟨hsymbol, hrest⟩ := List.forall_mem_cons.mp hsymbols
    have hhead := commaParts_of_isListed (hpart.isListed hsymbol)
    rw [List.flatMap_cons, hhead, hpart.trimmed_eq, ih hrest]
    rfl

theorem not_mem_of_mem_splitOn {c : Char} {s part : List Char} (h : part ∈ s.splitOn c) :
    c ∉ part := by
  induction s generalizing part with
  | nil =>
    obtain rfl : part = [] := by simpa using h
    simp
  | cons d rest ih =>
    rw [List.splitOn_cons_eq_if_modifyHead] at h
    by_cases hd : d = c
    · rw [if_pos (by simpa using hd)] at h
      rcases List.mem_cons.mp h with rfl | hmem
      · simp
      · exact ih hmem
    · rw [if_neg (by simpa using hd)] at h
      cases hrest : rest.splitOn c with
      | nil => simp [hrest] at h
      | cons first more =>
        rw [hrest, List.modifyHead_cons] at h
        have hparts : ∀ part ∈ first :: more, c ∉ part := fun _ hmem => ih (hrest ▸ hmem)
        obtain ⟨hfirst, hmore⟩ := List.forall_mem_cons.mp hparts
        rcases List.mem_cons.mp h with rfl | hmem
        · exact List.not_mem_cons_of_ne_of_not_mem (Ne.symm hd) hfirst
        · exact hmore part hmem

theorem isPart_of_mem_commaParts {s part : String} (h : part ∈ commaParts s) :
    SymbolTable.IsPart part := by
  obtain ⟨chars, hchars, rfl⟩ := List.mem_map.mp h
  obtain ⟨hmem, hne⟩ := List.mem_filter.mp hchars
  obtain ⟨piece, hpiece, rfl⟩ := List.mem_map.mp hmem
  refine ⟨?_, ?_, ?_⟩
  · simpa using hne
  · rw [String.toList_ofList]
    intro hcomma
    exact not_mem_of_mem_splitOn hpiece ((Text.trim_isInfix piece).subset hcomma)
  · rw [Text.trimmed, String.toList_ofList, Text.trim_trim]

/-- Joining a list and taking it apart again gives it back exactly if its members are parts. -/
theorem flatMap_commaParts_eq_iff {ids : List String} :
    ids.flatMap commaParts = ids ↔ ∀ id ∈ ids, SymbolTable.IsPart id := by
  constructor
  · intro h id hid
    rw [← h] at hid
    obtain ⟨whole, -, hpart⟩ := List.mem_flatMap.mp hid
    exact isPart_of_mem_commaParts hpart
  · intro h
    have hsingle : ids.flatMap commaParts = ids.flatMap fun id => [id] := by
      rw [List.flatMap, List.flatMap,
        List.map_congr_left fun id hid => commaParts_of_isPart (h id hid)]
    rw [hsingle, List.flatMap_singleton']

namespace SymbolTable

variable {t : SymbolTable} {symbols ids : List String} {text : String}

theorem resolveOrFail_trimmed (t : SymbolTable) (symbol : String) :
    t.resolveOrFail (Text.trimmed symbol) = t.resolveOrFail symbol := by
  simp [resolveOrFail, resolve, Text.trimmed_trimmed]

theorem resolveAll_trimmed (t : SymbolTable) (symbols : List String) :
    t.resolveAll (symbols.map Text.trimmed) = t.resolveAll symbols := by
  induction symbols with
  | nil => rfl
  | cons symbol rest ih => simp only [List.map_cons, resolveAll, resolveOrFail_trimmed, ih]

theorem resolveAll_of_resolve
    (h : List.Forall₂ (fun symbol id => t.resolve symbol = .ok id) symbols ids) :
    t.resolveAll symbols = .ok ids := by
  induction h with
  | nil => rfl
  | cons hsymbol _ ih => simp [resolveAll, resolveOrFail, hsymbol, ih, Except.map]

theorem resolveItems_strings (h : t.resolveAll symbols = .ok ids) :
    t.resolveItems (symbols.map .string) = .ok (ids.map .string) := by
  induction symbols generalizing ids with
  | nil =>
    obtain rfl := Except.ok.inj h
    rfl
  | cons symbol rest ih =>
    obtain ⟨id, more, hid, hmore, rfl⟩ := resolveAll_cons_eq_ok h
    simp [resolveItems, hid, ih hmore, Except.map]

theorem resolveAll_commaParts (h : commaParts text ≠ []) :
    t.resolveAll (symbolsInText text) = t.resolveAll (commaParts text) := by
  unfold symbolsInText
  split
  · rfl
  · next hcomma =>
    have hparts := commaParts_of_not_mem (s := text) (by simpa using hcomma)
    have htrim : Text.trim text.toList ≠ [] := by
      intro hnil
      simp [hparts, hnil] at h
    rw [hparts, if_neg htrim, ← List.map_singleton, resolveAll_trimmed]

theorem resolveText_of_resolveAll (h : t.resolveAll (symbolsInText text) = .ok ids) :
    t.resolveText text = .ok (",".intercalate ids) := by
  unfold symbolsInText at h
  unfold resolveText
  split
  · next hcomma =>
    rw [if_pos hcomma] at h
    rw [h]
    rfl
  · next hcomma =>
    rw [if_neg hcomma] at h
    obtain ⟨id, more, hid, hmore, rfl⟩ := resolveAll_cons_eq_ok h
    obtain rfl := Except.ok.inj hmore
    simp [hid]

/-- A list in one text resolves to its identifiers in one text. -/
theorem resolveText_listText (htext : IsListText symbols text) (hne : symbols ≠ [])
    (hsymbols : ∀ s ∈ symbols, IsListed s) (hids : t.resolveAll symbols = .ok ids) :
    t.resolveText text = .ok (",".intercalate ids) := by
  have hparts := commaParts_listText htext hsymbols
  apply resolveText_of_resolveAll
  rw [resolveAll_commaParts (by simpa [hparts] using hne), hparts, resolveAll_trimmed, hids]

end SymbolTable

theorem stringItems_strings (items : List String) :
    stringItems (items.map .string) = .ok items := by
  induction items with
  | nil => rfl
  | cons s rest ih => simp [stringItems, ih, Except.map]

namespace Parameter

variable {p : Parameter} {t : SymbolTable} {input : Fields} {symbols ids : List String}

theorem takes_list (hasset : p.assetReference = true) (hkind : p.kind = .stringList)
    (hids : t.resolveAll symbols = .ok ids)
    (hgiven : p.given? input = some (.array (symbols.map .string))) :
    p.Takes t input (.stringList ids) := by
  have hresolve : t.resolveAssets (.array (symbols.map .string)) =
      .ok (.array (ids.map .string)) := by
    simp [SymbolTable.resolveAssets, SymbolTable.resolveItems_strings hids, Except.map]
  refine ⟨_, .asset hasset hgiven hresolve, ?_⟩
  simp [hkind, ParameterKind.coerce, stringItems_strings, Except.map]

theorem takes_listText (hasset : p.assetReference = true) (hkind : p.kind = .stringList)
    {text : String} (hresolve : t.resolveText text = .ok (",".intercalate ids))
    (hgiven : p.given? input = some (.string text)) :
    p.Takes t input (.stringList (ids.flatMap commaParts)) := by
  have hassets : t.resolveAssets (.string text) = .ok (.string (",".intercalate ids)) := by
    simp [SymbolTable.resolveAssets, hresolve, Except.map]
  refine ⟨_, .asset hasset hgiven hassets, ?_⟩
  simp [hkind, ParameterKind.coerce, commaParts_intercalate]

end Parameter

namespace ToolDefinition

/-- What the two spellings of a list of symbols become, where a list of assets is wanted. The array
becomes the identifiers of its symbols, one for each in order. The text becomes the parts between
commas of these identifiers. So they agree exactly if each identifier in the list is one part of
itself, as all identifiers of a plain table are; inputs that differ in nothing else then have the
same arguments or the same error. -/
theorem list_spellings_agree_iff {t : SymbolTable} (ht : t.Reachable) {symbols ids : List String}
    (hne : symbols ≠ []) (hsymbols : ∀ s ∈ symbols, IsListed s)
    (hids : List.Forall₂ (fun symbol id => t.resolve symbol = .ok id) symbols ids)
    {text : String} (htext : IsListText symbols text) {d : ToolDefinition} {p : Parameter}
    (hasset : p.assetReference = true) (hkind : p.kind = .stringList) {listed joined : Fields}
    (hlisted : p.given? listed = some (.array (symbols.map .string)))
    (hjoined : p.given? joined = some (.string text)) :
    d.argument? t listed p = .ok (some (.stringList ids)) ∧
    d.argument? t joined p = .ok (some (.stringList (ids.flatMap commaParts))) ∧
    (d.argument? t joined p = d.argument? t listed p ↔ ∀ id ∈ ids, SymbolTable.IsPart id) ∧
    (t.Plain → d.argument? t joined p = d.argument? t listed p) ∧
    ((∀ id ∈ ids, SymbolTable.IsPart id) →
      (∀ q ∈ d.parameters, q ≠ p → q.given? joined = q.given? listed) →
      d.arguments t joined = d.arguments t listed) := by
  have hall : t.resolveAll symbols = .ok ids := SymbolTable.resolveAll_of_resolve hids
  have hresolve := SymbolTable.resolveText_listText htext hne hsymbols hall
  have hlist : d.argument? t listed p = .ok (some (.stringList ids)) :=
    argument?_of_takes (Parameter.takes_list hasset hkind hall hlisted)
  have hparts : d.argument? t joined p = .ok (some (.stringList (ids.flatMap commaParts))) :=
    argument?_of_takes (Parameter.takes_listText hasset hkind hresolve hjoined)
  have hiff : d.argument? t joined p = d.argument? t listed p ↔
      ∀ id ∈ ids, SymbolTable.IsPart id := by
    rw [hlist, hparts, ← flatMap_commaParts_eq_iff]
    simp
  refine ⟨hlist, hparts, hiff, ?_, ?_⟩
  · intro hplain
    apply hiff.mpr
    intro id hid
    exact hplain id (ht.consistent.points_of_resolveAll hall id hid)
  · intro hidentifiers hothers
    apply argumentsOf_congr
    intro q hq
    by_cases hqp : q = p
    · rw [hqp]
      exact hiff.mpr hidentifiers
    · exact argument?_congr (hothers q hq hqp)

/-- Blanks around the commas and around a symbol make no difference. -/
theorem list_spellings_agree_iff_blanks :
    let t := SymbolTable.empty.insertAll [("sui", "0x2::sui"), ("usdc", "0xdb::usdc")]
    let d := (MarketTool.tokenPrices (({} : Snapshot).provider Unit)).definition
    let listed : Fields := [("symbols", .array [.string "SUI", .string " usdc"])]
    let joined : Fields := [("symbols", .string "SUI ,\t usdc ")]
    d.arguments t listed = .ok [("symbols", .stringList ["0x2::sui", "0xdb::usdc"])] ∧
      d.arguments t joined = d.arguments t listed := by
  intro t d listed joined
  have hreachable : t.Reachable := ⟨_, rfl⟩
  have hsymbols : ∀ s ∈ ["SUI", " usdc"], IsListed s := by decide
  have hids : List.Forall₂ (fun symbol id => t.resolve symbol = .ok id) ["SUI", " usdc"]
      ["0x2::sui", "0xdb::usdc"] := .cons rfl (.cons rfl .nil)
  have htext : IsListText ["SUI", " usdc"] "SUI ,\t usdc " := by
    refine ⟨["SUI ", "\t usdc "], .cons ?_ (.cons ?_ .nil), by decide⟩
    · exact ⟨[], [' '], by simp, List.all_eq_true.mp rfl, by decide⟩
    · exact ⟨['\t'], [' '], List.all_eq_true.mp rfl, List.all_eq_true.mp rfl, by decide⟩
  let p : Parameter := ⟨"symbols", .stringList, "Token symbols, e.g. [\"SUI\", \"USDC\"]", true, none,
    true⟩
  have hlisted : p.given? listed = some (.array (["SUI", " usdc"].map .string)) := rfl
  have hjoined : p.given? joined = some (.string "SUI ,\t usdc ") := rfl
  obtain ⟨-, -, -, -, hsame⟩ := list_spellings_agree_iff hreachable (by simp) hsymbols hids htext
    (d := d) rfl rfl hlisted hjoined
  have hparts : ∀ id ∈ ["0x2::sui", "0xdb::usdc"], SymbolTable.IsPart id := by decide
  refine ⟨rfl, hsame hparts ?_⟩
  intro q hq hne
  exact absurd (List.mem_singleton.mp hq) hne

/-- An identifier with a comma in it stays whole in an array and is broken up in a text. -/
theorem joined_list_breaks_identifier :
    let t := SymbolTable.empty.insertAll
      [("LP", "0x5::lp::LP<0x2::sui::SUI, 0xdb::usdc::USDC>"), ("SUI", "0x2::sui::SUI")]
    let d := (MarketTool.tokenPrices (({} : Snapshot).provider Unit)).definition
    t.Reachable ∧ IsListText ["LP", "SUI"] "LP, SUI" ∧
      t.resolveAll ["LP", "SUI"] =
        .ok ["0x5::lp::LP<0x2::sui::SUI, 0xdb::usdc::USDC>", "0x2::sui::SUI"] ∧
      d.arguments t [("symbols", .array [.string "LP", .string "SUI"])] =
        .ok [("symbols", .stringList
          ["0x5::lp::LP<0x2::sui::SUI, 0xdb::usdc::USDC>", "0x2::sui::SUI"])] ∧
      d.arguments t [("symbols", .string "LP, SUI")] =
        .ok [("symbols", .stringList
          ["0x5::lp::LP<0x2::sui::SUI", "0xdb::usdc::USDC>", "0x2::sui::SUI"])] := by
  intro t d
  have hsymbols : ∀ s ∈ ["LP", "SUI"], IsListed s := by decide
  have htext : IsListText ["LP", "SUI"] "LP, SUI" := by
    refine ⟨["LP", " SUI"], .cons ?_ (.cons ?_ .nil), by decide⟩
    · exact ⟨[], [], by simp, by simp, by decide⟩
    · exact ⟨[' '], [], List.all_eq_true.mp rfl, by simp, by decide⟩
  have hids : t.resolveAll ["LP", "SUI"] =
      .ok ["0x5::lp::LP<0x2::sui::SUI, 0xdb::usdc::USDC>", "0x2::sui::SUI"] := rfl
  have hresolve := SymbolTable.resolveText_listText htext (by simp) hsymbols hids
  have hparts :
      ["0x5::lp::LP<0x2::sui::SUI, 0xdb::usdc::USDC>", "0x2::sui::SUI"].flatMap commaParts =
        ["0x5::lp::LP<0x2::sui::SUI", "0xdb::usdc::USDC>", "0x2::sui::SUI"] := by
    decide +kernel
  let p : Parameter := ⟨"symbols", .stringList, "Token symbols, e.g. [\"SUI\", \"USDC\"]", true, none,
    true⟩
  have hgiven : p.given? [("symbols", .string "LP, SUI")] = some (.string "LP, SUI") := rfl
  have hargument := argument?_of_takes (d := d)
    (Parameter.takes_listText rfl rfl hresolve hgiven)
  rw [hparts] at hargument
  exact ⟨⟨_, rfl⟩, htext, hids, rfl, argumentsOf_cons hargument []⟩

end ToolDefinition

end MarketQuery
