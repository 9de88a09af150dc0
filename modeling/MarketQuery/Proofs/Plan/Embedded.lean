import MarketQuery.Proofs.Plan.BraceScan

/-!
Finding a JSON object in prose. The object is one group of the scan, no group before it is taken,
and the whole reply is no other object: the reader would have to end at the last closed brace of
the prose. So the object is found, whatever its strings hold and whatever follows it.
-/
namespace MarketQuery

/-- A text of an object and nothing else, with the members that it denotes. -/
structure ObjectText (text : List Char) (m : Fields) : Prop where
  opens : text.head? = some '{'
  closes : text.getLast? = some '}'
  parses : Json.parseObject? text = some m

theorem isObject_of_value {doc : Document} {m : Fields} (h : doc.value? = some (.object m)) :
    doc.isObject = true := by
  cases doc with
  | object members => rfl
  | null | bool b | number literal | string spelling | array items =>
    simp [Document.value?, Document.valueWithin?, Document.nestingLimit] at h

theorem parseObject?_eq_some {text : List Char} {m : Fields}
    (h : Json.parseObject? text = some m) :
    ∃ doc, Reader.document? text = some doc ∧ doc.value? = some (.object m) := by
  obtain ⟨v, hv, hm⟩ := Option.bind_eq_some_iff.mp h
  obtain ⟨doc, hdoc, hvalue⟩ := Option.bind_eq_some_iff.mp hv
  cases v with
  | object fields =>
    obtain rfl : fields = m := by simpa [Json.fields?] using hm
    exact ⟨doc, hdoc, hvalue⟩
  | null | bool b | number n | string s | array items => simp [Json.fields?] at hm

/-- A text of an object begins with its brace, unless it begins with white space. -/
theorem parseObject?_head {c : Char} {rest : List Char} {m : Fields}
    (hc : Reader.isSpace c = false) (h : Json.parseObject? (c :: rest) = some m) :
    c = '{' ∧ ∃ final doc, Reader.run Reader.objectStart rest = some final ∧
      Reader.finish final = some doc ∧ doc.value? = some (.object m) := by
  obtain ⟨doc, hdoc, hvalue⟩ := parseObject?_eq_some h
  obtain ⟨hbrace, final, hrun, hfinish⟩ := Reader.object_head hc hdoc (isObject_of_value hvalue)
  exact ⟨hbrace, final, doc, hrun, hfinish, hvalue⟩

/-- The reader gets through the text of an object and ends where nothing is open. -/
theorem ObjectText.run {text : List Char} {m : Fields} (h : ObjectText text m) :
    ∃ body final doc, text = '{' :: (body ++ ['}']) ∧
      Reader.run Reader.objectStart (body ++ ['}']) = some final ∧
      final.stack = [] ∧ final.mode = .done doc ∧ doc.value? = some (.object m) := by
  obtain ⟨rest, rfl⟩ := List.head?_eq_some_iff.mp h.opens
  obtain ⟨-, final, doc, hrun, hfinish, hvalue⟩ := parseObject?_head (by decide) h.parses
  have hfinal := Reader.within_objectStart.run hrun
  obtain ⟨hstack, hdone, -⟩ := hfinal.finish hfinish
  have hrest : rest.getLast? = some '}' := by
    have hlast := h.closes
    cases rest with
    | nil => simp at hlast
    | cons c rest => simpa [List.getLast?_cons_cons] using hlast
  obtain ⟨body, rfl⟩ := List.getLast?_eq_some_iff.mp hrest
  exact ⟨body, final, doc, rfl, hrun, hstack, hdone, hvalue⟩

/-- The text of an object is one group of the scan, whatever its strings hold. -/
theorem ObjectText.scan {text : List Char} {m : Fields} (h : ObjectText text m) :
    (BraceScan.run BraceScan.start text).depth = 0 ∧
      braceSpans text = [⟨0, Text.byteLength text⟩] := by
  obtain ⟨body, final, doc, rfl, hrun, hstack, -, -⟩ := h.run
  have hinStep := Reader.inStep_objectStart.run hrun
  have hfound := Reader.inStep_objectStart.run_closing (by simp [Reader.objectStart]) hrun hstack
  constructor
  · have hdepth := hinStep.depth
    rw [hstack] at hdepth
    exact hdepth
  · rw [braceSpans, BraceScan.run, List.foldl_cons, ← BraceScan.run, hfound,
      Text.byteLength_cons]
    rfl

theorem ObjectText.braceObjects_append {text : List Char} {m : Fields} (h : ObjectText text m)
    (more : List Char) : braceObjects (text ++ more) = text :: braceObjects more := by
  obtain ⟨hclosed, hspans⟩ := h.scan
  have hslice : Text.Span.slice? ⟨0, Text.byteLength text⟩ text = some text :=
    Text.Span.slice?_eq_some_iff.mpr ⟨[], [], by simp, rfl, rfl⟩
  rw [MarketQuery.braceObjects_append hclosed]
  simp [braceObjects, hspans, hslice]

/-- If more text behind an object still leaves an object, it is the same one. -/
theorem ObjectText.parse_append {text more : List Char} {m found : Fields}
    (h : ObjectText text m) (hfound : Json.parseObject? (text ++ more) = some found) :
    found = m := by
  obtain ⟨body, final, own, rfl, hrun, hstack, hdone, hown⟩ := h.run
  rw [List.cons_append] at hfound
  obtain ⟨-, last, doc, hlast, hfinish, hvalue⟩ := parseObject?_head (by decide) hfound
  rw [Reader.run_append, hrun] at hlast
  obtain ⟨-, rfl⟩ := Reader.run_of_done hdone hlast
  obtain rfl : own = doc := by simpa [Reader.finish, hdone] using hfinish
  simpa [hvalue] using hown

/-- Prose in which every brace is closed cannot begin an object that goes on behind it. -/
theorem ObjectText.parse_behind {prose text more : List Char} {m : Fields}
    (h : ObjectText text m) {c : Char} (hhead : prose.head? = some c)
    (hblank : Text.isBlank c = false)
    (hclosed : (BraceScan.run BraceScan.start prose).depth = 0) :
    Json.parseObject? (prose ++ (text ++ more)) = none := by
  rw [Option.eq_none_iff_forall_ne_some]
  intro found hfound
  obtain ⟨rest, rfl⟩ := List.head?_eq_some_iff.mp hhead
  rw [List.cons_append] at hfound
  obtain ⟨rfl, final, -, hrun, -⟩ :=
    parseObject?_head (Reader.isSpace_of_not_isBlank hblank) hfound
  rw [Reader.run_append] at hrun
  obtain ⟨mid, hmid, hrest⟩ := Option.bind_eq_some_iff.mp hrun
  have hinStep := Reader.inStep_objectStart.run hmid
  obtain ⟨whole, hdone, -⟩ := hinStep.within.finished (hinStep.stack_of_zero hclosed)
  obtain ⟨hspaces, -⟩ := Reader.run_of_done hdone hrest
  obtain ⟨body, -, -, rfl, -⟩ := h.run
  have hopen := hspaces '{' (by simp)
  revert hopen
  decide

theorem fencedBlocks_eq_nil {text : List Char} (h : ¬ fence <:+: text) :
    fencedBlocks text = [] := by
  have hcut := (Text.cutAt_eq_none_iff fence text).mpr h
  unfold fencedBlocks
  split
  · rfl
  · next hopened => simp [hcut] at hopened

/-- A JSON object in prose is found, whatever its strings hold and whatever follows it, if no brace
before it is left open, no group before it is an object itself and there is no fence. -/
theorem extractObject?_embedded {p o s : String} {m : Fields} (hobject : ObjectText o.toList m)
    (hfence : ¬ fence <:+: (p ++ o ++ s).toList)
    (hclosed : (BraceScan.run BraceScan.start p.toList).depth = 0)
    (hprose : ∀ group ∈ braceObjects p.toList, Json.parseObject? group = none) :
    extractObject? (p ++ o ++ s) = some m := by
  have hwhole : Text.trim (p ++ o ++ s).toList =
      Text.trimStart p.toList ++ (o.toList ++ Text.trimEnd s.toList) := by
    rw [String.toList_append, String.toList_append,
      Text.trim_append_append hobject.opens hobject.closes (by decide) (by decide),
      List.append_assoc]
  have hnofence : fencedBlocks (Text.trim (p ++ o ++ s).toList) = [] :=
    fencedBlocks_eq_nil fun hin => hfence (hin.trans (Text.trim_isInfix _))
  have hstart : (BraceScan.run BraceScan.start (Text.trimStart p.toList)).depth = 0 := by
    rw [depth_run_trimStart, hclosed]
  have hgroups : (braceObjects (Text.trim (p ++ o ++ s).toList)).findSome? Json.parseObject? =
      some m := by
    have hp : (braceObjects (Text.trimStart p.toList)).findSome? Json.parseObject? = none := by
      rw [List.findSome?_eq_none_iff, braceObjects_trimStart]
      exact hprose
    rw [hwhole, braceObjects_append hstart,
      hobject.braceObjects_append, List.findSome?_append, hp]
    simp [hobject.parses]
  -- The whole reply is an object only if it is this one, with blanks around it.
  have hfirst : ∀ found, Json.parseObject? (Text.trim (p ++ o ++ s).toList) = some found →
      found = m := by
    intro found hfound
    rw [hwhole] at hfound
    cases hp : Text.trimStart p.toList with
    | nil =>
      rw [hp] at hfound
      exact hobject.parse_append hfound
    | cons c rest =>
      rw [hp] at hfound
      have hblank := Text.isBlank_head_trimStart (s := p.toList) (c := c) (by rw [hp]; rfl)
      have hnone : Json.parseObject? (c :: rest ++ (o.toList ++ Text.trimEnd s.toList)) = none :=
        hobject.parse_behind rfl hblank (by rw [← hp, hstart])
      rw [hnone] at hfound
      simp at hfound
  simp only [extractObject?, hnofence, hgroups, List.findSome?_nil, Option.none_or]
  cases hparse : Json.parseObject? (Text.trim (p ++ o ++ s).toList) with
  | none => rfl
  | some found => rw [hfirst found hparse, Option.some_or]

/-- Braces and a quote before the object, both in its strings, and both left open behind it. -/
theorem extractObject?_embedded_braces :
    extractObject? ("I \x7bthink\x7d this is \"it: " ++ "\x7b\"a\": \"\x7d\x7b \\\"x\"\x7d" ++
      " hope \x7b\"") = some [("a", .string "\x7d\x7b \"x")] := by
  have hobject : ObjectText "\x7b\"a\": \"\x7d\x7b \\\"x\"\x7d".toList
      [("a", .string "\x7d\x7b \"x")] := ⟨by decide, by decide, by rfl⟩
  have hgroups : braceObjects "I \x7bthink\x7d this is \"it: ".toList =
      ["\x7bthink\x7d".toList] := by rfl
  refine extractObject?_embedded hobject ?_ (by rfl) ?_
  · simp only [String.toList_append]
    decide +kernel
  · rw [hgroups]
    intro group hgroup
    rw [List.mem_singleton.mp hgroup]
    rfl

end MarketQuery
