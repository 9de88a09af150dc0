import MarketQuery.Proofs.Plan.Embedded
import MarketQuery.Proofs.Plan.Strings

/-!
Finding a JSON object in a fenced block. The whole reply is no object: the reader would have to
stand outside of all strings at the line break behind the opening fence, and so it would meet the
closing fence outside of all strings too. Prose may end in backticks of its own, but these only move
the first fence a little ahead, into the line that is dropped. So the first block is the object.
-/
namespace MarketQuery

namespace Reader

/-- The brace that completes the text of an object. -/
theorem Within.step_closing {s next : State} {c : Char} (h : Within true s) (hopen : s.stack ≠ [])
    (hstep : Reader.step s c = some next) (hclosed : next.stack = []) : c = '}' := by
  have hmoves := (step_leads (h.inside hopen) hstep).moves
  have hlast := h.outermost hopen
  have hnil : kinds next.stack = [] := by rw [hclosed]; rfl
  rw [hnil] at hmoves
  generalize kinds s.stack = k at hmoves hlast
  generalize s.mode.scan = before at hmoves
  generalize next.mode.scan = after at hmoves
  cases hmoves with
  | closeObject => rfl
  | closeArray | escaped | backslash | closeQuote | text | openQuote | ordinary => simp at hlast

/-- Behind the brace that completes an object there is only white space. -/
theorem Within.exists_closing {s final : State} {text : List Char} (h : Within true s)
    (hopen : s.stack ≠ []) (hrun : Reader.run s text = some final) (hclosed : final.stack = []) :
    ∃ body after, text = body ++ '}' :: after ∧ (∀ c ∈ after, isSpace c = true) ∧
      Reader.run s (body ++ ['}']) = some final := by
  induction text generalizing s with
  | nil =>
    obtain rfl : s = final := by simpa [Reader.run] using hrun
    exact absurd hclosed hopen
  | cons c rest ih =>
    rw [Reader.run] at hrun
    split at hrun
    · simp at hrun
    · next mid hstep =>
      have hmid := h.step hstep
      by_cases hdone : mid.stack = []
      · obtain ⟨doc, hmode, -⟩ := hmid.finished hdone
        obtain ⟨hspaces, rfl⟩ := run_of_done hmode hrun
        obtain rfl := h.step_closing hopen hstep hdone
        exact ⟨[], rest, rfl, hspaces, by simp [Reader.run, hstep]⟩
      · obtain ⟨body, after, rfl, hspaces, hbody⟩ := ih hmid hdone hrun
        exact ⟨c :: body, after, rfl, hspaces, by simpa [Reader.run, hstep] using hbody⟩

theorem document?_cons_of_isSpace {c : Char} (hc : isSpace c = true) (rest : List Char) :
    document? (c :: rest) = document? rest := by
  simp [document?, run, step, start, hc]

end Reader

theorem objectText_of_run {body : List Char} {final : Reader.State} {doc : Document} {m : Fields}
    (hrun : Reader.run Reader.objectStart (body ++ ['}']) = some final)
    (hfinish : Reader.finish final = some doc) (hvalue : doc.value? = some (.object m)) :
    ObjectText ('{' :: (body ++ ['}'])) m where
  opens := rfl
  closes := by
    rw [← List.cons_append, List.getLast?_append]
    rfl
  parses := by
    have hdoc : Reader.document? ('{' :: (body ++ ['}'])) = some doc :=
      Option.bind_eq_some_iff.mpr ⟨final, hrun, hfinish⟩
    simp [Json.parseObject?, Json.parse?, hdoc, hvalue, Json.fields?]

/-- What denotes an object is the text of an object between blanks. -/
theorem exists_objectText {text : List Char} {m : Fields} (h : Json.parseObject? text = some m) :
    ∃ before object after, text = before ++ object ++ after ∧ ObjectText object m ∧
      (∀ c ∈ before, Text.isBlank c = true) ∧ ∀ c ∈ after, Text.isBlank c = true := by
  induction text with
  | nil => simp [Json.parseObject?, Json.parse?, Reader.document?, Reader.run, Reader.finish,
      Reader.start] at h
  | cons c rest ih =>
    by_cases hc : Reader.isSpace c = true
    · rw [Json.parseObject?, Json.parse?, Reader.document?_cons_of_isSpace hc] at h
      obtain ⟨before, object, after, rfl, hobject, hbefore, hafter⟩ := ih h
      refine ⟨c :: before, object, after, rfl, hobject, ?_, hafter⟩
      simpa [Reader.isSpace_isBlank c hc] using hbefore
    · obtain ⟨rfl, final, doc, hrun, hfinish, hvalue⟩ := parseObject?_head (by simpa using hc) h
      have hstart := Reader.within_objectStart
      obtain ⟨hclosed, -, -⟩ := (hstart.run hrun).finish hfinish
      obtain ⟨body, after, rfl, hspaces, hbody⟩ :=
        hstart.exists_closing (by simp [Reader.objectStart]) hrun hclosed
      exact ⟨[], _, after, by simp, objectText_of_run hbody hfinish hvalue, by simp,
        fun d hd => Reader.isSpace_isBlank d (hspaces d hd)⟩

/-- The first fence begins where the prose before it ends, or at backticks that end the prose. -/
theorem cutAt_fence {prose : List Char} (h : ¬ fence <:+: prose) (rest : List Char) :
    ∃ kept ticks, prose = kept ++ ticks ∧ (∀ c ∈ ticks, c = '\x60') ∧
      Text.cutAt fence (prose ++ (fence ++ rest)) = some (kept, ticks ++ rest) := by
  induction prose with
  | nil => exact ⟨[], [], rfl, by simp, by simp [Text.cutAt, fence]⟩
  | cons c prose ih =>
    rw [List.infix_cons_iff, not_or] at h
    by_cases hc : fence <+: c :: (prose ++ (fence ++ rest))
    · obtain ⟨rfl, hrest⟩ : '\x60' = c ∧ ['\x60', '\x60'] <+: prose ++ (fence ++ rest) :=
        List.cons_prefix_cons.mp hc
      -- A third backtick would make a fence of its own.
      rcases prose with _ | ⟨d, _ | ⟨e, prose⟩⟩
      · exact ⟨[], ['\x60'], rfl, by simp, by simp [Text.cutAt, fence]⟩
      · obtain rfl : '\x60' = d := by simpa [fence] using hrest
        exact ⟨[], ['\x60', '\x60'], rfl, by simp, by simp [Text.cutAt, fence]⟩
      · refine absurd ?_ h.1
        simpa [fence] using hrest
    · obtain ⟨kept, ticks, rfl, hticks, hcut⟩ := ih h.2
      refine ⟨c :: kept, ticks, rfl, hticks, ?_⟩
      have hprefix : fence.isPrefixOf (c :: (kept ++ ticks ++ (fence ++ rest))) = false := by
        simpa [← List.isPrefixOf_iff_prefix] using hc
      rw [List.cons_append, Text.cutAt, hprefix, hcut]
      rfl

/-- A text that ends in no backtick ends before the fence that closes it. -/
theorem cutAt_fence_closing {body : List Char} (h : ¬ fence <:+: body)
    (hlast : body.getLast? ≠ some '\x60') (rest : List Char) :
    Text.cutAt fence (body ++ (fence ++ rest)) = some (body, rest) := by
  obtain ⟨kept, ticks, rfl, hticks, hcut⟩ := cutAt_fence h rest
  cases hend : ticks.getLast? with
  | none =>
    obtain rfl := List.getLast?_eq_none_iff.mp hend
    simpa using hcut
  | some c =>
    obtain rfl := hticks c (List.mem_of_getLast? hend)
    simp [List.getLast?_append, hend] at hlast

theorem fencedBody_line {info : List Char} (hnewline : '\n' ∉ info) (hbrace : '{' ∉ info)
    (body : List Char) : fencedBody (info ++ '\n' :: body) = body := by
  simp [fencedBody, Text.cutAt_append_cons hnewline, hbrace]

theorem fencedBlocks_eq_cons {s before after block rest : List Char}
    (hopen : Text.cutAt fence s = some (before, after))
    (hclose : Text.cutAt fence (fencedBody after) = some (block, rest)) :
    fencedBlocks s = block :: fencedBlocks rest := by
  rw [fencedBlocks]
  split
  · next hnone => simp [hopen] at hnone
  · next before' after' hcut =>
    obtain ⟨rfl, rfl⟩ : before' = before ∧ after' = after := by simpa [hopen, eq_comm] using hcut
    split
    · next hnone => simp [hclose] at hnone
    · next block' rest' hcut' =>
      obtain ⟨rfl, rfl⟩ : block' = block ∧ rest' = rest := by
        simpa [hclose, eq_comm] using hcut'
      rfl

/-- A reply with a block that is fenced: prose, the line of the fence, the block and the rest. -/
def fencedReply (prose info block rest : List Char) : List Char :=
  prose ++ (fence ++ (info ++ '\n' :: (block ++ (fence ++ rest))))

/-- The first block is what stands between the line of the first fence and the next fence. -/
theorem fencedBlocks_first {prose info body : List Char} (hprose : ¬ fence <:+: prose)
    (hnewline : '\n' ∉ info) (hbrace : '{' ∉ info) (hbody : ¬ fence <:+: body)
    (hlast : body.getLast? ≠ some '\x60') (rest : List Char) :
    fencedBlocks (fencedReply prose info body rest) = body :: fencedBlocks rest := by
  obtain ⟨kept, ticks, -, hticks, hopen⟩ :=
    cutAt_fence hprose (info ++ '\n' :: (body ++ (fence ++ rest)))
  refine fencedBlocks_eq_cons hopen ?_
  have hticks' : ∀ c, c ≠ '\x60' → c ∉ ticks := fun c hc hmem => hc (hticks c hmem)
  -- Backticks that end the prose now stand in front of the line, and are dropped with it.
  rw [← List.append_assoc,
    fencedBody_line (by simp [hnewline, hticks']) (by simp [hbrace, hticks'])]
  exact cutAt_fence_closing hbody hlast rest

/-- The strings of an object begin and end in its text. -/
theorem ObjectText.foldl_quoted {text : List Char} {m : Fields} (h : ObjectText text m) :
    text.foldl Reader.quoted .plain = .plain := by
  obtain ⟨body, final, doc, rfl, hrun, -, hdone, -⟩ := h.run
  have hscan := Reader.within_objectStart.scan_run hrun
  rw [hdone] at hscan
  exact hscan.symm

theorem parseObject?_newline_backtick {front gap : List Char} {c : Char}
    (hhead : front.head? = some c) (hblank : Text.isBlank c = false)
    (hgap : gap.foldl Reader.quoted .plain = .plain) (back : List Char) :
    Json.parseObject? (front ++ '\n' :: (gap ++ '\x60' :: back)) = none := by
  rw [Option.eq_none_iff_forall_ne_some]
  intro found hfound
  obtain ⟨rest, rfl⟩ := List.head?_eq_some_iff.mp hhead
  rw [List.cons_append] at hfound
  obtain ⟨-, final, -, hrun, -⟩ := parseObject?_head (Reader.isSpace_of_not_isBlank hblank) hfound
  simp [Reader.run_newline_backtick hgap] at hrun

/-- What a fenced block holds: the text of an object between blanks, and no fence. -/
structure FencedText (block : List Char) (m : Fields) : Prop where
  trimmed : Json.parseObject? (Text.trim block) = some m
  unfenced : ¬ fence <:+: block
  last : block.getLast? ≠ some '\x60'
  plain : block.foldl Reader.quoted .plain = .plain

theorem not_mem_of_blanks {c : Char} {blanks : List Char} (hc : Text.isBlank c = false)
    (h : ∀ b ∈ blanks, Text.isBlank b = true) : c ∉ blanks := by
  intro hmem
  simp [h c hmem] at hc

theorem ObjectText.fencedText {left text right : List Char} {m : Fields} (h : ObjectText text m)
    (hleft : ∀ c ∈ left, Text.isBlank c = true) (hright : ∀ c ∈ right, Text.isBlank c = true)
    (hfence : ¬ fence <:+: text) : FencedText (left ++ text ++ right) m where
  trimmed := by
    rw [Text.trim_append_append h.opens h.closes (by decide) (by decide),
      Text.trimStart_of_blanks hleft, Text.trimEnd_of_blanks hright, List.nil_append,
      List.append_nil]
    exact h.parses
  unfenced hin := by
    have hticks : ∀ blanks : List Char, (∀ b ∈ blanks, Text.isBlank b = true) →
        ∀ c ∈ blanks, c ∉ fence := by
      intro blanks hblanks c hc hmem
      obtain rfl : c = '\x60' := by simpa [fence] using hmem
      exact not_mem_of_blanks (by decide) hblanks hc
    exact hfence (Text.infix_of_infix_append (hticks left hleft)
      (Text.infix_of_append_infix (hticks right hright) hin))
  last hlast := by
    rw [List.getLast?_append, Option.or_eq_some_iff] at hlast
    rcases hlast with hlast | ⟨-, hlast⟩
    · exact not_mem_of_blanks (by decide) hright (List.mem_of_getLast? hlast)
    · simp [List.getLast?_append, h.closes] at hlast
  plain := by
    rw [List.foldl_append, List.foldl_append,
      Reader.foldl_quoted_plain (not_mem_of_blanks (by decide) hleft), h.foldl_quoted,
      Reader.foldl_quoted_plain (not_mem_of_blanks (by decide) hright)]

/-- Blanks may stand around the text, and more white space may belong to the text itself. -/
theorem fencedText_of_parse {left text right : List Char} {m : Fields}
    (h : Json.parseObject? text = some m) (hleft : ∀ c ∈ left, Text.isBlank c = true)
    (hright : ∀ c ∈ right, Text.isBlank c = true) (hfence : ¬ fence <:+: text) :
    FencedText (left ++ text ++ right) m := by
  obtain ⟨before, object, after, rfl, hobject, hbefore, hafter⟩ := exists_objectText h
  have hunfenced : ¬ fence <:+: object := fun hin =>
    hfence (hin.trans (List.infix_append before object after))
  have hpadded : FencedText ((left ++ before) ++ object ++ (after ++ right)) m :=
    hobject.fencedText (List.forall_mem_append.mpr ⟨hleft, hbefore⟩)
      (List.forall_mem_append.mpr ⟨hafter, hright⟩) hunfenced
  simpa using hpadded

theorem trim_fencedReply (prose info block rest : List Char) :
    Text.trim (fencedReply prose info block rest) =
      fencedReply (Text.trimStart prose) info block (Text.trimEnd rest) := by
  have hlast : (fence ++ (info ++ '\n' :: (block ++ fence))).getLast? = some '\x60' := by
    simp [fence, List.getLast?_append, List.getLast?_cons]
  have h : Text.trim (prose ++ (fence ++ (info ++ '\n' :: (block ++ fence))) ++ rest) = _ :=
    Text.trim_append_append rfl hlast (by decide) (by decide)
  simpa [fencedReply] using h

/-- The whole of such a reply is no object, whatever its prose looks like. -/
theorem FencedText.parse_reply {block : List Char} {m : Fields} (h : FencedText block m)
    {prose : List Char} (hprose : ∀ c, prose.head? = some c → Text.isBlank c = false)
    (info rest : List Char) : Json.parseObject? (fencedReply prose info block rest) = none := by
  have hreply : fencedReply prose info block rest =
      (prose ++ (fence ++ info)) ++ '\n' :: (block ++ '\x60' :: ('\x60' :: '\x60' :: rest)) := by
    simp [fencedReply, fence]
  rw [hreply]
  cases prose with
  | nil => exact parseObject?_newline_backtick rfl (by decide) h.plain _
  | cons c prose => exact parseObject?_newline_backtick rfl (hprose c rfl) h.plain _

/-- Behind prose without a fence, an object in a fenced block is found, whatever braces, quotes,
objects and fences stand before the block, on its first line and behind it. -/
theorem extractObject?_fenced {prose info left text right rest : String} {m : Fields}
    (hprose : ¬ fence <:+: prose.toList) (hnewline : '\n' ∉ info.toList)
    (hbrace : '{' ∉ info.toList) (hleft : Text.isBlankText left = true)
    (hright : Text.isBlankText right = true) (htext : Json.parseObject? text.toList = some m)
    (hfence : ¬ fence <:+: text.toList) :
    extractObject? (prose ++ "```" ++ info ++ "\n" ++ left ++ text ++ right ++ "```" ++ rest) =
      some m := by
  have hblock : FencedText (left.toList ++ text.toList ++ right.toList) m :=
    fencedText_of_parse htext (List.all_eq_true.mp hleft) (List.all_eq_true.mp hright) hfence
  have hreply : (prose ++ "```" ++ info ++ "\n" ++ left ++ text ++ right ++ "```" ++ rest).toList =
      fencedReply prose.toList info.toList (left.toList ++ text.toList ++ right.toList)
        rest.toList := by
    simp [fencedReply, fence]
  have hunfenced : ¬ fence <:+: Text.trimStart prose.toList := fun hin =>
    hprose (hin.trans (Text.trimStart_isSuffix prose.toList).isInfix)
  have hwhole : Json.parseObject? (fencedReply (Text.trimStart prose.toList) info.toList
      (left.toList ++ text.toList ++ right.toList) (Text.trimEnd rest.toList)) = none :=
    hblock.parse_reply (fun _ => Text.isBlank_head_trimStart) _ _
  have hfirst := fencedBlocks_first hunfenced hnewline hbrace hblock.unfenced hblock.last
    (Text.trimEnd rest.toList)
  simp only [extractObject?, hreply, trim_fencedReply, hwhole, hfirst, List.findSome?_cons,
    hblock.trimmed, Option.none_or, Option.some_or]

/-- Prose that begins like an object and ends in backticks, a first line with quotes and backticks,
and another object in a fence behind the block. -/
theorem extractObject?_fenced_backticks :
    extractObject? ("\x7b\"a\": \"\x7d ``" ++ "```" ++ "json `\"" ++ "\n" ++ "\t" ++
      "\x7b\"b\": \"\x7d``\"\x7d " ++ "\r\n" ++ "```" ++ " \x7b\"c ```\n\x7b\x7d\n```") =
      some [("b", .string "\x7d``")] := by
  refine extractObject?_fenced ?_ (by decide) (by decide) (by decide) (by decide) (by rfl) ?_
  · decide +kernel
  · decide +kernel

end MarketQuery
