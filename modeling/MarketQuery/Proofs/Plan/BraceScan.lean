import Mathlib.Data.List.Basic
import Mathlib.Data.List.Induction
import Mathlib.Data.List.TakeWhile
import Mathlib.Tactic.ByContra
import MarketQuery.Proofs.Plan.Groups

/-!
The scan for groups in braces. Behind every text that it has gone over it holds the closed groups
that lie in no other group, and the group that is still open. What it finds in a text does not
depend on what stood before, if no brace was left open there. Over the text of a JSON object it
stays in step with the reader: its depth is the number of open objects, and strings and escapes
begin and end for both at once. So the whole object is one group.
-/
namespace MarketQuery

open Reader (quoted)
open Text (Span byteLength)

namespace BraceScan

open Braces

section Step

variable {s : State} {c : Char}

theorem run_append (s : State) (front back : List Char) :
    run s (front ++ back) = run (run s front) back :=
  List.foldl_append

/-- Outside of all groups only an opening brace counts. -/
theorem step_of_zero (hdepth : s.depth = 0) (hmode : s.mode = .plain) (hc : c ≠ '{') :
    step s c = { s with offset := s.offset + c.utf8Size } := by
  simp [step, State.take, hdepth, hmode, hc]

/-- Inside of a group the scan counts braces as the depth does, until the group ends. -/
theorem step_inside (hnext : 0 < s.depth + weight s.mode c) (hpos : 0 < s.depth) :
    step s c =
      { s with
        depth := (s.depth + weight s.mode c).toNat
        mode := quoted s.mode c
        offset := s.offset + c.utf8Size } := by
  obtain ⟨depth, mode, opened, offset, found⟩ := s
  simp only at hnext hpos
  have hne : depth ≠ 0 := Nat.ne_of_gt hpos
  cases mode with
  | escaped => simp [step, State.take, quoted, weight]
  | inString =>
    simp only [step, State.take, quoted, weight]
    split
    · simp
    · split <;> simp
  | plain =>
    by_cases hopen : c = '{'
    · simp [step, State.take, State.openBrace, quoted, weight, hopen, hne]
    · by_cases hclose : c = '}'
      · have hone : depth ≠ 1 := by
          rintro rfl
          simp [weight, hclose] at hnext
        have hless : (depth : Int) + -1 = (depth - 1 : Nat) := by omega
        simp [step, State.take, State.closeBrace, quoted, weight, hclose, hne, hone, hless]
      · by_cases hquote : c = '"' <;>
          simp [step, State.take, quoted, weight, hopen, hclose, hquote, hne]

/-- Only a closing brace ends a group. -/
theorem step_last (hnext : ¬ 0 < s.depth + weight s.mode c) (hpos : 0 < s.depth) :
    c = '}' ∧ s.depth = 1 ∧ s.mode = .plain ∧ step s c =
      ⟨0, .plain, none, s.offset + 1,
        (s.opened.map fun first => ⟨first, s.offset + 1⟩).toList ++ s.found⟩ := by
  rcases weight_cases s.mode c with hnonneg | ⟨hweight, hmode, rfl⟩
  · omega
  · have hone : s.depth = 1 := by omega
    have hsize : Char.utf8Size '}' = 1 := rfl
    refine ⟨rfl, hone, hmode, ?_⟩
    simp [step, State.take, State.closeBrace, hmode, hone, hsize]

/-- A character inside of a group leaves it open or ends it. -/
theorem step_cases (c : Char) (hpos : 0 < s.depth) :
    (0 < (step s c).depth ∧ (step s c).opened = s.opened ∧
      (step s c).offset = s.offset + c.utf8Size ∧ (step s c).found = s.found) ∨
    step s c = ⟨0, .plain, none, s.offset + c.utf8Size,
      (s.opened.map fun first => ⟨first, s.offset + c.utf8Size⟩).toList ++ s.found⟩ := by
  by_cases hnext : 0 < s.depth + weight s.mode c
  · rw [step_inside hnext hpos]
    exact .inl ⟨by simp only; omega, rfl, rfl, rfl⟩
  · obtain ⟨rfl, -, -, hstep⟩ := step_last hnext hpos
    exact .inr hstep

theorem step_counts (hpos : 0 < s.depth) :
    ((step s c).depth : Int) = s.depth + weight s.mode c ∧ (step s c).mode = quoted s.mode c := by
  by_cases hnext : 0 < s.depth + weight s.mode c
  · rw [step_inside hnext hpos]
    exact ⟨by simp only; omega, rfl⟩
  · obtain ⟨rfl, hone, hmode, hstep⟩ := step_last hnext hpos
    rw [hstep, hone, hmode]
    exact ⟨rfl, rfl⟩

end Step

/-- What the scan holds when it has gone over a text. -/
inductive Scanned : List Char → State → Prop
  | settled {text : List Char} {spans : List Span} (h : Settled text spans) :
      Scanned text ⟨0, .plain, none, byteLength text, spans.reverse⟩
  | inGroup {front group : List Char} {spans : List Span} (h : Settled front spans)
      (hgroup : Unclosed group) :
      Scanned (front ++ group) ⟨(depth group).toNat, modeAfter group, some (byteLength front),
        byteLength (front ++ group), spans.reverse⟩

theorem Scanned.step {text : List Char} {s : State} (h : Scanned text s) (c : Char) :
    Scanned (text ++ [c]) (step s c) := by
  cases h with
  | @settled _ spans hsettled =>
    by_cases hc : c = '{'
    · subst hc
      have hstep : BraceScan.step ⟨0, .plain, none, byteLength text, spans.reverse⟩ '{' =
          ⟨(depth ['{']).toNat, modeAfter ['{'], some (byteLength text),
            byteLength (text ++ ['{']), spans.reverse⟩ := by
        rw [Text.byteLength_append]
        rfl
      rw [hstep]
      exact .inGroup hsettled unclosed_brace
    · have hlength : byteLength text + c.utf8Size = byteLength (text ++ [c]) := by simp
      rw [step_of_zero rfl rfl hc, hlength]
      exact .settled (hsettled.concat hc)
  | @inGroup front group spans hsettled hgroup =>
    have hpos := hgroup.pos
    have hdepth : ((depth group).toNat : Int) = depth group := Int.toNat_of_nonneg (by omega)
    have hnat : 0 < (depth group).toNat := by omega
    have hconcat := depth_concat group c
    rw [List.append_assoc]
    -- The group goes on, or this is the brace at which its depth is zero for the first time.
    by_cases hnext : 0 < depth (group ++ [c])
    · have hopen : 0 < ((depth group).toNat : Int) + weight (modeAfter group) c := by omega
      have hlength : byteLength (front ++ group) + c.utf8Size =
          byteLength (front ++ (group ++ [c])) := by simp [Nat.add_assoc]
      rw [step_inside hopen hnat]
      simp only [hdepth, ← hconcat, ← modeAfter_concat, hlength]
      exact .inGroup hsettled (hgroup.concat hnext)
    · have hended : ¬ 0 < ((depth group).toNat : Int) + weight (modeAfter group) c := by omega
      obtain ⟨rfl, hone, hmode, hstep⟩ :=
        @step_last ⟨(depth group).toNat, modeAfter group, some (byteLength front),
          byteLength (front ++ group), spans.reverse⟩ c hended hnat
      simp only at hone hmode hstep
      have hlevel : depth (group ++ ['}']) = 0 := by
        rw [hconcat, hmode, ← hdepth, hone]
        rfl
      have hsize : Char.utf8Size '}' = 1 := rfl
      have hlength : byteLength (front ++ group) + 1 = byteLength (front ++ (group ++ ['}'])) := by
        simp [hsize, Nat.add_assoc]
      have hsettled' := hsettled.append_group (hgroup.close hlevel)
      rw [hstep, hlength]
      simpa using Scanned.settled hsettled'

theorem scanned_run (text : List Char) : Scanned text (run start text) := by
  induction text using List.reverseRecOn with
  | nil => exact .settled settled_nil
  | append_singleton front c ih =>
    rw [run_append]
    exact ih.step c

end BraceScan

theorem topLevel_braceSpans (text : List Char) : Braces.TopLevel text (braceSpans text) := by
  have h := BraceScan.scanned_run text
  unfold braceSpans
  generalize BraceScan.run BraceScan.start text = s at h
  cases h with
  | settled hsettled => simpa using hsettled.topLevel
  | inGroup hsettled hgroup => simpa using hsettled.topLevel_append hgroup

theorem map_slice?_braceSpans (text : List Char) :
    (braceSpans text).map (·.slice? text) = (braceObjects text).map some := by
  have hslices : ∀ span ∈ braceSpans text, (span.slice? text).isSome := by
    intro span hmem
    obtain ⟨group, hslice, -⟩ := (topLevel_braceSpans text).closed span hmem
    simp [hslice]
  unfold braceObjects
  generalize braceSpans text = spans at hslices
  induction spans with
  | nil => rfl
  | cons span rest ih =>
    obtain ⟨group, hgroup⟩ := Option.isSome_iff_exists.mp (hslices span List.mem_cons_self)
    have hrest := ih fun other hmem => hslices other (List.mem_cons_of_mem span hmem)
    simp [hgroup, hrest]

/-- The search for groups in braces returns the closed groups of a text that lie in no other group,
in order, and no other stretches of the text are those groups. -/
theorem braceObjects_topLevel (text : List Char) :
    Braces.TopLevel text (braceSpans text) ∧
      (braceSpans text).map (·.slice? text) = (braceObjects text).map some ∧
      ∀ spans, Braces.TopLevel text spans → spans = braceSpans text :=
  ⟨topLevel_braceSpans text, map_slice?_braceSpans text,
    fun _ h => h.unique (topLevel_braceSpans text)⟩

/-- A character of two bytes and a stray brace, a group with a brace in a string, and a brace that
is left open. -/
example : braceSpans "é\x7d\x7b\"\x7d\"\x7d \x7b".toList = [⟨3, 8⟩] := by rfl

namespace BraceScan

/-- A state behind more text, with the groups that were found there. -/
def State.after (s : State) (bytes : Nat) (earlier : List Span) : State :=
  { s with
    opened := s.opened.map (bytes + ·)
    offset := bytes + s.offset
    found := s.found.map (Span.shift bytes) ++ earlier }

theorem take_after (s : State) (bytes : Nat) (earlier : List Span) (c : Char) :
    (s.after bytes earlier).take c = (s.take c).after bytes earlier := by
  obtain ⟨depth, mode, opened, offset, found⟩ := s
  cases mode with
  | escaped => rfl
  | inString =>
    simp only [State.take, State.after]
    split
    · rfl
    · split <;> rfl
  | plain =>
    by_cases hopen : c = '{'
    · by_cases hzero : depth = 0 <;>
        simp [State.take, State.openBrace, State.after, hopen, hzero]
    · by_cases hzero : depth = 0
      · simp [State.take, State.after, hopen, hzero]
      · by_cases hquote : c = '"'
        · simp [State.take, State.after, hquote, hzero]
        · by_cases hclose : c = '}'
          · by_cases hone : depth = 1
            · cases opened <;>
                simp [State.take, State.closeBrace, State.after, Span.shift, hclose, hone,
                  Nat.add_assoc]
            · simp [State.take, State.closeBrace, State.after, hclose, hone, hzero]
          · simp [State.take, State.after, hopen, hquote, hclose, hzero]

theorem step_after (s : State) (bytes : Nat) (earlier : List Span) (c : Char) :
    step (s.after bytes earlier) c = (step s c).after bytes earlier := by
  simp only [step, take_after]
  simp [State.after, Nat.add_assoc]

/-- What was found before has no part in the scan. -/
theorem run_after (s : State) (bytes : Nat) (earlier : List Span) (text : List Char) :
    run (s.after bytes earlier) text = (run s text).after bytes earlier := by
  induction text generalizing s with
  | nil => rfl
  | cons c rest ih =>
    have h := ih (step s c)
    rw [← step_after] at h
    exact h

/-- A scan that ends outside of all groups is at its start again, but for what it found. -/
theorem run_start_of_zero {text : List Char} (h : (run start text).depth = 0) :
    run start text = start.after (byteLength text) (run start text).found := by
  have hscanned := scanned_run text
  generalize run start text = s at h hscanned
  cases hscanned with
  | settled hsettled => rfl
  | inGroup hsettled hgroup =>
    have hpos := hgroup.pos
    simp only at h
    omega

/-- Behind a text in which every brace is closed the scan goes on as it would begin. -/
theorem run_append_of_zero {front : List Char} (h : (run start front).depth = 0)
    (back : List Char) :
    run start (front ++ back) =
      (run start back).after (byteLength front) (run start front).found := by
  conv_lhs => rw [run_append, run_start_of_zero h, run_after]

end BraceScan

/-- Behind a text in which every brace is closed, the search for groups begins anew. -/
theorem braceSpans_append {front : List Char}
    (h : (BraceScan.run BraceScan.start front).depth = 0) (back : List Char) :
    braceSpans (front ++ back) =
      braceSpans front ++ (braceSpans back).map (Span.shift (byteLength front)) := by
  simp [braceSpans, BraceScan.run_append_of_zero h, BraceScan.State.after]

theorem braceObjects_append {front : List Char}
    (h : (BraceScan.run BraceScan.start front).depth = 0) (back : List Char) :
    braceObjects (front ++ back) = braceObjects front ++ braceObjects back := by
  have hfront : ∀ span ∈ braceSpans front, span.slice? (front ++ back) = span.slice? front := by
    intro span hmem
    obtain ⟨group, hslice, -⟩ := (topLevel_braceSpans front).closed span hmem
    rw [hslice, Text.Span.slice?_append hslice]
  rw [braceObjects, braceSpans_append h, List.filterMap_append, List.filterMap_congr hfront,
    List.filterMap_map]
  simp [braceObjects, Text.Span.slice?_shift]

/-- A text without opening braces has no groups. -/
theorem BraceScan.run_of_not_mem {text : List Char} (h : '{' ∉ text) :
    run start text = start.after (byteLength text) [] := by
  have hscanned := scanned_run text
  generalize run start text = s at hscanned
  cases hscanned with
  | @settled _ spans hsettled =>
    have hnil : spans = [] := by
      rw [List.eq_nil_iff_forall_not_mem]
      intro span hmem
      obtain ⟨group, hslice, hgroup⟩ := hsettled.closed span hmem
      obtain ⟨front, inner, back, rfl, -⟩ := Braces.exists_brace hslice hgroup
      simp at h
    simp [hnil, State.after, start]
  | inGroup hsettled hgroup =>
    obtain ⟨rest, rfl⟩ := List.head?_eq_some_iff.mp hgroup.opens
    simp at h

/-- What is cut off at the beginning of a text, without a group in it. -/
theorem exists_blanks (text : List Char) : ∃ blanks, text = blanks ++ Text.trimStart text ∧
    BraceScan.run BraceScan.start blanks = BraceScan.start.after (byteLength blanks) [] := by
  refine ⟨text.takeWhile Text.isBlank, List.takeWhile_append_dropWhile.symm,
    BraceScan.run_of_not_mem fun hmem => ?_⟩
  have hblank := List.mem_takeWhile_imp hmem
  revert hblank
  decide

theorem depth_run_trimStart (text : List Char) :
    (BraceScan.run BraceScan.start (Text.trimStart text)).depth =
      (BraceScan.run BraceScan.start text).depth := by
  obtain ⟨blanks, htext, hblanks⟩ := exists_blanks text
  conv_rhs => rw [htext, BraceScan.run_append_of_zero (by rw [hblanks]; rfl)]
  rfl

theorem braceObjects_trimStart (text : List Char) :
    braceObjects (Text.trimStart text) = braceObjects text := by
  obtain ⟨blanks, htext, hblanks⟩ := exists_blanks text
  have hnone : braceObjects blanks = [] := by
    rw [braceObjects, braceSpans, hblanks]
    rfl
  conv_rhs => rw [htext, braceObjects_append (by rw [hblanks]; rfl), hnone, List.nil_append]

namespace Reader

/-- The scan of an object's text stands where the reader stands: it counts the open objects. -/
structure InStep (s : State) (b : BraceScan.State) : Prop where
  within : Within true s
  depth : b.depth = (kinds s.stack).count true
  mode : b.mode = s.mode.scan

theorem InStep.pos {s : State} {b : BraceScan.State} (h : InStep s b) (hne : s.stack ≠ []) :
    0 < b.depth := by
  rw [h.depth, List.count_pos_iff]
  exact List.mem_of_getLast? (h.within.outermost hne)

theorem InStep.stack_of_zero {s : State} {b : BraceScan.State} (h : InStep s b)
    (hzero : b.depth = 0) : s.stack = [] := by
  by_contra hne
  have := h.pos hne
  omega

theorem Moves.count_eq {k k' : List Bool} {m m' : BraceScan.Mode} {c : Char}
    (h : Moves k m c k' m') : (k'.count true : Int) = k.count true + Braces.weight m c := by
  cases h with
  | escaped | backslash | closeQuote | text => simp [Braces.weight]
  | openObject | openArray | closeArray | openQuote => simp [Braces.weight]
  | closeObject =>
    have hweight : Braces.weight .plain '}' = -1 := rfl
    rw [hweight, List.count_cons_self]
    omega
  | ordinary _ _ hc => simp [Braces.weight, hc.1, hc.2.1]

theorem InStep.step {s next : State} {b : BraceScan.State} {c : Char} (h : InStep s b)
    (hstep : step s c = some next) : InStep next (BraceScan.step b c) := by
  have hwithin := h.within.step hstep
  by_cases hne : s.stack = []
  · obtain ⟨doc, hdone, -⟩ := h.within.finished hne
    obtain ⟨hspace, rfl⟩ := step_of_done hdone hstep
    have hdepth : b.depth = 0 := by simpa [hne, kinds] using h.depth
    have hmode : b.mode = .plain := by simpa [hdone, Mode.scan] using h.mode
    rw [BraceScan.step_of_zero hdepth hmode (ordinary_of_isSpace hspace).1]
    exact ⟨hwithin, h.depth, h.mode⟩
  · have hmoves := (step_leads (h.within.inside hne) hstep).moves
    obtain ⟨hdepth, hmode⟩ := BraceScan.step_counts (c := c) (h.pos hne)
    have hcount := hmoves.count_eq
    rw [← h.mode] at hcount
    rw [h.depth] at hdepth
    exact ⟨hwithin, by omega, by rw [hmode, hmoves.eq_quoted, h.mode]⟩

theorem InStep.run {s next : State} {b : BraceScan.State} {text : List Char} (h : InStep s b)
    (hrun : Reader.run s text = some next) : InStep next (BraceScan.run b text) := by
  induction text generalizing s b with
  | nil =>
    obtain rfl : s = next := by simpa [Reader.run] using hrun
    exact h
  | cons c rest ih =>
    rw [Reader.run] at hrun
    split at hrun
    · simp at hrun
    · next mid hstep => exact ih (h.step hstep) hrun

/-- The brace that completes the text closes the group of the scan, and no brace before does. -/
theorem InStep.run_closing {s next : State} {b : BraceScan.State} {text : List Char}
    (h : InStep s b) (hopen : s.stack ≠ []) (hrun : Reader.run s (text ++ ['}']) = some next)
    (hnext : next.stack = []) :
    (BraceScan.run b (text ++ ['}'])).found =
      (b.opened.map fun first => ⟨first, b.offset + byteLength (text ++ ['}'])⟩).toList ++
        b.found := by
  induction text generalizing s b with
  | nil =>
    have hzero : (BraceScan.step b '}').depth = 0 := by
      have hdepth := (h.run hrun).depth
      rw [hnext] at hdepth
      exact hdepth
    rcases BraceScan.step_cases '}' (h.pos hopen) with ⟨hpos, -⟩ | hlast
    · omega
    · change (BraceScan.step b '}').found = _
      rw [hlast]
      rfl
  | cons c rest ih =>
    rw [List.cons_append, Reader.run] at hrun
    split at hrun
    · simp at hrun
    · next mid hstep =>
      have hmid := h.step hstep
      have hne : mid.stack ≠ [] := by
        intro hnil
        obtain ⟨doc, hdone, -⟩ := hmid.within.finished hnil
        obtain ⟨hspaces, -⟩ := run_of_done hdone hrun
        have := hspaces '}' (by simp)
        revert this
        decide
      have hrest := ih hmid hne hrun
      rcases BraceScan.step_cases c (h.pos hopen) with ⟨-, hopened, hoffset, hfound⟩ | hlast
      · rw [hopened, hoffset, hfound, Nat.add_assoc, ← Text.byteLength_cons] at hrest
        exact hrest
      · have hpos := hmid.pos hne
        rw [hlast] at hpos
        simp at hpos

theorem inStep_objectStart : InStep objectStart (BraceScan.step BraceScan.start '{') :=
  ⟨within_objectStart, rfl, rfl⟩

end Reader

end MarketQuery
