import Mathlib.Tactic.ByContra
import MarketQuery.Proofs.Plan.Strings

/-!
The groups in braces of a text. The depth of a text is the number of its opening braces less the
number of its closing braces, where only the braces outside of the strings count that begin in the
text. A group begins with a brace and ends where its depth is zero for the first time. The groups
that lie in no other group are determined by the text: they are told apart at the first brace that
none of the groups before it covers.
-/
namespace MarketQuery.Braces

open Reader (quoted)
open Text (Span byteLength)

/-- Where a text ends with respect to the strings that begin in it. -/
def modeAfter (text : List Char) : BraceScan.Mode :=
  text.foldl quoted .plain

def weight (mode : BraceScan.Mode) (c : Char) : Int :=
  if mode ≠ .plain then 0
  else if c = '{' then 1
  else if c = '}' then -1
  else 0

def depthFrom : BraceScan.Mode → List Char → Int
  | _, [] => 0
  | mode, c :: rest => weight mode c + depthFrom (quoted mode c) rest

/-- The opening braces less the closing braces, outside of the strings that begin in the text. -/
def depth (text : List Char) : Int :=
  depthFrom .plain text

/-- A group that ends with its last character and not before. -/
structure Closed (group : List Char) : Prop where
  opens : group.head? = some '{'
  closes : group.getLast? = some '}'
  level : depth group = 0
  deep : ∀ front, front <+: group → front ≠ [] → front ≠ group → 0 < depth front

structure Unclosed (group : List Char) : Prop where
  opens : group.head? = some '{'
  deep : ∀ front, front <+: group → front ≠ [] → 0 < depth front

/-- Stretches of closed groups, from left to right. -/
structure ClosedGroups (text : List Char) (spans : List Span) : Prop where
  apart : spans.Pairwise fun a b => a.stop ≤ b.start
  closed : ∀ span ∈ spans, ∃ group, span.slice? text = some group ∧ Closed group

def Inside (spans : List Span) (offset : Nat) : Prop :=
  ∃ span ∈ spans, span.start ≤ offset ∧ offset < span.stop

/-- A group that is never closed begins behind all of the stretches and not behind the offset. -/
def Lost (text : List Char) (spans : List Span) (offset : Nat) : Prop :=
  ∃ front group, text = front ++ group ∧ Unclosed group ∧ byteLength front ≤ offset ∧
    ∀ span ∈ spans, span.stop ≤ byteLength front

/-- The closed groups of a text that lie in no other group, from left to right. -/
structure TopLevel (text : List Char) (spans : List Span) : Prop
    extends ClosedGroups text spans where
  covered : ∀ front rest, text = front ++ '{' :: rest →
    Inside spans (byteLength front) ∨ Lost text spans (byteLength front)

theorem depthFrom_append (mode : BraceScan.Mode) (front back : List Char) :
    depthFrom mode (front ++ back) =
      depthFrom mode front + depthFrom (front.foldl quoted mode) back := by
  induction front generalizing mode with
  | nil => simp [depthFrom]
  | cons c front ih => simp [depthFrom, ih, Int.add_assoc]

theorem depth_concat (text : List Char) (c : Char) :
    depth (text ++ [c]) = depth text + weight (modeAfter text) c := by
  rw [depth, depthFrom_append]
  simp [depthFrom, depth, modeAfter]

theorem modeAfter_concat (text : List Char) (c : Char) :
    modeAfter (text ++ [c]) = quoted (modeAfter text) c := by
  simp [modeAfter]

theorem weight_cases (mode : BraceScan.Mode) (c : Char) :
    0 ≤ weight mode c ∨ (weight mode c = -1 ∧ mode = .plain ∧ c = '}') := by
  unfold weight
  split
  · exact .inl (Int.le_refl 0)
  · next hmode =>
    split
    · exact .inl (by decide)
    · split
      · next hc => exact .inr ⟨rfl, Decidable.not_not.mp hmode, hc⟩
      · exact .inl (Int.le_refl 0)

theorem unclosed_brace : Unclosed ['{'] where
  opens := rfl
  deep := by
    intro front hfront hne
    rcases List.prefix_cons_iff.mp hfront with rfl | ⟨rest, rfl, hrest⟩
    · exact absurd rfl hne
    · rw [List.prefix_nil.mp hrest]
      decide

theorem Unclosed.ne_nil {group : List Char} (h : Unclosed group) : group ≠ [] := by
  rintro rfl
  simpa using h.opens

theorem Unclosed.pos {group : List Char} (h : Unclosed group) : 0 < depth group :=
  h.deep group (List.prefix_refl group) h.ne_nil

theorem head?_concat {group : List Char} (h : group.head? = some '{') (c : Char) :
    (group ++ [c]).head? = some '{' := by
  simp [h]

theorem Unclosed.concat {group : List Char} (h : Unclosed group) {c : Char}
    (hpos : 0 < depth (group ++ [c])) : Unclosed (group ++ [c]) where
  opens := head?_concat h.opens c
  deep := by
    intro front hfront hne
    rcases List.prefix_concat_iff.mp hfront with rfl | hfront
    · exact hpos
    · exact h.deep front hfront hne

theorem Unclosed.close {group : List Char} (h : Unclosed group)
    (hlevel : depth (group ++ ['}']) = 0) : Closed (group ++ ['}']) where
  opens := head?_concat h.opens '}'
  closes := List.getLast?_concat
  level := hlevel
  deep := by
    intro front hfront hne hproper
    rcases List.prefix_concat_iff.mp hfront with rfl | hfront
    · exact absurd rfl hproper
    · exact h.deep front hfront hne

/-- Where a group is closed, no other group that begins with it is. -/
theorem Closed.eq_of_isPrefix {group longer : List Char} (h : Closed group) (hlonger : Closed longer)
    (hbegins : group <+: longer) : group = longer := by
  by_contra hne
  obtain ⟨rest, rfl⟩ := List.head?_eq_some_iff.mp h.opens
  have hpos := hlonger.deep _ hbegins (by simp) hne
  rw [h.level] at hpos
  exact absurd hpos (by decide)

theorem Closed.eq_of_append {group group' back back' : List Char} (h : Closed group)
    (h' : Closed group') (heq : group ++ back = group' ++ back') : group = group' := by
  have hbegins : group <+: group' ++ back' := ⟨back, heq⟩
  rcases List.prefix_or_prefix_of_prefix hbegins (List.prefix_append group' back') with hle | hle
  · exact h.eq_of_isPrefix h' hle
  · exact (h'.eq_of_isPrefix h hle).symm

theorem Unclosed.not_isPrefix {group longer : List Char} (h : Unclosed longer)
    (hclosed : Closed group) : ¬ group <+: longer := by
  intro hbegins
  obtain ⟨rest, rfl⟩ := List.head?_eq_some_iff.mp hclosed.opens
  have hpos := h.deep _ hbegins (by simp)
  rw [hclosed.level] at hpos
  exact absurd hpos (by decide)

variable {text : List Char} {spans : List Span}

/-- Stretches of closed groups, from left to right, in which all opening braces lie. -/
structure Settled (text : List Char) (spans : List Span) : Prop
    extends ClosedGroups text spans where
  inside : ∀ front rest, text = front ++ '{' :: rest → Inside spans (byteLength front)

theorem settled_nil : Settled [] [] where
  apart := .nil
  closed := by simp
  inside := by simp

theorem Inside.append {offset : Nat} (h : Inside spans offset) (more : List Span) :
    Inside (spans ++ more) offset := by
  obtain ⟨span, hmem, hoffset⟩ := h
  exact ⟨span, List.mem_append_left more hmem, hoffset⟩

/-- More text behind closed groups leaves them as they are. -/
theorem ClosedGroups.append (h : ClosedGroups text spans) (more : List Char) :
    ClosedGroups (text ++ more) spans where
  apart := h.apart
  closed := by
    intro span hmem
    obtain ⟨group, hslice, hclosed⟩ := h.closed span hmem
    exact ⟨group, Text.Span.slice?_append hslice more, hclosed⟩

theorem ClosedGroups.stop_le (h : ClosedGroups text spans) {span : Span} (hmem : span ∈ spans) :
    span.stop ≤ byteLength text := by
  obtain ⟨group, hslice, -⟩ := h.closed span hmem
  obtain ⟨front, back, rfl, -, hstop⟩ := Text.Span.slice?_eq_some_iff.mp hslice
  rw [hstop, Text.byteLength_append (front ++ group)]
  exact Nat.le_add_right _ _

/-- A brace in a text with more text behind it stands in one of the two. -/
theorem brace_cases {more front rest : List Char} (h : text ++ more = front ++ '{' :: rest) :
    (∃ behind, text = front ++ '{' :: behind) ∨
      ∃ between, front = text ++ between ∧ more = between ++ '{' :: rest := by
  rcases List.append_eq_append_iff.mp h with hafter | ⟨between, rfl, hrest⟩
  · exact .inr hafter
  · cases between with
    | nil => exact .inr ⟨[], by simp, by simpa using hrest.symm⟩
    | cons c between =>
      obtain ⟨rfl, -⟩ := List.cons.inj hrest
      exact .inl ⟨between, rfl⟩

theorem Settled.concat (h : Settled text spans) {c : Char} (hc : c ≠ '{') :
    Settled (text ++ [c]) spans where
  toClosedGroups := h.append [c]
  inside := by
    intro front rest heq
    rcases brace_cases heq with ⟨behind, htext⟩ | ⟨between, -, hbetween⟩
    · exact h.inside front behind htext
    · have hmem : '{' ∈ [c] := by simp [hbetween]
      exact absurd (List.mem_singleton.mp hmem).symm hc

theorem Settled.append_group (h : Settled text spans) {group : List Char} (hgroup : Closed group) :
    Settled (text ++ group) (spans ++ [⟨byteLength text, byteLength (text ++ group)⟩]) where
  apart := by
    rw [List.pairwise_append]
    refine ⟨h.apart, List.pairwise_singleton _ _, fun span hmem last hlast => ?_⟩
    rw [List.mem_singleton.mp hlast]
    exact h.stop_le hmem
  closed := by
    intro span hmem
    rcases List.mem_append.mp hmem with hold | hnew
    · exact (h.append group).closed span hold
    · rw [List.mem_singleton.mp hnew]
      exact ⟨group, Text.Span.slice?_eq_some_iff.mpr ⟨text, [], by simp, rfl, rfl⟩, hgroup⟩
  inside := by
    intro front rest heq
    rcases brace_cases heq with ⟨behind, htext⟩ | ⟨between, rfl, rfl⟩
    · exact (h.inside front behind htext).append _
    · refine ⟨_, List.mem_append_right spans (List.mem_singleton.mpr rfl), ?_, ?_⟩
      · simp
      · simp only [Text.byteLength_append, Text.byteLength_cons]
        have := Char.utf8Size_pos '{'
        omega

theorem Settled.topLevel (h : Settled text spans) : TopLevel text spans where
  toClosedGroups := h.toClosedGroups
  covered front rest heq := .inl (h.inside front rest heq)

/-- A group that is still open at the end of the text is the last one. -/
theorem Settled.topLevel_append (h : Settled text spans) {group : List Char}
    (hgroup : Unclosed group) : TopLevel (text ++ group) spans where
  toClosedGroups := h.append group
  covered := by
    intro front rest heq
    rcases brace_cases heq with ⟨behind, htext⟩ | ⟨between, rfl, -⟩
    · exact .inl (h.inside front behind htext)
    · exact .inr ⟨text, group, rfl, hgroup, by simp, fun span hmem => h.stop_le hmem⟩

/-- What is left of the groups of a text behind the offset `first`. -/
structure TopLevelFrom (first : Nat) (text : List Char) (spans : List Span) : Prop
    extends ClosedGroups text spans where
  behind : ∀ span ∈ spans, first ≤ span.start
  covered : ∀ front rest, text = front ++ '{' :: rest → first ≤ byteLength front →
    Inside spans (byteLength front) ∨ ∃ lost group, text = lost ++ group ∧ Unclosed group ∧
      first ≤ byteLength lost ∧ byteLength lost ≤ byteLength front ∧
      ∀ span ∈ spans, span.stop ≤ byteLength lost

theorem TopLevel.fromStart (h : TopLevel text spans) : TopLevelFrom 0 text spans where
  toClosedGroups := h.toClosedGroups
  behind _ _ := Nat.zero_le _
  covered := by
    intro front rest heq _
    rcases h.covered front rest heq with hinside | ⟨lost, group, htext, hgroup, hle, hlast⟩
    · exact .inl hinside
    · exact .inr ⟨lost, group, htext, hgroup, Nat.zero_le _, hle, hlast⟩

/-- A stretch of a closed group begins at an opening brace. -/
theorem exists_brace {span : Span} {group : List Char} (hslice : span.slice? text = some group)
    (hgroup : Closed group) : ∃ front inner back, text = front ++ '{' :: (inner ++ back) ∧
      group = '{' :: inner ∧ span.start = byteLength front ∧ span.start < span.stop := by
  obtain ⟨front, back, rfl, hstart, hstop⟩ := Text.Span.slice?_eq_some_iff.mp hslice
  obtain ⟨inner, rfl⟩ := List.head?_eq_some_iff.mp hgroup.opens
  refine ⟨front, inner, back, by simp, rfl, hstart, ?_⟩
  have hsize := Char.utf8Size_pos '{'
  rw [hstart, hstop, Text.byteLength_append, Text.byteLength_cons]
  omega

namespace TopLevelFrom

variable {first : Nat} {a b : Span} {as bs : List Span}

theorem start_lt_stop (h : TopLevelFrom first text spans) (hmem : a ∈ spans) :
    a.start < a.stop := by
  obtain ⟨group, hslice, hgroup⟩ := h.closed a hmem
  obtain ⟨-, -, -, -, -, -, hlt⟩ := exists_brace hslice hgroup
  exact hlt

theorem head_start_le (h : TopLevelFrom first text (a :: as)) (hmem : b ∈ a :: as) :
    a.start ≤ b.start := by
  rcases List.mem_cons.mp hmem with rfl | hmem
  · exact Nat.le_refl _
  · have hapart := (List.pairwise_cons.mp h.apart).1 b hmem
    have hlt := h.start_lt_stop (a := a) List.mem_cons_self
    omega

/-- The first stretch begins at the first brace that is left. -/
theorem head_le_brace (h : TopLevelFrom first text (a :: as)) {front rest : List Char}
    (heq : text = front ++ '{' :: rest) (hfirst : first ≤ byteLength front) :
    a.start ≤ byteLength front := by
  rcases h.covered front rest heq hfirst with ⟨b, hmem, hle, -⟩ | ⟨lost, -, -, -, -, hle, hlast⟩
  · have := h.head_start_le hmem
    omega
  · have hstop := hlast a List.mem_cons_self
    have hlt := h.start_lt_stop (a := a) List.mem_cons_self
    omega

theorem head_le (ha : TopLevelFrom first text (a :: as)) (hb : TopLevelFrom first text (b :: bs)) :
    a.start ≤ b.start := by
  obtain ⟨group, hslice, hgroup⟩ := hb.closed b List.mem_cons_self
  obtain ⟨front, inner, back, heq, -, hstart, -⟩ := exists_brace hslice hgroup
  have hfirst := hb.behind b List.mem_cons_self
  rw [hstart] at hfirst ⊢
  exact ha.head_le_brace heq hfirst

theorem head_eq (ha : TopLevelFrom first text (a :: as)) (hb : TopLevelFrom first text (b :: bs)) :
    a = b := by
  obtain ⟨group, hslice, hgroup⟩ := ha.closed a List.mem_cons_self
  obtain ⟨group', hslice', hgroup'⟩ := hb.closed b List.mem_cons_self
  obtain ⟨front, back, htext, hstart, hstop⟩ := Text.Span.slice?_eq_some_iff.mp hslice
  obtain ⟨front', back', htext', hstart', hstop'⟩ := Text.Span.slice?_eq_some_iff.mp hslice'
  -- Both begin at the first brace that is left, and no group ends at two places.
  have hsame : a.start = b.start := Nat.le_antisymm (ha.head_le hb) (hb.head_le ha)
  rw [List.append_assoc] at htext htext'
  obtain ⟨rfl, hrest⟩ := Text.append_inj_of_byteLength (htext.symm.trans htext')
    (by rw [← hstart, ← hstart', hsame])
  obtain rfl := hgroup.eq_of_append hgroup' hrest
  cases a
  cases b
  simp_all

/-- Where a group is closed, no group that is never closed begins first. -/
theorem not_nil (h : TopLevelFrom first text []) (ha : TopLevelFrom first text (a :: as)) :
    False := by
  obtain ⟨group, hslice, hgroup⟩ := ha.closed a List.mem_cons_self
  obtain ⟨front, inner, back, heq, rfl, hstart, -⟩ := exists_brace hslice hgroup
  have hfirst := ha.behind a List.mem_cons_self
  rw [hstart] at hfirst
  rcases h.covered front _ heq hfirst with
    ⟨span, hmem, -⟩ | ⟨lost, other, htext, hother, hlost, hle, -⟩
  · exact absurd hmem List.not_mem_nil
  · obtain ⟨inner', rfl⟩ := List.head?_eq_some_iff.mp hother.opens
    have hhead := ha.head_le_brace htext hlost
    obtain ⟨rfl, hrest⟩ := Text.append_inj_of_byteLength (htext.symm.trans heq) (by omega)
    exact hother.not_isPrefix hgroup ⟨back, hrest.symm⟩

theorem tail (h : TopLevelFrom first text (a :: as)) : TopLevelFrom a.stop text as where
  apart := (List.pairwise_cons.mp h.apart).2
  closed span hmem := h.closed span (List.mem_cons_of_mem a hmem)
  behind := (List.pairwise_cons.mp h.apart).1
  covered := by
    intro front rest heq hstop
    have hlt := h.start_lt_stop (a := a) List.mem_cons_self
    have hfirst := h.behind a List.mem_cons_self
    rcases h.covered front rest heq (by omega) with
      ⟨span, hmem, hoffset⟩ | ⟨lost, group, htext, hgroup, -, hle, hlast⟩
    · rcases List.mem_cons.mp hmem with rfl | hmem
      · omega
      · exact .inl ⟨span, hmem, hoffset⟩
    · exact .inr ⟨lost, group, htext, hgroup, hlast a List.mem_cons_self, hle,
        fun span hmem => hlast span (List.mem_cons_of_mem a hmem)⟩

theorem unique (ha : TopLevelFrom first text as) (hb : TopLevelFrom first text bs) : as = bs := by
  induction as generalizing bs first with
  | nil =>
    cases bs with
    | nil => rfl
    | cons b bs => exact (ha.not_nil hb).elim
  | cons a as ih =>
    cases bs with
    | nil => exact (hb.not_nil ha).elim
    | cons b bs =>
      obtain rfl := ha.head_eq hb
      rw [ih ha.tail hb.tail]

end TopLevelFrom

/-- A text determines its groups. -/
theorem TopLevel.unique {others : List Span} (h : TopLevel text spans)
    (hothers : TopLevel text others) : spans = others :=
  h.fromStart.unique hothers.fromStart

end MarketQuery.Braces
