import MarketQuery.Plan.Embedded

/-!
The outline of a JSON text: which containers are open after each character, and whether the
character stands in a string. `Moves` says what one character does to the outline, and `step_leads`
that the reader takes no step outside of it. From this follows what the first character of a text
says about the value, and that the text of an object ends where its outermost brace is closed.
-/
namespace MarketQuery

def Document.isObject : Document → Bool
  | .object _ => true
  | _ => false

namespace Reader

theorem run_append (s : State) (front back : List Char) :
    run s (front ++ back) = (run s front).bind fun next => run next back := by
  induction front generalizing s with
  | nil => rfl
  | cons c rest ih =>
    simp only [List.cons_append, run]
    cases step s c with
    | none => rfl
    | some next => exact ih next

/-- What every step preserves, every run preserves. -/
theorem run_preserves {P : State → Prop}
    (hP : ∀ s next c, P s → step s c = some next → P next) {s next : State} {text : List Char}
    (h : P s) (hrun : run s text = some next) : P next := by
  induction text generalizing s with
  | nil =>
    obtain rfl : s = next := by simpa [run] using hrun
    exact h
  | cons c rest ih =>
    rw [run] at hrun
    split at hrun
    · simp at hrun
    · next mid hstep => exact ih (hP s mid c h hstep) hrun

theorem isSpace_isBlank (c : Char) (h : isSpace c = true) : Text.isBlank c = true := by
  simp only [isSpace, Bool.or_eq_true, beq_iff_eq] at h
  rcases h with ((rfl | rfl) | rfl) | rfl <;> decide

theorem isSpace_of_not_isBlank {c : Char} (h : Text.isBlank c = false) : isSpace c = false := by
  rw [Bool.eq_false_iff] at h ⊢
  exact fun hspace => h (isSpace_isBlank c hspace)

/-- After the whole value there is only white space, and it changes nothing. -/
theorem step_of_done {s next : State} {doc : Document} {c : Char} (hmode : s.mode = .done doc)
    (h : step s c = some next) : isSpace c = true ∧ next = s := by
  simp only [step, hmode, settled] at h
  split at h
  · next hc => exact ⟨hc, by simpa using h.symm⟩
  · simp at h

theorem run_of_done {s next : State} {doc : Document} {text : List Char}
    (hmode : s.mode = .done doc) (h : run s text = some next) :
    (∀ c ∈ text, isSpace c = true) ∧ next = s := by
  induction text generalizing s with
  | nil => exact ⟨by simp, by simpa [run] using h.symm⟩
  | cons c rest ih =>
    rw [run] at h
    split at h
    · simp at h
    · next mid hstep =>
      obtain ⟨hc, rfl⟩ := step_of_done hmode hstep
      obtain ⟨hrest, hnext⟩ := ih hmode h
      exact ⟨by simpa [hc] using hrest, hnext⟩

def Frame.isObject : Frame → Bool
  | .object _ _ => true
  | .array _ => false

/-- Which of the open containers are objects, the innermost first. -/
def kinds (stack : List Frame) : List Bool :=
  stack.map Frame.isObject

/-- How a scan that knows nothing but strings and escapes sees a mode of the reader. -/
def Mode.scan : Mode → BraceScan.Mode
  | .string _ .backslash _ => .escaped
  | .string _ _ _ => .inString
  | _ => .plain

theorem kinds_complete (doc : Document) (stack : List Frame) :
    kinds (complete doc stack).stack = kinds stack := by
  cases stack with
  | nil => rfl
  | cons frame rest => cases frame <;> rfl

theorem scan_complete (doc : Document) (stack : List Frame) :
    (complete doc stack).mode.scan = .plain := by
  cases stack with
  | nil => rfl
  | cons frame rest => cases frame <;> rfl

def Ordinary (c : Char) : Prop :=
  c ≠ '{' ∧ c ≠ '}' ∧ c ≠ '"'

instance (c : Char) : Decidable (Ordinary c) :=
  inferInstanceAs (Decidable (c ≠ '{' ∧ c ≠ '}' ∧ c ≠ '"'))

theorem ordinary_of_isSpace {c : Char} (h : isSpace c = true) : Ordinary c := by
  simp only [isSpace, Bool.or_eq_true, beq_iff_eq] at h
  rcases h with ((rfl | rfl) | rfl) | rfl <;> decide

theorem ordinary_of_isDigit {c : Char} (h : c.isDigit = true) : Ordinary c := by
  refine ⟨?_, ?_, ?_⟩ <;> (rintro rfl; revert h; decide)

theorem ordinary_of_next {part next : NumberPart} {c : Char} (h : part.next? c = some next) :
    Ordinary c := by
  refine ⟨?_, ?_, ?_⟩ <;> (rintro rfl; cases part <;> simp [NumberPart.next?] at h)

theorem text_of_hexValue {c : Char} (h : (Text.hexValue? c).isSome) : c ≠ '\\' ∧ c ≠ '"' := by
  refine ⟨?_, ?_⟩ <;> (rintro rfl; revert h; decide)

/-- A mode inside a text. What is left to read of a word is ordinary. -/
def Mode.Inside : Mode → Prop
  | .word rest _ => ∀ c ∈ rest, Ordinary c
  | .done _ => False
  | _ => True

/-- What one character of a JSON text does to the open containers and to the mode of a scan. -/
inductive Moves : List Bool → BraceScan.Mode → Char → List Bool → BraceScan.Mode → Prop
  | escaped (k : List Bool) (c : Char) : Moves k .escaped c k .inString
  | backslash (k : List Bool) : Moves k .inString '\\' k .escaped
  | closeQuote (k : List Bool) : Moves k .inString '"' k .plain
  | text (k : List Bool) (c : Char) (hc : c ≠ '\\' ∧ c ≠ '"') : Moves k .inString c k .inString
  | openObject (k : List Bool) : Moves k .plain '{' (true :: k) .plain
  | openArray (k : List Bool) : Moves k .plain '[' (false :: k) .plain
  | closeObject (k : List Bool) : Moves (true :: k) .plain '}' k .plain
  | closeArray (k : List Bool) : Moves (false :: k) .plain ']' k .plain
  | openQuote (k : List Bool) : Moves k .plain '"' k .inString
  | ordinary (k : List Bool) (c : Char) (hc : Ordinary c) : Moves k .plain c k .plain

/-- A character leads to the next state as `Moves` says; closing the last container completes the
text. -/
structure Leads (stack : List Frame) (mode : BraceScan.Mode) (c : Char) (next : State) : Prop where
  moves : Moves (kinds stack) mode c (kinds next.stack) next.mode.scan
  inside : next.stack ≠ [] → next.mode.Inside
  finishes : stack ≠ [] → next.stack = [] →
    ∃ doc, next.mode = .done doc ∧ (kinds stack).getLast? = some doc.isObject

theorem Leads.stay {stack : List Frame} {c : Char} {before : BraceScan.Mode} {mode : Mode}
    (hmoves : Moves (kinds stack) before c (kinds stack) mode.scan)
    (hinside : mode.Inside) : Leads stack before c ⟨stack, mode⟩ :=
  ⟨hmoves, fun _ => hinside, fun hne hnil => absurd hnil hne⟩

theorem complete_stack_ne_nil (doc : Document) {stack : List Frame} (h : stack ≠ []) :
    (complete doc stack).stack ≠ [] := by
  cases stack with
  | nil => exact absurd rfl h
  | cons frame rest => cases frame <;> simp [Reader.complete]

theorem complete_inside (doc : Document) (stack : List Frame)
    (h : (complete doc stack).stack ≠ []) : (complete doc stack).mode.Inside := by
  cases stack with
  | nil => exact absurd rfl h
  | cons frame rest => cases frame <;> exact trivial

/-- A complete value joins the container in which it stands. -/
theorem Leads.join {stack : List Frame} {mode : BraceScan.Mode} {c : Char} {doc : Document}
    (hmoves : Moves (kinds stack) mode c (kinds stack) .plain) :
    Leads stack mode c (complete doc stack) where
  moves := by
    rw [kinds_complete, scan_complete]
    exact hmoves
  inside := complete_inside doc stack
  finishes hne hnil := absurd hnil (complete_stack_ne_nil doc hne)

/-- The innermost container is closed and becomes a value. -/
theorem Leads.close {frame : Frame} {rest : List Frame} {c : Char} {doc : Document}
    (hdoc : frame.isObject = doc.isObject)
    (hmoves : Moves (kinds (frame :: rest)) .plain c (kinds rest) .plain) :
    Leads (frame :: rest) .plain c (complete doc rest) where
  moves := by
    rw [kinds_complete, scan_complete]
    exact hmoves
  inside := complete_inside doc rest
  finishes _ hnil := by
    cases rest with
    | nil => exact ⟨doc, rfl, by simp [kinds, hdoc]⟩
    | cons inner rest => exact absurd hnil (complete_stack_ne_nil doc (by simp))

theorem beginValue_leads {stack : List Frame} {c : Char} {next : State}
    (h : beginValue stack c = some next) : Leads stack .plain c next := by
  unfold beginValue at h
  split at h
  case h_1 =>
    obtain rfl := Option.some.inj h
    exact ⟨.openObject _, fun _ => trivial, by simp⟩
  case h_2 =>
    obtain rfl := Option.some.inj h
    exact ⟨.openArray _, fun _ => trivial, by simp⟩
  case h_3 =>
    obtain rfl := Option.some.inj h
    exact .stay (.openQuote _) trivial
  case h_4 | h_5 | h_6 =>
    obtain rfl := Option.some.inj h
    exact .stay (.ordinary _ _ (by decide)) (by simp [Mode.Inside, Ordinary])
  case h_7 | h_8 =>
    obtain rfl := Option.some.inj h
    exact .stay (.ordinary _ _ (by decide)) trivial
  case h_9 =>
    split at h
    · next hdigit =>
      obtain rfl := Option.some.inj h
      exact .stay (.ordinary _ _ (ordinary_of_isDigit hdigit)) trivial
    · simp at h

theorem afterValue_leads {stack : List Frame} {c : Char} {next : State}
    (h : afterValue stack c = some next) : Leads stack .plain c next := by
  unfold afterValue at h
  split at h
  · obtain rfl := Option.some.inj h
    exact .stay (.ordinary _ _ (by decide)) trivial
  · obtain rfl := Option.some.inj h
    exact .close rfl (.closeArray _)
  · obtain rfl := Option.some.inj h
    exact .stay (.ordinary _ _ (by decide)) trivial
  · obtain rfl := Option.some.inj h
    exact .close rfl (.closeObject _)
  · simp at h

theorem settled_leads {s next : State} {c : Char} (hmode : s.mode.scan = .plain)
    (hinside : s.stack ≠ [] → s.mode.Inside) (h : settled s c = some next) :
    Leads s.stack .plain c next := by
  unfold settled at h
  split at h
  · next hspace =>
    obtain rfl := Option.some.inj h
    refine ⟨?_, hinside, fun hne hnil => absurd hnil hne⟩
    rw [hmode]
    exact .ordinary _ c (ordinary_of_isSpace hspace)
  · split at h
    · exact afterValue_leads h
    · simp at h

/-- A character in a string goes on with the string or ends it. -/
theorem inString_cases {stack : List Frame} {isKey : Bool} {escape : Escape}
    {spelling : List Char} {c : Char} {next : State}
    (h : inString stack isKey escape spelling c = some next) :
    (∃ e, next = ⟨stack, .string isKey e (c :: spelling)⟩ ∧
      Moves (kinds stack) (Mode.string isKey escape spelling).scan c (kinds stack)
        (Mode.string isKey e (c :: spelling)).scan) ∨
    (escape = .none ∧ c = '"' ∧
      (isKey = false ∧ next = complete (.string spelling.reverse) stack ∨
        ∃ members key rest, isKey = true ∧ stack = .object members key :: rest ∧
          next = ⟨.object members spelling.reverse :: rest, .colon⟩)) := by
  cases escape with
  | none =>
    simp only [inString] at h
    split at h
    · next hquote =>
      refine .inr ⟨rfl, hquote, ?_⟩
      split at h
      · exact .inr ⟨_, _, _, rfl, rfl, (Option.some.inj h).symm⟩
      · simp at h
      · exact .inl ⟨rfl, (Option.some.inj h).symm⟩
    · next hquote =>
      split at h
      · next hslash =>
        subst hslash
        exact .inl ⟨.backslash, (Option.some.inj h).symm, .backslash _⟩
      · next hslash =>
        split at h
        · simp at h
        · exact .inl ⟨.none, (Option.some.inj h).symm, .text _ c ⟨hslash, hquote⟩⟩
  | backslash =>
    simp only [inString] at h
    split at h
    · exact .inl ⟨.hex 4, (Option.some.inj h).symm, .escaped _ c⟩
    · split at h
      · exact .inl ⟨.none, (Option.some.inj h).symm, .escaped _ c⟩
      · simp at h
  | hex left =>
    simp only [inString] at h
    split at h
    · next hhex =>
      have htext := text_of_hexValue hhex
      split at h
      · exact .inl ⟨.none, (Option.some.inj h).symm, .text _ c htext⟩
      · exact .inl ⟨.hex (left - 1), (Option.some.inj h).symm, .text _ c htext⟩
    · simp at h

theorem inString_leads {stack : List Frame} {isKey : Bool} {escape : Escape}
    {spelling : List Char} {c : Char} {next : State}
    (h : inString stack isKey escape spelling c = some next) :
    Leads stack (Mode.string isKey escape spelling).scan c next := by
  rcases inString_cases h with ⟨e, rfl, hmoves⟩ | ⟨rfl, rfl, hend⟩
  · exact .stay hmoves trivial
  · rcases hend with ⟨-, rfl⟩ | ⟨members, key, rest, -, rfl, rfl⟩
    · exact .join (.closeQuote _)
    · exact ⟨.closeQuote _, fun _ => trivial, by simp⟩

theorem step_leads {s next : State} {c : Char} (hinside : s.mode.Inside)
    (h : step s c = some next) : Leads s.stack s.mode.scan c next := by
  obtain ⟨stack, mode⟩ := s
  have space : isSpace c = true → mode.scan = .plain → some ⟨stack, mode⟩ = some next →
      Leads stack .plain c next := by
    intro hspace hmode hnext
    obtain rfl := Option.some.inj hnext
    refine .stay ?_ hinside
    rw [hmode]
    exact .ordinary _ c (ordinary_of_isSpace hspace)
  unfold step at h
  cases mode with
  | value =>
    simp only at h
    split at h
    · next hspace => exact space hspace rfl h
    · exact beginValue_leads h
  | firstItem =>
    simp only at h
    split at h
    · next hspace => exact space hspace rfl h
    · split at h
      · exact afterValue_leads h
      · exact beginValue_leads h
  | firstMember =>
    simp only at h
    split at h
    · next hspace => exact space hspace rfl h
    · split at h
      · exact afterValue_leads h
      · split at h
        · next hquote =>
          subst hquote
          obtain rfl := Option.some.inj h
          exact .stay (.openQuote _) trivial
        · simp at h
  | key =>
    simp only at h
    split at h
    · next hspace => exact space hspace rfl h
    · split at h
      · next hquote =>
        subst hquote
        obtain rfl := Option.some.inj h
        exact .stay (.openQuote _) trivial
      · simp at h
  | colon =>
    simp only at h
    split at h
    · next hspace => exact space hspace rfl h
    · split at h
      · next hcolon =>
        subst hcolon
        obtain rfl := Option.some.inj h
        exact .stay (.ordinary _ _ (by decide)) trivial
      · simp at h
  | string isKey escape spelling => exact inString_leads h
  | number part literal =>
    simp only at h
    split at h
    · next hpart =>
      obtain rfl := Option.some.inj h
      exact .stay (.ordinary _ c (ordinary_of_next hpart)) trivial
    · split at h
      · have hnext := settled_leads (scan_complete _ stack) (complete_inside _ stack) h
        refine ⟨?_, hnext.inside, fun hne hnil => ?_⟩
        · rw [← kinds_complete (.number literal.reverse) stack]
          exact hnext.moves
        · rw [← kinds_complete (.number literal.reverse) stack]
          exact hnext.finishes (complete_stack_ne_nil _ hne) hnil
      · simp at h
  | word rest meaning =>
    simp only at h
    split at h
    · simp at h
    · next d rest =>
      split at h
      · next hc =>
        subst hc
        have hd : Ordinary c := hinside c (by simp)
        split at h
        · obtain rfl := Option.some.inj h
          exact .join (.ordinary _ c hd)
        · obtain rfl := Option.some.inj h
          exact .stay (.ordinary _ c hd) fun e he => hinside e (by simp [he])
      · simp at h
  | after => exact settled_leads rfl (fun _ => trivial) h
  | done doc => exact absurd hinside id

/-- The outermost container is an object, if `k` says so, or else an array. -/
structure Within (k : Bool) (s : State) : Prop where
  inside : s.stack ≠ [] → s.mode.Inside
  outermost : s.stack ≠ [] → (kinds s.stack).getLast? = some k
  finished : s.stack = [] → ∃ doc, s.mode = .done doc ∧ doc.isObject = k

theorem Moves.outermost {k k' : List Bool} {m m' : BraceScan.Mode} {c : Char} {outer : Bool}
    (h : Moves k m c k' m') (hlast : k.getLast? = some outer) (hne : k' ≠ []) :
    k'.getLast? = some outer := by
  cases h with
  | openObject => simp [List.getLast?_cons, hlast]
  | openArray => simp [List.getLast?_cons, hlast]
  | closeObject =>
    obtain ⟨inner, rest, rfl⟩ := List.exists_cons_of_ne_nil hne
    simpa [List.getLast?_cons_cons] using hlast
  | closeArray =>
    obtain ⟨inner, rest, rfl⟩ := List.exists_cons_of_ne_nil hne
    simpa [List.getLast?_cons_cons] using hlast
  | escaped | backslash | closeQuote | text | openQuote | ordinary => exact hlast

theorem Within.step {k : Bool} {s next : State} {c : Char} (h : Within k s)
    (hstep : step s c = some next) : Within k next := by
  by_cases hne : s.stack = []
  · obtain ⟨doc, hdone, -⟩ := h.finished hne
    obtain ⟨-, rfl⟩ := step_of_done hdone hstep
    exact h
  · have hleads := step_leads (h.inside hne) hstep
    refine ⟨hleads.inside, fun hnext => ?_, fun hnext => ?_⟩
    · exact hleads.moves.outermost (h.outermost hne) (by simpa [kinds] using hnext)
    · obtain ⟨doc, hdone, hdoc⟩ := hleads.finishes hne hnext
      exact ⟨doc, hdone, Option.some.inj (hdoc.symm.trans (h.outermost hne))⟩

theorem Within.run {k : Bool} {s next : State} {text : List Char} (h : Within k s)
    (hrun : run s text = some next) : Within k next :=
  run_preserves (fun _ _ _ => Within.step) h hrun

/-- A text ends where its outermost container has been closed. -/
theorem Within.finish {k : Bool} {s : State} {doc : Document} (h : Within k s)
    (hfinish : finish s = some doc) : s.stack = [] ∧ s.mode = .done doc ∧ doc.isObject = k := by
  by_cases hne : s.stack = []
  · obtain ⟨found, hdone, hfound⟩ := h.finished hne
    obtain rfl : found = doc := by simpa [Reader.finish, hdone] using hfinish
    exact ⟨hne, hdone, hfound⟩
  · have hinside := h.inside hne
    obtain ⟨stack, mode⟩ := s
    cases mode <;> cases stack <;> simp_all [Reader.finish, Mode.Inside]

/-- A value outside of all containers that is no container itself, read in part or whole. -/
def Scalar (s : State) : Prop :=
  s.stack = [] ∧
    match s.mode with
    | .string isKey _ _ => isKey = false
    | .number _ _ => True
    | .word _ meaning => meaning.isObject = false
    | .done doc => doc.isObject = false
    | _ => False

theorem scalar_settled {doc : Document} {next : State} {c : Char} (hdoc : doc.isObject = false)
    (h : settled ⟨[], .done doc⟩ c = some next) : Scalar next := by
  unfold settled at h
  split at h
  · obtain rfl := Option.some.inj h
    exact ⟨rfl, hdoc⟩
  · simp at h

theorem Scalar.step {s next : State} {c : Char} (h : Scalar s) (hstep : step s c = some next) :
    Scalar next := by
  obtain ⟨stack, mode⟩ := s
  obtain ⟨rfl, hmode⟩ := h
  unfold Reader.step at hstep
  cases mode with
  | string isKey escape spelling =>
    obtain rfl : isKey = false := hmode
    rcases inString_cases hstep with ⟨e, rfl, -⟩ | ⟨-, -, hend⟩
    · exact ⟨rfl, rfl⟩
    · rcases hend with ⟨-, rfl⟩ | ⟨members, key, rest, hkey, -⟩
      · exact ⟨rfl, rfl⟩
      · simp at hkey
  | number part literal =>
    simp only at hstep
    split at hstep
    · obtain rfl := Option.some.inj hstep
      exact ⟨rfl, trivial⟩
    · split at hstep
      · exact scalar_settled rfl hstep
      · simp at hstep
  | word rest meaning =>
    simp only at hstep
    split at hstep
    · simp at hstep
    · split at hstep
      · split at hstep
        · obtain rfl := Option.some.inj hstep
          exact ⟨rfl, hmode⟩
        · obtain rfl := Option.some.inj hstep
          exact ⟨rfl, hmode⟩
      · simp at hstep
  | done doc => exact scalar_settled hmode hstep
  | value | firstItem | firstMember | key | colon | after => exact absurd hmode id

theorem Scalar.run {s next : State} {text : List Char} (h : Scalar s)
    (hrun : run s text = some next) : Scalar next :=
  run_preserves (fun _ _ _ => Scalar.step) h hrun

theorem Scalar.finish {s : State} {doc : Document} (h : Scalar s)
    (hfinish : finish s = some doc) : doc.isObject = false := by
  obtain ⟨stack, mode⟩ := s
  obtain ⟨rfl, hmode⟩ := h
  cases mode with
  | done found =>
    obtain rfl : found = doc := by simpa [Reader.finish] using hfinish
    exact hmode
  | number part literal =>
    simp only [Reader.finish] at hfinish
    split at hfinish
    · obtain rfl := Option.some.inj hfinish
      rfl
    · simp at hfinish
  | value | firstItem | firstMember | key | colon | string | word | after =>
    simp [Reader.finish] at hfinish

/-- The reader behind the opening brace of an object that stands in no other container. -/
def objectStart : State := ⟨[.object [] []], .firstMember⟩

theorem within_objectStart : Within true objectStart :=
  ⟨fun _ => trivial, fun _ => rfl, by simp [objectStart]⟩

/-- The first character of a value says whether it is an object, an array or neither. -/
theorem beginValue_cases {c : Char} {next : State} (h : beginValue [] c = some next) :
    (c = '{' ∧ next = objectStart) ∨ Within false next ∨ Scalar next := by
  unfold beginValue at h
  split at h
  case h_1 =>
    obtain rfl := Option.some.inj h
    exact .inl ⟨rfl, rfl⟩
  case h_2 =>
    obtain rfl := Option.some.inj h
    exact .inr (.inl ⟨fun _ => trivial, fun _ => rfl, by simp⟩)
  case h_3 | h_4 | h_5 | h_6 | h_7 | h_8 =>
    obtain rfl := Option.some.inj h
    exact .inr (.inr ⟨rfl, by simp only [Document.isObject]⟩)
  case h_9 =>
    split at h
    · obtain rfl := Option.some.inj h
      exact .inr (.inr ⟨rfl, trivial⟩)
    · simp at h

/-- The text of an object that begins with no white space begins with the object's brace. -/
theorem object_head {c : Char} {rest : List Char} {doc : Document} (hc : isSpace c = false)
    (h : document? (c :: rest) = some doc) (hdoc : doc.isObject = true) :
    c = '{' ∧ ∃ final, run objectStart rest = some final ∧ finish final = some doc := by
  obtain ⟨final, hrun, hfinish⟩ := Option.bind_eq_some_iff.mp h
  rw [run] at hrun
  split at hrun
  · simp at hrun
  · next first hfirst =>
    have hbegin : beginValue [] c = some first := by simpa [step, start, hc] using hfirst
    rcases beginValue_cases hbegin with ⟨rfl, rfl⟩ | hwithin | hscalar
    · exact ⟨rfl, final, hrun, hfinish⟩
    · obtain ⟨-, -, hkind⟩ := (hwithin.run hrun).finish hfinish
      simp [hdoc] at hkind
    · have hkind := (hscalar.run hrun).finish hfinish
      simp [hdoc] at hkind

end Reader

end MarketQuery
