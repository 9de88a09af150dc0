import MarketQuery.Proofs.Plan.Outline

/-!
The strings of a JSON text. Whether a character stands in a string is decided by the quotes and the
backslashes before it. A string holds no newline, and outside of the strings there is no backtick:
a text with a newline and then a backtick, and no string begun between the two, is no object.
-/
namespace MarketQuery.Reader

/-- How one more character moves a scan that knows nothing but strings and escapes. -/
def quoted (mode : BraceScan.Mode) (c : Char) : BraceScan.Mode :=
  match mode with
  | .plain => if c = '"' then .inString else .plain
  | .inString => if c = '\\' then .escaped else if c = '"' then .plain else .inString
  | .escaped => .inString

theorem Moves.eq_quoted {k k' : List Bool} {m m' : BraceScan.Mode} {c : Char}
    (h : Moves k m c k' m') : m' = quoted m c := by
  cases h with
  | text _ _ hc => simp [quoted, hc.1, hc.2]
  | ordinary _ _ hc => simp [quoted, hc.2.2]
  | escaped | backslash | closeQuote | openObject | openArray | closeObject | closeArray
  | openQuote => rfl

theorem Within.scan_step {k : Bool} {s next : State} {c : Char} (h : Within k s)
    (hstep : Reader.step s c = some next) : next.mode.scan = quoted s.mode.scan c := by
  by_cases hne : s.stack = []
  · obtain ⟨doc, hdone, -⟩ := h.finished hne
    obtain ⟨hspace, rfl⟩ := step_of_done hdone hstep
    simp [hdone, Mode.scan, quoted, (ordinary_of_isSpace hspace).2.2]
  · exact (step_leads (h.inside hne) hstep).moves.eq_quoted

/-- The quotes and backslashes of a text say where the reader stands with respect to strings. -/
theorem Within.scan_run {k : Bool} {s next : State} {text : List Char} (h : Within k s)
    (hrun : Reader.run s text = some next) : next.mode.scan = text.foldl quoted s.mode.scan := by
  induction text generalizing s with
  | nil =>
    obtain rfl : s = next := by simpa [Reader.run] using hrun
    rfl
  | cons c rest ih =>
    rw [Reader.run] at hrun
    split at hrun
    · simp at hrun
    · next mid hstep => rw [ih (h.step hstep) hrun, h.scan_step hstep, List.foldl_cons]

/-- A text without quotes stays outside of strings. -/
theorem foldl_quoted_plain {text : List Char} (h : '"' ∉ text) :
    text.foldl quoted .plain = .plain := by
  induction text with
  | nil => rfl
  | cons c rest ih =>
    simp only [List.mem_cons, not_or] at h
    have hc : quoted .plain c = .plain := by simp [quoted, Ne.symm h.1]
    rw [List.foldl_cons, hc, ih h.2]

theorem inString_newline (stack : List Frame) (isKey : Bool) (escape : Escape)
    (spelling : List Char) : inString stack isKey escape spelling '\n' = none := by
  cases escape with
  | none => rfl
  | backslash => rfl
  | hex left => rfl

/-- A newline never stands in a string. -/
theorem scan_of_newline {s next : State} (h : step s '\n' = some next) :
    s.mode.scan = .plain := by
  obtain ⟨stack, mode⟩ := s
  cases mode with
  | string isKey escape spelling =>
    have hnone : inString stack isKey escape spelling '\n' = some next := h
    simp [inString_newline] at hnone
  | value | firstItem | firstMember | key | colon | number | word | after | done => rfl

def Mode.Lettered : Mode → Prop
  | .word rest _ => ∀ c ∈ rest, c.isAlpha = true
  | _ => True

theorem complete_lettered (doc : Document) (stack : List Frame) :
    (complete doc stack).mode.Lettered := by
  cases stack with
  | nil => trivial
  | cons frame rest => cases frame <;> trivial

theorem beginValue_lettered {stack : List Frame} {c : Char} {next : State}
    (h : beginValue stack c = some next) : next.mode.Lettered := by
  unfold beginValue at h
  split at h
  case h_4 | h_5 | h_6 =>
    obtain rfl := Option.some.inj h
    exact List.all_eq_true.mp rfl
  case h_9 =>
    split at h
    · obtain rfl := Option.some.inj h
      trivial
    · simp at h
  case h_1 | h_2 | h_3 | h_7 | h_8 =>
    obtain rfl := Option.some.inj h
    trivial

theorem afterValue_lettered {stack : List Frame} {c : Char} {next : State}
    (h : afterValue stack c = some next) : next.mode.Lettered := by
  unfold afterValue at h
  split at h
  · obtain rfl := Option.some.inj h
    trivial
  · obtain rfl := Option.some.inj h
    exact complete_lettered _ _
  · obtain rfl := Option.some.inj h
    trivial
  · obtain rfl := Option.some.inj h
    exact complete_lettered _ _
  · simp at h

theorem settled_lettered {s next : State} {c : Char} (hs : s.mode.Lettered)
    (h : settled s c = some next) : next.mode.Lettered := by
  unfold settled at h
  split at h
  · obtain rfl := Option.some.inj h
    exact hs
  · split at h
    · exact afterValue_lettered h
    · simp at h

theorem inString_lettered {stack : List Frame} {isKey : Bool} {escape : Escape}
    {spelling : List Char} {c : Char} {next : State}
    (h : inString stack isKey escape spelling c = some next) : next.mode.Lettered := by
  rcases inString_cases h with ⟨e, rfl, -⟩ | ⟨-, -, ⟨-, rfl⟩ | ⟨_, _, _, -, -, rfl⟩⟩
  · trivial
  · exact complete_lettered _ _
  · trivial

theorem step_lettered (s next : State) (c : Char) (hs : s.mode.Lettered)
    (h : step s c = some next) : next.mode.Lettered := by
  obtain ⟨stack, mode⟩ := s
  unfold step at h
  cases mode with
  | string isKey escape spelling => exact inString_lettered h
  | number part literal =>
    simp only at h
    split at h
    · obtain rfl := Option.some.inj h
      trivial
    · split at h
      · exact settled_lettered (complete_lettered _ _) h
      · simp at h
  | word rest meaning =>
    simp only at h
    split at h
    · simp at h
    · next d rest =>
      split at h
      · split at h
        · obtain rfl := Option.some.inj h
          exact complete_lettered _ _
        · obtain rfl := Option.some.inj h
          exact fun e he => hs e (by simp [he])
      · simp at h
  | after | done => exact settled_lettered hs h
  | value | firstItem | firstMember | key | colon =>
    simp only at h
    grind [afterValue_lettered, beginValue_lettered, Mode.Lettered]

theorem afterValue_backtick (stack : List Frame) : afterValue stack '\x60' = none := by
  cases stack with
  | nil => rfl
  | cons frame rest => cases frame <;> rfl

theorem settled_backtick (s : State) : settled s '\x60' = none := by
  obtain ⟨stack, mode⟩ := s
  cases mode with
  | after => exact afterValue_backtick stack
  | value | firstItem | firstMember | key | colon | string | number | word | done => rfl

/-- Outside of the strings there is no backtick. -/
theorem step_backtick {s : State} (hs : s.mode.Lettered) (hscan : s.mode.scan = .plain) :
    step s '\x60' = none := by
  obtain ⟨stack, mode⟩ := s
  cases mode with
  | string isKey escape spelling => cases escape <;> simp [Mode.scan] at hscan
  | number part literal =>
    have hpart : part.next? '\x60' = none := by cases part <;> rfl
    simp [step, hpart, settled_backtick]
  | word rest meaning =>
    cases rest with
    | nil => rfl
    | cons d rest =>
      have hd : '\x60' ≠ d := by
        rintro rfl
        have := hs '\x60' (by simp)
        revert this
        decide
      simp [step, hd]
  | after | done => exact settled_backtick _
  | value | firstItem | firstMember | key | colon => rfl

/-- The text of an object has no newline and then a backtick with no string begun between them. -/
theorem run_newline_backtick {gap : List Char} (hgap : gap.foldl quoted .plain = .plain)
    (front back : List Char) :
    run objectStart (front ++ '\n' :: (gap ++ '\x60' :: back)) = none := by
  rw [Option.eq_none_iff_forall_ne_some]
  intro final hfinal
  rw [run_append] at hfinal
  obtain ⟨line, hfront, hrest⟩ := Option.bind_eq_some_iff.mp hfinal
  rw [← List.cons_append, run_append] at hrest
  obtain ⟨mid, hmid, hback⟩ := Option.bind_eq_some_iff.mp hrest
  -- Only outside of strings the newline is read, and from there the gap leads into no string.
  have hplain : mid.mode.scan = .plain := by
    rw [(within_objectStart.run hfront).scan_run hmid, List.foldl_cons]
    rw [run] at hmid
    split at hmid
    · simp at hmid
    · next hnewline =>
      rw [scan_of_newline hnewline]
      exact hgap
  have hstart : objectStart.mode.Lettered := trivial
  have hlettered : mid.mode.Lettered :=
    run_preserves step_lettered (run_preserves step_lettered hstart hfront) hmid
  simp [run, step_backtick hlettered hplain] at hback

end MarketQuery.Reader
