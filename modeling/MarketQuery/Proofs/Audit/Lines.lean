import MarketQuery.Audit.Log
import MarketQuery.Proofs.Json.Equality
import MarketQuery.Proofs.Json.ReadBack

/-!
The lines of the audit log. A log only grows: every entry adds its line and a line break, and
nothing else. No line holds a line break of its own, so the lines of the log are those that it had
and one for each entry, in their order. A line is an object whose members tell of the call, where
the values that it holds read back.
-/
namespace MarketQuery

def Call.failure? : Call → Option String
  | .llm call =>
    match call.outcome with
    | .ok _ => none
    | .error e => some e.message
  | .tool call =>
    match call.outcome with
    | .ok _ => none
    | .error e => some e.message

namespace AuditEntry

/-- The values of a call that its line holds as they are. -/
def held : Call → List Json
  | .llm _ => []
  | .tool call =>
    call.args ::
      match call.outcome with
      | .ok output => if output.compact.length ≤ Audit.resultLimit then [output] else []
      | .error _ => []

/-- The members of an object that tell of an entry. -/
structure Recorded (e : AuditEntry) (fields : Fields) : Prop where
  timestamp : Keyed.get? "timestamp" fields = some (.string e.timestamp)
  queryId : Keyed.get? "query_id" fields = some (.string e.queryId)
  duration : Keyed.get? "duration_ms" fields = some (.ofInt e.duration)
  success_iff : Keyed.get? "status" fields = some (.string "success") ↔ e.call.failure? = none
  noError_iff : Keyed.get? "error" fields = some .null ↔ e.call.failure? = none
  failed : ∀ message, e.call.failure? = some message →
    Keyed.get? "status" fields = some (.string "error") ∧
      Keyed.get? "error" fields = some (.string message) ∧ Keyed.get? "result" fields = some .null
  llm : ∀ call, e.call = .llm call →
    Keyed.get? "entry_type" fields = some (.string "llm_call_complete") ∧
      Keyed.get? "model" fields = some (.string call.model) ∧
      Keyed.get? "args" fields = some (.object
        [("prompt_preview", .string (Audit.preview Audit.promptLimit call.prompt))]) ∧
      ∀ reply, call.outcome = .ok reply → Keyed.get? "result" fields =
        some (.string (Audit.preview Audit.resultLimit reply))
  tool : ∀ call, e.call = .tool call →
    Keyed.get? "entry_type" fields = some (.string "tool_call_complete") ∧
      Keyed.get? "tool_name" fields = some (.string call.tool) ∧
      Keyed.get? "args" fields = some call.args ∧
      ∀ output, call.outcome = .ok output → output.compact.length ≤ Audit.resultLimit →
        Keyed.get? "result" fields = some output

def stringOrNull (s : Option String) : Json :=
  match s with
  | some s => .string s
  | none => .null

def values (e : AuditEntry) : List (String × Json) :=
  [("timestamp", .string e.timestamp),
    ("entry_type", .string (entryType e.call)),
    ("query_id", .string e.queryId),
    ("tool_name", stringOrNull (toolName? e.call)),
    ("model", stringOrNull (model? e.call)),
    ("args", args e.call),
    ("result", (outcome e.call).toOption.getD .null),
    ("error", stringOrNull e.call.failure?),
    ("duration_ms", .ofInt e.duration),
    ("status", .string (if e.call.failure?.isNone then "success" else "error"))]

theorem failure?_eq (call : Call) : call.failure? =
    match outcome call with
    | .ok _ => none
    | .error message => some message := by
  cases call with
  | llm call => cases hcall : call.outcome <;> simp [outcome, Call.failure?, hcall]
  | tool call => cases hcall : call.outcome <;> simp [outcome, Call.failure?, hcall]

/-- The text of a line is that of its members in the order in which they are written. -/
theorem line_eq (e : AuditEntry) : e.line = (Json.object e.values).compact := by
  have htext : ∀ s, textOrNull s = (stringOrNull s).document := by
    intro s
    cases s <;> rfl
  have hdocument : e.document = (Json.object e.values).document := by
    rw [document, Json.document_object, values, failure?_eq]
    cases houtcome : outcome e.call <;>
      simp [htext, stringOrNull, Json.document, Json.document_ofNat, Except.toOption]
  rw [line, hdocument, Json.compact]

/-- Every member of a line is found under its key. -/
theorem get?_values {e : AuditEntry} {key : String} {v : Json} (h : (key, v) ∈ e.values) :
    Keyed.get? key (Keyed.ofList e.values) = some v := by
  simp only [values, List.mem_cons, List.not_mem_nil, or_false, Prod.mk.injEq] at h
  rcases h with ⟨rfl, rfl⟩ | ⟨rfl, rfl⟩ | ⟨rfl, rfl⟩ | ⟨rfl, rfl⟩ | ⟨rfl, rfl⟩ | ⟨rfl, rfl⟩ |
    ⟨rfl, rfl⟩ | ⟨rfl, rfl⟩ | ⟨rfl, rfl⟩ | ⟨rfl, rfl⟩ <;>
    simp [values, Keyed.ofList, Keyed.get?_insert]

theorem recorded_values (e : AuditEntry) : Recorded e (Keyed.ofList e.values) where
  timestamp := get?_values (by simp [values])
  queryId := get?_values (by simp [values])
  duration := get?_values (by simp [values])
  success_iff := by
    rw [get?_values (v := .string (if e.call.failure?.isNone then "success" else "error"))
      (by simp [values])]
    cases e.call.failure? <;> simp
  noError_iff := by
    rw [get?_values (v := stringOrNull e.call.failure?) (by simp [values])]
    cases e.call.failure? <;> simp [stringOrNull]
  failed message hfailure := by
    have hresult : outcome e.call = .error message := by
      rw [failure?_eq] at hfailure
      cases houtcome : outcome e.call <;> simp_all
    refine ⟨get?_values ?_, get?_values ?_, get?_values ?_⟩ <;>
      simp [values, hfailure, hresult, stringOrNull, Except.toOption]
  llm call hcall := by
    refine ⟨get?_values ?_, get?_values ?_, get?_values ?_, fun reply hreply => get?_values ?_⟩ <;>
      simp [values, entryType, model?, stringOrNull, args, outcome, Except.toOption, *]
  tool call hcall := by
    refine ⟨get?_values ?_, get?_values ?_, get?_values ?_,
      fun output houtput hshort => get?_values ?_⟩ <;>
      simp [values, entryType, toolName?, stringOrNull, args, outcome, Except.toOption,
        Audit.resultPreview, *]

theorem embeds_stringOrNull (depth : Nat) (s : Option String) :
    (stringOrNull s).Embeds depth := by
  cases s with
  | none => exact Json.embeds_null depth
  | some s => exact Json.embeds_string depth s

variable {call : Call}

theorem embeds_args (h : ∀ v ∈ held call, (Json.array [v]).ReadsBack) :
    (args call).Embeds (Document.nestingLimit - 1) := by
  cases call with
  | tool call => exact (h call.args (by simp [held])).embeds
  | llm call => exact Json.embeds_object (by simp [Json.embeds_string]) rfl

theorem embeds_outcome (h : ∀ v ∈ held call, (Json.array [v]).ReadsBack) {v : Json}
    (houtcome : outcome call = .ok v) : v.Embeds (Document.nestingLimit - 1) := by
  cases call with
  | llm call =>
    cases hcall : call.outcome with
    | error e => simp [outcome, hcall] at houtcome
    | ok reply =>
      obtain rfl : Json.string (Audit.preview Audit.resultLimit reply) = v := by
        simpa [outcome, hcall] using houtcome
      exact Json.embeds_string _ _
  | tool call =>
    cases hcall : call.outcome with
    | error e => simp [outcome, hcall] at houtcome
    | ok output =>
      obtain rfl : Audit.resultPreview output = v := by
        simpa [outcome, hcall] using houtcome
      unfold Audit.resultPreview
      split
      · next hshort => exact (h output (by simp [held, hcall, hshort])).embeds
      · exact Json.embeds_string _ _

theorem embeds_values {e : AuditEntry} (hduration : e.duration < Decimal.wordLimit)
    (h : ∀ v ∈ held e.call, (Json.array [v]).ReadsBack) :
    ∀ m ∈ e.values, m.2.Embeds (Document.nestingLimit - 1) := by
  have hresult : ((outcome e.call).toOption.getD .null).Embeds (Document.nestingLimit - 1) := by
    cases houtcome : outcome e.call with
    | ok v => exact embeds_outcome h houtcome
    | error message => exact Json.embeds_null _
  simp [values, Json.embeds_string, embeds_stringOrNull, Json.embeds_ofNat _ hduration,
    embeds_args h, hresult]

theorem parseObject?_line {e : AuditEntry} (hduration : e.duration < Decimal.wordLimit)
    (h : ∀ v ∈ held e.call, (Json.array [v]).ReadsBack) :
    Json.parseObject? e.line.toList = some (Keyed.ofList e.values) := by
  rw [Json.parseObject?, line_eq, Json.parse?_object (embeds_values hduration h)]
  rfl

/-- A line is one line of the log. -/
theorem not_mem_line (e : AuditEntry) : '\n' ∉ e.line.toList := by
  rw [line_eq, Json.toList_compact]
  exact fun h => absurd (Json.flat_document _ _ h) (by decide)

end AuditEntry

namespace AuditLog

/-- Nothing stands in the log after its last line. -/
def Ended (log : AuditLog) : Prop :=
  ∀ text, log.contents = some text → text = "" ∨ ∃ whole, text = whole ++ "\n"

theorem Ended.append {log : AuditLog} (e : AuditEntry) : (log.append e).Ended := by
  intro text htext
  obtain ⟨before, -, rfl⟩ := Option.map_eq_some_iff.mp htext
  exact .inr ⟨before ++ e.line, rfl⟩

theorem lines_append {log : AuditLog} (hended : log.Ended) {text : String}
    (htext : log.contents = some text) (e : AuditEntry) :
    (log.append e).lines = log.lines ++ [e.line] := by
  have hline := List.splitOn_eq_singleton e.not_mem_line
  have hbreak : ∀ chars : List Char, (chars ++ ['\n']).splitOn '\n' = chars.splitOn '\n' ++ [[]] :=
    fun chars => List.splitOn_append_cons_self chars []
  rcases hended text htext with rfl | ⟨whole, rfl⟩
  · simp [lines, append, htext, hbreak, hline]
  · simp [lines, append, htext, hbreak, hline, List.splitOn_append_cons_self]

def added (entries : List AuditEntry) : String :=
  String.join (entries.map fun e => e.line ++ "\n")

theorem contents_appendAll (log : AuditLog) (entries : List AuditEntry) :
    (log.appendAll entries).contents = log.contents.map (· ++ added entries) := by
  induction entries generalizing log with
  | nil => cases hcontents : log.contents <;> simp [appendAll, added, hcontents]
  | cons e rest ih =>
    have hfirst : log.appendAll (e :: rest) = (log.append e).appendAll rest := rfl
    rw [hfirst, ih, append, Option.map_map]
    simp [added, Function.comp_def, String.append_assoc]

theorem Ended.lines_appendAll {log : AuditLog} (hended : log.Ended) {text : String}
    (htext : log.contents = some text) (entries : List AuditEntry) :
    (log.appendAll entries).lines = log.lines ++ entries.map AuditEntry.line := by
  induction entries generalizing log text with
  | nil => simp [appendAll]
  | cons e rest ih =>
    have hnext : (log.append e).contents = some (text ++ e.line ++ "\n") := by
      simp [AuditLog.append, htext]
    calc (log.appendAll (e :: rest)).lines
        = (log.append e).lines ++ rest.map AuditEntry.line := ih (Ended.append e) hnext
      _ = log.lines ++ (e :: rest).map AuditEntry.line := by
        rw [lines_append hended htext, List.append_assoc, List.singleton_append, List.map_cons]

/-- Entries add their lines to a log in their order and change nothing else. A line is an object
that tells of its call, if the values that it holds read back from their texts. They have to do so
as the items of an array, since a line nests them one level deeper than they are alone. -/
theorem appendAll_lines (log : AuditLog) (entries : List AuditEntry) :
    (log.appendAll entries).contents = log.contents.map (· ++ added entries) ∧
    (log.contents = none → log.appendAll entries = log) ∧
    (∀ text, log.contents = some text → log.Ended →
      (log.appendAll entries).lines = log.lines ++ entries.map AuditEntry.line) ∧
    ∀ e ∈ entries, '\n' ∉ e.line.toList ∧
      (e.duration < Decimal.wordLimit →
        (∀ v ∈ AuditEntry.held e.call, (Json.array [v]).ReadsBack) →
        ∃ fields, Json.parseObject? e.line.toList = some fields ∧ e.Recorded fields) := by
  refine ⟨contents_appendAll log entries, fun hnone => ?_, fun text htext hended => ?_,
    fun e _ => ⟨e.not_mem_line, fun hduration hheld => ?_⟩⟩
  · have hcontents := contents_appendAll log entries
    rw [hnone, Option.map_none, ← hnone] at hcontents
    exact congrArg AuditLog.mk hcontents
  · exact hended.lines_appendAll htext entries
  · exact ⟨_, AuditEntry.parseObject?_line hduration hheld, e.recorded_values⟩

theorem appendAll_lines_multiline :
    let prompt := "first line\nsecond \"line\""
    let failed : AuditEntry := ⟨"T", "Q", .llm ⟨"model", prompt, .error .timeout⟩, 7⟩
    let pool : Json := .object [("pool_id", .string "0x\n\\")]
    let output : Json := .string "\t\r\n"
    let answered : AuditEntry := ⟨"T", "Q", .tool ⟨"get_pool_info", pool, .ok output⟩, 20⟩
    let log : AuditLog := ⟨some "\x7b\x7d\n"⟩
    (log.appendAll [failed, answered]).lines = log.lines ++ [failed.line, answered.line] ∧
      ∃ fields, Json.parseObject? answered.line.toList = some fields ∧
        answered.Recorded fields := by
  intro prompt failed pool output answered log
  obtain ⟨-, -, hlines, hentries⟩ := appendAll_lines log [failed, answered]
  have hended : log.Ended := by
    rintro text htext
    obtain rfl := Option.some.inj htext
    exact .inr ⟨"\x7b\x7d", rfl⟩
  have hheld : ∀ v ∈ AuditEntry.held answered.call, (Json.array [v]).ReadsBack := by
    have hvalues : AuditEntry.held answered.call = [pool, output] := by decide +kernel
    rw [hvalues]
    unfold Json.ReadsBack
    decide +kernel
  exact ⟨hlines _ rfl hended, (hentries answered (by simp)).2 (by decide) hheld⟩

end AuditLog

end MarketQuery
