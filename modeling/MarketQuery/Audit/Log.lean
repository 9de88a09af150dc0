import MarketQuery.Query.Agent
import MarketQuery.Text.Bytes

/-!
The audit log. Every call of a query, of the model or of a tool, is one line of JSON, and lines are
only ever added at the end. Long texts are cut to a preview. A log that cannot be written keeps
nothing and stops nothing.
-/
namespace MarketQuery

namespace Audit

def promptLimit : Nat := 500
def resultLimit : Nat := 1000

def truncationMark : String := "... [truncated]"

/-- The first characters of a text, with a mark if there are more. The text is cut where the first
character begins that is too many. -/
def preview (limit : Nat) (text : String) : String :=
  match found : (Text.offsets text.toList)[limit]? with
  | none => text
  | some cut =>
    String.ofList (Text.before cut text.toList (Text.isSome_splitAt?_of_offset found)) ++
      truncationMark

/-- A value whose text is long becomes a preview of that text. -/
def resultPreview (v : Json) : Json :=
  if v.compact.length ≤ resultLimit then v else .string (preview resultLimit v.compact)

end Audit

/-- A call as it is logged. -/
structure AuditEntry where
  timestamp : String
  queryId : String
  call : Call
  /-- Milliseconds. -/
  duration : Nat

namespace AuditEntry

def entryType : Call → String
  | .llm _ => "llm_call_complete"
  | .tool _ => "tool_call_complete"

def toolName? : Call → Option String
  | .llm _ => none
  | .tool call => some call.tool

def model? : Call → Option String
  | .llm call => some call.model
  | .tool _ => none

def args : Call → Json
  | .llm call => .object [("prompt_preview", .string (Audit.preview Audit.promptLimit call.prompt))]
  | .tool call => call.args

/-- What the call gave, or the message of its error. -/
def outcome : Call → Except String Json
  | .llm call =>
    match call.outcome with
    | .ok reply => .ok (.string (Audit.preview Audit.resultLimit reply))
    | .error e => .error e.message
  | .tool call =>
    match call.outcome with
    | .ok output => .ok (Audit.resultPreview output)
    | .error e => .error e.message

def textOrNull (s : Option String) : Document :=
  match s with
  | some s => .ofString s
  | none => .null

def document (e : AuditEntry) : Document :=
  let (result, error, status) := match outcome e.call with
    | .ok v => (v.document, .null, "success")
    | .error message => (.null, .ofString message, "error")
  .ofMembers [
    ("timestamp", .ofString e.timestamp),
    ("entry_type", .ofString (entryType e.call)),
    ("query_id", .ofString e.queryId),
    ("tool_name", textOrNull (toolName? e.call)),
    ("model", textOrNull (model? e.call)),
    ("args", (args e.call).document),
    ("result", result),
    ("error", error),
    ("duration_ms", .ofNat e.duration),
    ("status", .ofString status)]

def line (e : AuditEntry) : String :=
  e.document.compactText

end AuditEntry

/-- The file of the log: its text, if it can be written at all. -/
structure AuditLog where
  contents : Option String

namespace AuditLog

def append (log : AuditLog) (e : AuditEntry) : AuditLog :=
  ⟨log.contents.map fun text => text ++ e.line ++ "\n"⟩

def appendAll (log : AuditLog) (entries : List AuditEntry) : AuditLog :=
  entries.foldl append log

/-- The lines of the log. -/
def lines (log : AuditLog) : List String :=
  match log.contents with
  | none => []
  | some text => ((text.toList.splitOn '\n').dropLast).map String.ofList

end AuditLog

end MarketQuery
