import MarketQuery.Plan.Basic
import MarketQuery.Plan.Embedded
import MarketQuery.Text.LetterCase

/-!
Reading a plan from a model's reply. Every field may be spelled in several ways, in an order of
priority. Only the status must be there; a plan that is no success keeps no actions.
-/
namespace MarketQuery

namespace PlanStatus

/-- The status of a word, in any letter case and however its parts are joined. -/
def ofText? (text : String) : Option PlanStatus :=
  let word := (Text.lower (Text.trimmed text)).toList.filter fun c =>
    c ≠ '_' ∧ c ≠ '-' ∧ c ≠ ' '
  if word = "success".toList then some success
  else if word = "needsinfo".toList then some needsInfo
  else if word = "error".toList then some error
  else none

end PlanStatus

namespace Plan

def actionsKeys : List String := ["actions", "tools", "tool_calls"]
def templateKeys : List String := ["answerTemplate", "answer_template", "template", "answer"]
def requestKeys : List String := ["request", "question"]
def errorKeys : List String := ["errorMessage", "error_message", "error", "message"]
def inputKeys : List String := ["input", "params", "parameters", "arguments"]

def defaultRequest : String :=
  "Could you give me a few more details about what you want to know?"

def defaultError : String :=
  "I can't answer that question with the available data tools."

/-- The first of the keys whose value is there and is not null. -/
def firstPresent? (fields : Fields) (keys : List String) : Option (String × Json) :=
  keys.findSome? fun key =>
    ((Keyed.get? key fields).filter fun v => !v.isNull).map fun v => (key, v)

/-- The first text under the keys that is not blank. -/
def firstText? (fields : Fields) (keys : List String) : Option String :=
  keys.findSome? fun key =>
    ((Keyed.get? key fields).bind Json.string?).filter fun text => !Text.isBlankText text

/-- The first input that is not empty. Every spelling that is there must hold an object. -/
def readInput (fields : Fields) : List String → Fields → Except ActionFault Fields
  | [], input => .ok input
  | key :: rest, input =>
    match Keyed.get? key fields with
    | none => readInput fields rest input
    | some .null => readInput fields rest input
    | some (.object candidate) =>
      readInput fields rest (if input.isEmpty then candidate else input)
    | some _ => .error (.inputNotObject key)

def readAction (v : Json) : Except ActionFault Action :=
  match v.fields? with
  | none => .error .notObject
  | some fields =>
    match (Keyed.get? "tool" fields).bind Json.string? with
    | none => .error .noTool
    | some tool => (readInput fields inputKeys []).map fun input => ⟨tool, input⟩

/-- The actions of a list whose first item has the given index. -/
def readActionList (index : Nat) : List Json → Except PlanFault (List Action)
  | [] => .ok []
  | v :: rest =>
    match readAction v with
    | .error fault => .error (.action index fault)
    | .ok action => (readActionList (index + 1) rest).map (action :: ·)

def readActions (fields : Fields) : Except PlanFault (List Action) :=
  match firstPresent? fields actionsKeys with
  | none => .ok []
  | some (_, .array items) => readActionList 0 items
  | some (key, _) => .error (.notList key)

def ofFields (fields : Fields) : Except PlanFault Plan :=
  match (Keyed.get? "status" fields).bind Json.string? with
  | none => .error .noStatus
  | some text =>
    match PlanStatus.ofText? text with
    | none => .error (.unknownStatus text)
    | some status => do
      let actions ← if status = .success then readActions fields else .ok []
      let request := firstText? fields requestKeys
      let errorMessage := firstText? fields errorKeys
      .ok
        { status
          reasoning := (firstText? fields ["reasoning"]).getD ""
          actions
          answerTemplate := (firstText? fields templateKeys).getD ""
          request := if status = .needsInfo then some (request.getD defaultRequest) else request
          errorMessage :=
            if status = .error then some (errorMessage.getD defaultError) else errorMessage }

/-- The plan in a model's reply. -/
def ofReply (reply : String) : Except PlanFault Plan :=
  match extractObject? reply with
  | none => .error .noObject
  | some fields => ofFields fields

end Plan

end MarketQuery
