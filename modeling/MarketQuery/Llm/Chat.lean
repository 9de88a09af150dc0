import MarketQuery.Http.Client
import MarketQuery.Json.Form
import MarketQuery.Json.Reader
import MarketQuery.Llm.Basic
import MarketQuery.Text.Blank

/-!
A model behind a chat completions service. The whole prompt is one message of the user, and the
first choice of the service is the completion. A completion that is blank counts as none.
-/
namespace MarketQuery

structure ChatClient where
  /-- The address of the service, without slashes at its end. -/
  base : String
  key : Option String
  model : String
  temperature : Option Float32
  maxTokens : Option Nat
  /-- How long an answer is waited for, in seconds. -/
  patience : Nat

namespace ChatClient

/-- A number in single precision. What is not finite has no spelling. -/
def singleDocument (x : Float32) : Document :=
  if x.isFinite then .number (Decimal.dataTextSingle x) else .null

/-- The body of a request. Settings that are left to the service are left out. -/
def body (c : ChatClient) (prompt : String) : Document :=
  .ofMembers (
    [("model", .ofString c.model),
     ("messages", .array [
        .ofMembers [("role", .ofString "user"), ("content", .ofString prompt)]])] ++
    (c.temperature.map fun x => ("temperature", singleDocument x)).toList ++
    (c.maxTokens.map fun n => ("max_tokens", Document.ofNat n)).toList)

/-- A message without content is one whose content is missing. -/
def messageForm : Form (Option String) where
  blank := none
  fields := [{ name := "content", fill := fun d _ => d.optional? Document.string? }]

def choiceForm : Form (Option String) where
  blank := none
  fields := [{ name := "message", fill := fun d _ => messageForm.read? d, required := true }]

def answerForm : Form (List (Option String)) where
  blank := []
  fields := [{ name := "choices", fill := fun d _ => d.list? choiceForm.read? }]

/-- The content of the first choice, if it is not blank. -/
def content? (choices : List (Option String)) : Option String :=
  (choices.head?.join).filter fun text => !Text.isBlankText text

/-- The completion that an answer holds. -/
def read (answer : Http.Answer) : Except LlmError String :=
  if Http.isSuccess answer.status then
    match (Reader.document? answer.body.toList).bind answerForm.read? with
    | none => .error (.http .badBody)
    | some choices =>
      match content? choices with
      | some text => .ok text
      | none => .error .emptyCompletion
  else .error (.status answer.status answer.body)

def outcome : Except Http.Failure Http.Answer → Except LlmError String
  | .ok answer => read answer
  | .error (.late _) => .error .timeout
  | .error failure => .error (.http failure)

/-- The model as a client of a server. -/
def llm {σ : Type} (c : ChatClient) (server : Http.Server σ) : Llm σ where
  model := c.model
  complete prompt := do
    let sent ← Http.send server c.patience "POST" (c.base ++ "/chat/completions")
      (c.key.map fun key => "Bearer " ++ key) (some (c.body prompt).compactText)
    pure (outcome sent)

end ChatClient

end MarketQuery
