import MarketQuery.Answer.Template
import MarketQuery.Plan.Reading
import MarketQuery.Query.Lifecycle
import MarketQuery.Query.Prompt
import MarketQuery.Query.Response
import MarketQuery.Text.Blank

/-!
Answering one query from end to end. The model is asked for a plan, the plan's actions are carried
out, and the template of the answer is filled with their results. Every problem becomes an error
response. All calls are recorded, the model's first.
-/
namespace MarketQuery

/-- A finished call of the model. -/
structure LlmCall where
  model : String
  prompt : String
  outcome : Except LlmError String

inductive Call where
  | llm (call : LlmCall)
  | tool (call : ToolCall)

/-- An answered query, and how it came to its response. -/
structure AnsweredQuery where
  response : QueryResponse
  llmCall : Option LlmCall
  toolCalls : List ToolCall
  lifecycle : Lifecycle

/-- All calls in the order in which they were made. -/
def AnsweredQuery.calls (q : AnsweredQuery) : List Call :=
  (q.llmCall.map Call.llm).toList ++ q.toolCalls.map Call.tool

structure Agent (σ : Type) where
  registry : Registry σ
  symbols : SymbolTable
  llm : Llm σ

namespace Agent

variable {σ : Type}

def emptyQuestion : String :=
  "Please ask a question about prices, pools or swap rates."

def prompt (a : Agent σ) (query : String) : String :=
  Prompt.text a.registry.definitions a.symbols query

/-- The plan that a call of the model gave. -/
def planOf (call : LlmCall) : Except QueryError Plan :=
  match call.outcome with
  | .error cause => .error (.llm cause)
  | .ok reply => (Plan.ofReply reply).mapError .malformedPlan

/-- What follows from a plan whose actions were carried out. -/
def conclude (a : Agent σ) (plan : Plan) (call : LlmCall) (execution : Execution)
    (lifecycle : Lifecycle) : AnsweredQuery :=
  match execution.outcome with
  | .error e => ⟨.ofError e, some call, execution.calls, lifecycle.advance .failed⟩
  | .ok results =>
    let finalAnswer := Template.render a.symbols plan.answerTemplate results
    ⟨.success plan.reasoning results finalAnswer, some call, execution.calls,
      (lifecycle.advance .rendering).advance .succeeded⟩

/-- Acts on the model's reply. -/
def follow (a : Agent σ) (call : LlmCall) (lifecycle : Lifecycle) : StateM σ AnsweredQuery :=
  match planOf call with
  | .error e => pure ⟨.ofError e, some call, [], lifecycle.advance .failed⟩
  | .ok plan =>
    match plan.status with
    | .needsInfo =>
      pure ⟨.needsInfo (plan.request.getD ""), some call, [], lifecycle.advance .needsInfo⟩
    | .error =>
      pure ⟨.error (plan.errorMessage.getD ""), some call, [], lifecycle.advance .failed⟩
    | .success => do
      let execution ← a.registry.execute a.symbols plan.actions
      pure (a.conclude plan call execution (lifecycle.advance .executing))

/-- Answers a query. A blank one is refused without asking the model. -/
def answer (a : Agent σ) (query : String) : StateM σ AnsweredQuery :=
  let question := Text.trimmed query
  if question = "" then
    pure ⟨.error emptyQuestion, none, [], Lifecycle.start.advance .failed⟩
  else do
    let prompt := a.prompt question
    let outcome ← a.llm.complete prompt
    a.follow ⟨a.llm.model, prompt, outcome⟩ (Lifecycle.start.advance .interpreting)

/-- How long a query waits for the model, in milliseconds. -/
def delay (a : Agent σ) (query : String) : Nat :=
  if Text.trimmed query = "" then 0 else a.llm.delay

/-- The response to a query that outlived its budget, given in milliseconds. -/
def timedOut (budget : Nat) : QueryResponse :=
  .error ("Query timed out after " ++ Decimal.natText (budget / 1000) ++ " seconds")

/-- Answers a query within a budget. A call that is still going on at its end is abandoned, and
nothing is recorded of it. -/
def answerWithin (a : Agent σ) (budget : Nat) (query : String) : StateM σ AnsweredQuery :=
  if budget < a.delay query then
    pure ⟨timedOut budget, none, [], Lifecycle.start.advance .interpreting⟩
  else a.answer query

end Agent

end MarketQuery
