import MarketQuery.Decimal.Numeral
import MarketQuery.Http.Exchange

/-!
Language models. A model completes a prompt into free text, or fails.
-/
namespace MarketQuery

inductive LlmError where
  | http (failure : Http.Failure)
  | timeout
  | status (code : Nat) (body : String)
  | emptyCompletion
  | missingApiKey (provider : String)

def LlmError.message : LlmError → String
  | http failure => "HTTP error: " ++ failure.message
  | timeout => "LLM request timed out"
  | status code body => "LLM API returned " ++ Decimal.natText code ++ ": " ++ body
  | emptyCompletion => "LLM returned an empty completion"
  | missingApiKey provider => "No API key configured for " ++ provider

/-- A model in a world with state `σ`. -/
structure Llm (σ : Type) where
  model : String
  complete : String → StateM σ (Except LlmError String)
  /-- How long a completion takes, in milliseconds. -/
  delay : Nat := 0

end MarketQuery
