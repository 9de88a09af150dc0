import MarketQuery.Llm.Basic
import MarketQuery.Plan.Basic
import MarketQuery.Symbol.Table
import MarketQuery.Tool.Definition

/-!
Why a query fails.
-/
namespace MarketQuery

inductive QueryError where
  | malformedPlan (fault : PlanFault)
  | unknownTool (name : String)
  | unknownSymbol (symbol : String)
  | missingParameter (tool parameter : String)
  | invalidParameter (tool parameter : String) (fault : CoercionFault)
  | toolFailure (tool : String) (cause : ToolError)
  | llm (cause : LlmError)

def QueryError.message : QueryError → String
  | malformedPlan fault => "Could not understand the model's plan: " ++ fault.message
  | unknownTool name => "Unknown tool '" ++ name ++ "'"
  | unknownSymbol symbol => "Unknown asset symbol '" ++ symbol ++ "'"
  | missingParameter tool parameter =>
    "Missing required parameter '" ++ parameter ++ "' for tool '" ++ tool ++ "'"
  | invalidParameter tool parameter fault =>
    "Invalid value for parameter '" ++ parameter ++ "' of tool '" ++ tool ++ "': " ++ fault.message
  | toolFailure tool cause => "Tool '" ++ tool ++ "' failed: " ++ cause.message
  | llm cause => "LLM call failed: " ++ cause.message

end MarketQuery
