import MarketQuery.Json.Value

/-!
A plan is what the model proposes for answering a query: tool calls and a template for the answer,
a question back, or a refusal.
-/
namespace MarketQuery

inductive PlanStatus where
  | success
  | needsInfo
  | error
  deriving DecidableEq

/-- A proposed tool call. Nothing in it has been checked. -/
structure Action where
  tool : String
  input : Fields

structure Plan where
  status : PlanStatus
  reasoning : String
  /-- Empty unless the status is `success`. -/
  actions : List Action
  answerTemplate : String
  request : Option String
  errorMessage : Option String

/-- What is wrong with one proposed action. -/
inductive ActionFault where
  | notObject
  | noTool
  | inputNotObject (key : String)

def ActionFault.message : ActionFault → String
  | notObject => "is not an object"
  | noTool => "has no 'tool' name"
  | inputNotObject key => "has a non-object '" ++ key ++ "'"

/-- Why a reply holds no plan. -/
inductive PlanFault where
  | noObject
  | noStatus
  | unknownStatus (text : String)
  | notList (key : String)
  | action (index : Nat) (fault : ActionFault)

def PlanFault.message : PlanFault → String
  | noObject => "no JSON object found in the model response"
  | noStatus => "plan has no 'status' field"
  | unknownStatus text => "unknown plan status '" ++ text ++ "'"
  | notList key => "'" ++ key ++ "' is not a list"
  | action index fault => "action " ++ Decimal.natText index ++ " " ++ fault.message

end MarketQuery
