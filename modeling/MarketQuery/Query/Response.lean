import MarketQuery.Query.Execution

/-!
The response to a query: an answer with the results it rests on, a question back, or an error.
-/
namespace MarketQuery

inductive QueryResponse where
  | success (reasoning : String) (results : List ActionResult) (finalAnswer : String)
  | needsInfo (request : String)
  | error (message : String)

namespace QueryResponse

def ofError (e : QueryError) : QueryResponse :=
  error e.message

def status : QueryResponse → String
  | success .. => "success"
  | needsInfo _ => "needs_info"
  | error _ => "error"

/-- What is shown to the person who asked. -/
def text : QueryResponse → String
  | success _ _ finalAnswer => finalAnswer
  | needsInfo request => request
  | error message => message

def isSuccess : QueryResponse → Bool
  | success .. => true
  | _ => false

def resultDocument (r : ActionResult) : Document :=
  .ofMembers [("tool", .ofString r.tool), ("input", r.input.document),
    ("output", r.output.document)]

/-- The whole response, the status first. -/
def document (r : QueryResponse) : Document :=
  .ofMembers (("status", .ofString r.status) ::
    match r with
    | success reasoning results finalAnswer =>
      [("reasoning", .ofString reasoning), ("results", .array (results.map resultDocument)),
       ("final_answer", .ofString finalAnswer)]
    | needsInfo request => [("request", .ofString request)]
    | error message => [("error", .ofString message)])

end QueryResponse

end MarketQuery
