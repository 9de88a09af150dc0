import MarketQuery.Query.Arguments

/-!
Carrying out the actions of a plan, one after the other. The first failure ends the work and
discards the results so far. Every call of a tool is recorded, also the one that failed.
-/
namespace MarketQuery

structure ActionResult where
  tool : String
  /-- The arguments of the call. -/
  input : Json
  output : Json
  shape : OutputShape

/-- A finished call of a tool. -/
structure ToolCall where
  tool : String
  args : Json
  outcome : Except ToolError Json

structure Execution where
  outcome : Except QueryError (List ActionResult)
  calls : List ToolCall

def ActionResult.json (r : ActionResult) : Json :=
  .object [("input", r.input), ("output", r.output), ("tool", .string r.tool)]

namespace Registry

variable {σ : Type}

def execute (r : Registry σ) (t : SymbolTable) : List Action → StateM σ Execution
  | [] => pure ⟨.ok [], []⟩
  | action :: rest =>
    match r.prepare t action with
    | .error e => pure ⟨.error e, []⟩
    | .ok (tool, args) => do
      let name := tool.definition.name
      let outcome ← (tool.invoke args).run
      let call : ToolCall := ⟨name, args.json, outcome⟩
      match outcome with
      | .error cause => pure ⟨.error (.toolFailure name cause), [call]⟩
      | .ok output => do
        let later ← r.execute t rest
        let result : ActionResult := ⟨name, args.json, output, tool.definition.output⟩
        pure ⟨later.outcome.map (result :: ·), call :: later.calls⟩

end Registry

end MarketQuery
