/-!
The life of a query. It moves from state to state along the permitted transitions only; a request
for any other transition leaves the state as it is.
-/
namespace MarketQuery

inductive QueryState where
  | received
  | interpreting
  | needsInfo
  | executing
  | rendering
  | succeeded
  | failed
  deriving DecidableEq

namespace QueryState

def name : QueryState → String
  | received => "received"
  | interpreting => "interpreting"
  | needsInfo => "needs_info"
  | executing => "executing"
  | rendering => "rendering"
  | succeeded => "succeeded"
  | failed => "failed"

def isTerminal : QueryState → Bool
  | needsInfo | succeeded | failed => true
  | _ => false

/-- The permitted transitions. -/
def permits : QueryState → QueryState → Bool
  | received, interpreting | received, failed => true
  | interpreting, needsInfo | interpreting, failed | interpreting, executing => true
  | executing, failed | executing, rendering => true
  | rendering, succeeded => true
  | _, _ => false

def advance (s next : QueryState) : QueryState :=
  if s.permits next then next else s

end QueryState

/-- A life: the state reached, and the requested transitions in order, each with the state in which
it was requested. -/
structure Lifecycle where
  state : QueryState
  requests : List (QueryState × QueryState)

namespace Lifecycle

def start : Lifecycle := ⟨.received, []⟩

def advance (l : Lifecycle) (next : QueryState) : Lifecycle :=
  ⟨l.state.advance next, l.requests ++ [(l.state, next)]⟩

end Lifecycle

end MarketQuery
