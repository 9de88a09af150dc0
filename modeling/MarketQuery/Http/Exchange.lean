/-!
An exchange with a web server, as data: a request, and how it ended. The server itself is a
function on a state of its own.
-/
namespace MarketQuery.Http

structure Request where
  method : String
  /-- The address as it is shown, without user name and password. -/
  address : String
  /-- What the request line asks for: the path and the query. -/
  target : String
  authorization : Option String
  body : Option String

/-- How a request ended. -/
inductive Reply where
  | answer (status : Nat) (body : String)
  | timedOut
  | broken

/-- Why a request gave no usable answer. -/
inductive Failure where
  /-- The address is none that a request can be sent to. -/
  | badAddress (address : Option String)
  | unsent (address : String)
  /-- No answer came in time. -/
  | late (address : String)
  | badBody

def Failure.message : Failure → String
  | badAddress none => "builder error"
  | badAddress (some address) => "builder error for url (" ++ address ++ ")"
  | unsent address | late address => "error sending request for url (" ++ address ++ ")"
  | badBody => "error decoding response body"

/-- A server with state `σ`. -/
abbrev Server (σ : Type) := Request → StateM σ Reply

/-- The answer says that the request was granted. -/
def isSuccess (status : Nat) : Bool :=
  200 ≤ status && status < 300

end MarketQuery.Http
