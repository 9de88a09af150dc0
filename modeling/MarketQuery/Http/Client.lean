import MarketQuery.Http.Exchange
import MarketQuery.Url.Address

/-!
Sending a request. The address must name a host that speaks the protocol; a user and a password
that can be read are taken out of it. A client without patience gives up on any answer.
-/
namespace MarketQuery.Http

structure Answer where
  status : Nat
  body : String

/-- An address without the slashes at its end, ready for a path. -/
def baseAddress (address : String) : String :=
  String.ofList (address.toList.reverse.dropWhile (· = '/')).reverse

/-- The address that a text names; it must have a host. -/
def address? (text : String) : Except Failure Url :=
  match Url.parse text with
  | .error _ => .error (.badAddress none)
  | .ok url =>
    if url.hostText = "" then .error (.badAddress (some url.text)) else .ok url.withoutCredentials

/-- Characters that a header line may carry. -/
def isHeaderChar (c : Char) : Bool :=
  c == '\t' || (0x20 ≤ c.toNat && c.toNat ≠ 0x7F)

/-- A status ends an exchange if it has three digits and does not only announce another one. The
switch to another protocol ends it too. -/
def isFinal (status : Nat) : Bool :=
  status == 101 || (200 ≤ status && status < 1000)

/-- Answers that have no body, whatever the server sends after them. -/
def hasNoBody (status : Nat) : Bool :=
  status == 101 || status == 204 || status == 304

/-- What a reply means to a client that waits so many seconds. -/
def outcome (patience : Nat) (address : String) : Reply → Except Failure Answer
  | .broken => .error (.unsent address)
  | .timedOut => .error (.late address)
  | .answer status body =>
    if patience = 0 then .error (.late address)
    else if !isFinal status then .error (.unsent address)
    else .ok ⟨status, if hasNoBody status then "" else body⟩

/-- Sends a request and waits for the answer. -/
def send {σ : Type} (server : Server σ) (patience : Nat) (method address : String)
    (authorization body : Option String) : StateM σ (Except Failure Answer) :=
  match address? address with
  | .error failure => pure (.error failure)
  | .ok url =>
    if authorization.any fun value => !value.toList.all isHeaderChar then
      pure (.error (.badAddress none))
    else if !url.isFetchable then pure (.error (.badAddress (some url.text)))
    else do
      let reply ← server ⟨method, url.text, url.target, authorization, body⟩
      pure (outcome patience url.text reply)

end MarketQuery.Http
