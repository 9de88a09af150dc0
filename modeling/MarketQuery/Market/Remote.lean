import MarketQuery.Http.Client
import MarketQuery.Json.Reader
import MarketQuery.Market.Cache
import MarketQuery.Market.Question
import MarketQuery.Market.Wire

/-!
A market backend reached over HTTP. Every answer that is granted and holds JSON is kept for a
lifetime, and a question whose answer is kept is not asked again. Whether a kept answer has the
right form is seen anew each time.
-/
namespace MarketQuery

structure RemoteMarket where
  /-- The address of the backend, without slashes at its end. -/
  base : String
  /-- How long an answer is kept, in milliseconds. -/
  lifetime : Nat
  /-- How long an answer is waited for, in seconds. -/
  patience : Nat
  /-- The name under which the answer to a path is kept. -/
  digest : String → String

/-- What a remote market has seen: the time in milliseconds, the kept answers, and the server. -/
structure RemoteState (σ : Type) where
  now : Nat
  cache : AnswerCache
  server : σ

/-- A server that stands beside a clock and a cache. -/
def Http.Server.remote {σ : Type} (server : Http.Server σ) : Http.Server (RemoteState σ) :=
  fun request s =>
    let (reply, next) := (server request).run s.server
    (reply, { s with server := next })

namespace RemoteMarket

variable {σ : Type}

/-- Answers are kept for half a minute unless another lifetime is asked for. -/
def defaultLifetime : Nat := 30000

/-- Each answer is kept under its path itself. -/
def ofAddress (address : String) (lifetime patience : Nat) : RemoteMarket where
  base := Http.baseAddress address
  lifetime := lifetime
  patience := patience
  digest := id

/-- What an answer says: its JSON, or that there is nothing. -/
def read (answer : Http.Answer) : Except MarketError (Option Json) :=
  if answer.status = 404 then .ok none
  else if Http.isSuccess answer.status then
    match Json.parse? answer.body.toList with
    | some v => .ok (some v)
    | none => .error (.decode Http.Failure.badBody.message)
  else .error (.status answer.status answer.body)

/-- Asks the backend, whatever is kept. -/
def request (m : RemoteMarket) (server : Http.Server σ) (path : String) :
    Asking (RemoteState σ) (Option Json) := do
  let sent ← (Http.send server.remote m.patience "GET" (m.base ++ path) none none : StateM _ _)
  match sent with
  | .error failure => throw (.http failure)
  | .ok answer => ExceptT.mk (pure (read answer))

/-- The kept answer to a question, or else the backend's, which is then kept. -/
def fetch (m : RemoteMarket) (server : Http.Server σ) (path : String) :
    Asking (RemoteState σ) (Option Json) := do
  let s ← getThe (RemoteState σ)
  match s.cache.find? s.now (m.digest path) with
  | some body => pure (some body)
  | none =>
    match ← m.request server path with
    | none => pure none
    | some body =>
      modifyThe (RemoteState σ) fun s =>
        { s with cache := s.cache.store s.now m.lifetime (m.digest path) body }
      pure (some body)

def decoded {τ α : Type} (decoder : Decoder α) (v : Json) : Asking τ α :=
  ExceptT.mk (pure ((decoder v).mapError fun fault => .decode fault.message))

/-- An answer that must be there. -/
def fetchRequired {α : Type} (m : RemoteMarket) (server : Http.Server σ)
    (question : MarketQuestion) (what : String) (decoder : Decoder α) :
    Asking (RemoteState σ) α := do
  match ← m.fetch server question.path with
  | some body => decoded decoder body
  | none => throw (.notFound what)

/-- A remote market as a source of market data. -/
def provider (m : RemoteMarket) (server : Http.Server σ) : Provider (RemoteState σ) where
  name := "HttpMarketData"
  tokenPrice id := m.fetchRequired server (.price id) ("price for " ++ id) TokenPrice.layout.decode
  pool id := do
    match ← m.fetch server (.pool id : MarketQuestion).path with
    | some body => some <$> decoded Pool.layout.decode body
    | none => pure none
  allPools := do
    match ← m.fetch server MarketQuestion.pools.path with
    | some body => decoded (.list Pool.layout.decode) body
    | none => pure []
  spotPrice pool coinIn coinOut withFees :=
    m.fetchRequired server (.spotPrice pool coinIn coinOut withFees) ("pool " ++ pool)
      spotPriceLayout.decode

end RemoteMarket

end MarketQuery
