import MarketQuery.Audit.Log
import MarketQuery.Market.Demo
import MarketQuery.Market.Remote
import MarketQuery.Settings.Endpoint
import MarketQuery.Settings.Validation
import MarketQuery.Symbol.Coins
import MarketQuery.Tool.Catalog

/-!
A session puts the parts together as the settings say: the symbols, the source of market data, the
tools, the model and the log. An offline session takes its market data from the demo snapshot.
-/
namespace MarketQuery

structure Session where
  settings : Settings
  offline : Bool

namespace Session

variable {σ : Type}

/-- The known symbols with those of the settings. -/
def symbols (s : Session) : SymbolTable :=
  SymbolTable.builtin.insertAll s.settings.symbols

def remoteMarket (s : Session) : RemoteMarket :=
  .ofAddress s.settings.market.baseUrl (1000 * s.settings.market.cacheLifetime)
    s.settings.market.requestTimeout

/-- The source of market data; `now` is when the snapshot was taken. -/
def provider (s : Session) (server : Http.Server σ) (now : Int) : Provider (RemoteState σ) :=
  if s.offline then (Snapshot.demo now).provider (RemoteState σ)
  else s.remoteMarket.provider server

/-- An agent around a given model. -/
def agentWith (s : Session) (llm : Llm (RemoteState σ)) (source : Provider (RemoteState σ)) :
    Agent (RemoteState σ) where
  registry := Registry.standard source
  symbols := s.symbols
  llm := llm

/-- The model that the settings and the environment name. -/
def llm (s : Session) (env : Environment) (server : Http.Server σ) : Llm (RemoteState σ) :=
  ((Endpoint.resolve s.settings.llm env).client s.settings.llm).llm server.remote

/-- An agent as the settings say, if they can work. -/
def agent (s : Session) (env : Environment) (server : Http.Server σ) (now : Int) :
    Except SettingsFault (Agent (RemoteState σ)) := do
  s.settings.validate
  .ok (s.agentWith (s.llm env server) (s.provider server now))

/-- Answers a query within the time that the settings allow. -/
def ask (s : Session) (agent : Agent σ) (query : String) : StateM σ AnsweredQuery :=
  agent.answerWithin (1000 * s.settings.queryTimeout) query

/-- The log entries of a query, if there is a log. -/
def auditEntries (s : Session) (timestamp queryId : String) (answered : AnsweredQuery) :
    List AuditEntry :=
  if s.settings.auditLogPath.isSome then
    answered.calls.map fun call => ⟨timestamp, queryId, call, 0⟩
  else []

end Session

end MarketQuery
