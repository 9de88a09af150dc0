import MarketQuery.Settings.Basic
import MarketQuery.Text.Blank

/-!
The service that the model is asked at, and the key for it. The environment comes before the
settings: an address of its own with a key of its own, then a key for the address that is set, then
a key for one of the hosted services. A blank variable counts as none.
-/
namespace MarketQuery

inductive EndpointSource where
  | address
  | key
  | atoma
  | openAI
  | openRouter
  | settings
  deriving DecidableEq

/-- The variable that decided, or the word for the settings. -/
def EndpointSource.name : EndpointSource → String
  | address => "LLM_BASE_URL"
  | key => "LLM_API_KEY"
  | atoma => "ATOMA_API_KEY"
  | openAI => "OPENAI_API_KEY"
  | openRouter => "OPENROUTER_API_KEY"
  | settings => "config"

structure Endpoint where
  baseUrl : String
  key : Option String
  source : EndpointSource

/-- A variable that is not blank. -/
def Environment.get? (env : Environment) (name : String) : Option String :=
  (env name).filter fun v => !Text.isBlankText v

namespace Endpoint

/-- The hosted services in the order of their priority. -/
def hosted : List (EndpointSource × String) :=
  [(.atoma, Service.atoma), (.openAI, Service.openAI), (.openRouter, Service.openRouter)]

/-- The first hosted service that there is a key for. -/
def ofHosted? (env : Environment) : Option Endpoint :=
  hosted.findSome? fun service =>
    (env.get? service.1.name).map fun key => ⟨service.2, some key, service.1⟩

def resolve (s : LlmSettings) (env : Environment) : Endpoint :=
  match env.get? EndpointSource.address.name with
  | some baseUrl => ⟨baseUrl, env.get? EndpointSource.key.name, .address⟩
  | none =>
    match env.get? EndpointSource.key.name with
    | some key => ⟨s.baseUrl, some key, .key⟩
    | none => (ofHosted? env).getD ⟨s.baseUrl, none, .settings⟩

def hasKey (e : Endpoint) : Bool :=
  e.key.isSome

/-- A client for the model at this endpoint. -/
def client (e : Endpoint) (s : LlmSettings) : ChatClient where
  base := Http.baseAddress e.baseUrl
  key := e.key
  model := s.model
  temperature := s.temperature
  maxTokens := s.maxTokens
  patience := s.requestTimeout

end Endpoint

end MarketQuery
