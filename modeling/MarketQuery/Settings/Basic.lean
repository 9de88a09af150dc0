import MarketQuery.Json.Printer
import MarketQuery.Llm.Chat

/-!
The settings of the program, and what holds where nothing is set.
-/
namespace MarketQuery

/-- The values of named variables of the environment. -/
abbrev Environment := String → Option String

namespace Service

def atoma : String := "https://api.atoma.network/v1"
def openAI : String := "https://api.openai.com/v1"
def openRouter : String := "https://openrouter.ai/api/v1"

end Service

structure LlmSettings where
  baseUrl : String := Service.atoma
  model : String := "meta-llama/Llama-3.3-70B-Instruct"
  /-- Without a temperature the choice is the service's. -/
  temperature : Option Float32 := some 0.1
  maxTokens : Option Nat := some 1024
  /-- Seconds. -/
  requestTimeout : Nat := 45

structure MarketSettings where
  baseUrl : String := "http://127.0.0.1:8787/api"
  /-- How long answers are kept, in seconds. -/
  cacheLifetime : Nat := 30
  /-- Seconds. -/
  requestTimeout : Nat := 15

structure Settings where
  llm : LlmSettings := {}
  market : MarketSettings := {}
  /-- The time that a query may take, in seconds. -/
  queryTimeout : Nat := 60
  auditLogPath : Option String := none
  /-- Symbols that are added to the known ones, in symbol order. -/
  symbols : List (String × String) := []

def LlmSettings.document (s : LlmSettings) : Document :=
  .ofMembers [
    ("base_url", .ofString s.baseUrl),
    ("model", .ofString s.model),
    ("temperature", (s.temperature.map ChatClient.singleDocument).getD .null),
    ("max_tokens", (s.maxTokens.map Document.ofNat).getD .null),
    ("request_timeout_secs", .ofNat s.requestTimeout)]

def MarketSettings.document (s : MarketSettings) : Document :=
  .ofMembers [
    ("base_url", .ofString s.baseUrl),
    ("cache_ttl_secs", .ofNat s.cacheLifetime),
    ("request_timeout_secs", .ofNat s.requestTimeout)]

/-- The settings in the form in which they are read. -/
def Settings.document (s : Settings) : Document :=
  .ofMembers [
    ("llm", s.llm.document),
    ("market_data", s.market.document),
    ("query_timeout_secs", .ofNat s.queryTimeout),
    ("audit_log_path", (s.auditLogPath.map Document.ofString).getD .null),
    ("symbols", .ofMembers (s.symbols.map fun e => (e.1, Document.ofString e.2)))]

end MarketQuery
