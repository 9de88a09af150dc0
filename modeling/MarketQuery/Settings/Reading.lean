import MarketQuery.Json.Form
import MarketQuery.Json.Reader
import MarketQuery.Settings.Basic

/-!
Reading settings from a file. Every field may be left out. One variable of the environment, if it
is there, overrides the address of the market backend.
-/
namespace MarketQuery

namespace Document

/-- A number in single precision: an integer is rounded once, any other number through double
precision. -/
def single? (d : Document) : Option Float32 :=
  match d.number? with
  | some (.int i) => some (Float32.ofInt i)
  | some (.float x) => some x.toFloat32
  | none => none

end Document

def LlmSettings.form : Form LlmSettings where
  blank := {}
  fields := [
    { name := "base_url", fill := fun d s => d.string?.map fun v => { s with baseUrl := v } },
    { name := "model", fill := fun d s => d.string?.map fun v => { s with model := v } },
    { name := "temperature"
      fill := fun d s => (d.optional? Document.single?).map fun v => { s with temperature := v } },
    { name := "max_tokens"
      fill := fun d s => (d.optional? (Document.nat? 32)).map fun v => { s with maxTokens := v } },
    { name := "request_timeout_secs"
      fill := fun d s => (d.nat? 64).map fun v => { s with requestTimeout := v } }]

def MarketSettings.form : Form MarketSettings where
  blank := {}
  fields := [
    { name := "base_url", fill := fun d s => d.string?.map fun v => { s with baseUrl := v } },
    { name := "cache_ttl_secs"
      fill := fun d s => (d.nat? 64).map fun v => { s with cacheLifetime := v } },
    { name := "request_timeout_secs"
      fill := fun d s => (d.nat? 64).map fun v => { s with requestTimeout := v } }]

namespace Settings

def form : Form Settings where
  blank := {}
  fields := [
    { name := "llm"
      fill := fun d s => (LlmSettings.form.read? d).map fun v => { s with llm := v } },
    { name := "market_data"
      fill := fun d s => (MarketSettings.form.read? d).map fun v => { s with market := v } },
    { name := "query_timeout_secs"
      fill := fun d s => (d.nat? 64).map fun v => { s with queryTimeout := v } },
    { name := "audit_log_path"
      fill := fun d s =>
        (d.optional? Document.string?).map fun v => { s with auditLogPath := v } },
    { name := "symbols", fill := fun d s => d.texts?.map fun v => { s with symbols := v } }]

/-- The settings that a text gives. -/
def ofText? (text : String) : Option Settings :=
  (Reader.document? text.toList).bind form.read?

def override (s : Settings) (env : Environment) : Settings :=
  match env "MARKET_DATA_URL" with
  | some address => { s with market := { s.market with baseUrl := address } }
  | none => s

/-- Where a settings file comes from. -/
inductive File where
  | none
  | missing
  | text (contents : String)

inductive LoadFault where
  | unreadable
  | malformed

/-- The settings of a file under an environment. -/
def load (file : File) (env : Environment) : Except LoadFault Settings :=
  match file with
  | .none => .ok (({} : Settings).override env)
  | .missing => .error .unreadable
  | .text contents =>
    match ofText? contents with
    | some s => .ok (s.override env)
    | .none => .error .malformed

end Settings

end MarketQuery
