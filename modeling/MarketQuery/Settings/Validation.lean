import MarketQuery.Settings.Basic
import MarketQuery.Text.Blank
import MarketQuery.Url.Address

/-!
Settings that could not work are refused before any query is run.
-/
namespace MarketQuery

inductive SettingsFault where
  | badAddress (setting raw : String) (cause : UrlError)
  | zeroTimeout
  | blankModel

def SettingsFault.message (e : SettingsFault) : String :=
  "Configuration error: " ++
    match e with
    | badAddress setting raw cause =>
      setting ++ " '" ++ raw ++ "' is not a valid URL: " ++ cause.message
    | zeroTimeout => "query_timeout_secs must be greater than zero"
    | blankModel => "llm.model must not be empty"

namespace Settings

def checkAddress (setting raw : String) : Except SettingsFault Unit :=
  match Url.parse raw with
  | .ok _ => .ok ()
  | .error cause => .error (.badAddress setting raw cause)

/-- The first thing wrong with the settings, if anything is. -/
def validate (s : Settings) : Except SettingsFault Unit := do
  checkAddress "llm.base_url" s.llm.baseUrl
  checkAddress "market_data.base_url" s.market.baseUrl
  if s.queryTimeout = 0 then throw .zeroTimeout
  if Text.isBlankText s.llm.model then throw .blankModel

end Settings

end MarketQuery
