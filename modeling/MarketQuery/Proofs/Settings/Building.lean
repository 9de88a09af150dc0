import MarketQuery.Proofs.Outcome
import MarketQuery.Proofs.Settings.Keys
import MarketQuery.Proofs.Url.Names
import MarketQuery.Session

/-!
What an agent that is built can rely on. Building stops at the first fault of the settings, and goes
through exactly if there is none. The address that the model is asked at is chosen after that: the
settings' own and those of the hosted services are known to be addresses, but one that comes from the
environment is used as it stands.
-/
namespace MarketQuery

namespace Settings

open Url (IsAddress)

variable {s : Settings} {fault : SettingsFault}

/-- Settings with nothing wrong. -/
structure Sound (s : Settings) : Prop where
  model_address : IsAddress s.llm.baseUrl
  market_address : IsAddress s.market.baseUrl
  timeout : s.queryTimeout ≠ 0
  model : Text.isBlankText s.llm.model = false

/-- The first thing that is wrong with settings. -/
inductive Faulty (s : Settings) : SettingsFault → Prop
  | modelAddress {cause : UrlError} (h : Url.parse s.llm.baseUrl = .error cause) :
      Faulty s (.badAddress "llm.base_url" s.llm.baseUrl cause)
  | marketAddress {cause : UrlError} (hmodel : IsAddress s.llm.baseUrl)
      (h : Url.parse s.market.baseUrl = .error cause) :
      Faulty s (.badAddress "market_data.base_url" s.market.baseUrl cause)
  | timeout (hmodel : IsAddress s.llm.baseUrl) (hmarket : IsAddress s.market.baseUrl)
      (h : s.queryTimeout = 0) : Faulty s .zeroTimeout
  | model (hmodel : IsAddress s.llm.baseUrl) (hmarket : IsAddress s.market.baseUrl)
      (htimeout : s.queryTimeout ≠ 0) (h : Text.isBlankText s.llm.model = true) :
      Faulty s .blankModel

theorem sound_or_faulty (s : Settings) : s.Sound ∨ ∃ fault, s.Faulty fault := by
  cases hmodel : Url.parse s.llm.baseUrl with
  | error cause => exact .inr ⟨_, .modelAddress hmodel⟩
  | ok modelUrl =>
    cases hmarket : Url.parse s.market.baseUrl with
    | error cause => exact .inr ⟨_, .marketAddress ⟨_, hmodel⟩ hmarket⟩
    | ok marketUrl =>
      by_cases htimeout : s.queryTimeout = 0
      · exact .inr ⟨_, .timeout ⟨_, hmodel⟩ ⟨_, hmarket⟩ htimeout⟩
      · cases hblank : Text.isBlankText s.llm.model with
        | true => exact .inr ⟨_, .model ⟨_, hmodel⟩ ⟨_, hmarket⟩ htimeout hblank⟩
        | false => exact .inl ⟨⟨_, hmodel⟩, ⟨_, hmarket⟩, htimeout, hblank⟩

theorem checkAddress_eq_ok {raw : String} (h : IsAddress raw) (setting : String) :
    checkAddress setting raw = .ok () := by
  obtain ⟨url, hurl⟩ := h
  rw [checkAddress, hurl]

theorem checkAddress_eq_error {raw : String} {cause : UrlError} (h : Url.parse raw = .error cause)
    (setting : String) : checkAddress setting raw = .error (.badAddress setting raw cause) := by
  rw [checkAddress, h]

theorem Sound.validate_eq (h : s.Sound) : s.validate = .ok () := by
  simp [validate, checkAddress_eq_ok h.model_address, checkAddress_eq_ok h.market_address, h.timeout,
    h.model]
  rfl

theorem Faulty.validate_eq (h : s.Faulty fault) : s.validate = .error fault := by
  cases h with
  | modelAddress h =>
    rw [validate, checkAddress_eq_error h]
    rfl
  | marketAddress hmodel h =>
    rw [validate, checkAddress_eq_ok hmodel, checkAddress_eq_error h]
    rfl
  | timeout hmodel hmarket h =>
    rw [validate, checkAddress_eq_ok hmodel, checkAddress_eq_ok hmarket, h]
    rfl
  | model hmodel hmarket htimeout h =>
    simp only [validate, checkAddress_eq_ok hmodel, checkAddress_eq_ok hmarket, htimeout, h]
    rfl

theorem validate_eq_ok_iff : s.validate = .ok () ↔ s.Sound := by
  constructor
  · intro h
    obtain hsound | ⟨fault, hfault⟩ := s.sound_or_faulty
    · exact hsound
    · simp [hfault.validate_eq] at h
  · exact Sound.validate_eq

theorem validate_eq_error_iff : s.validate = .error fault ↔ s.Faulty fault := by
  constructor
  · intro h
    obtain hsound | ⟨fault', hfault⟩ := s.sound_or_faulty
    · simp [hsound.validate_eq] at h
    · obtain rfl := Except.error.inj (hfault.validate_eq.symm.trans h)
      exact hfault
  · exact Faulty.validate_eq

end Settings

namespace Endpoint

/-- The addresses of the hosted services can be read. -/
theorem isAddress_of_mem_hosted {source : EndpointSource} {address : String}
    (h : (source, address) ∈ hosted) : Url.IsAddress address := by
  simp only [hosted, List.mem_cons, Prod.mk.injEq, List.not_mem_nil, or_false] at h
  rcases h with ⟨-, rfl⟩ | ⟨-, rfl⟩ | ⟨-, rfl⟩
  · have hat : Url.AtPlainName Service.atoma "https" "api.atoma.network".toList [] "v1".toList := by
      constructor <;> decide +kernel
    exact hat.isAddress
  · have hat : Url.AtPlainName Service.openAI "https" "api.openai.com".toList [] "v1".toList := by
      constructor <;> decide +kernel
    exact hat.isAddress
  · have hat : Url.AtPlainName Service.openRouter "https" "openrouter.ai".toList []
        "api/v1".toList := by
      constructor <;> decide +kernel
    exact hat.isAddress

theorem mem_hosted_of_ofHosted? {env : Environment} {e : Endpoint} (h : ofHosted? env = some e) :
    ∃ source, (source, e.baseUrl) ∈ hosted := by
  obtain ⟨service, hservice, hkey⟩ := List.exists_of_findSome?_eq_some h
  obtain ⟨key, -, rfl⟩ := Option.map_eq_some_iff.mp hkey
  exact ⟨service.1, hservice⟩

theorem baseUrl_of_address {env : Environment} {address : String}
    (h : env.get? "LLM_BASE_URL" = some address) (s : LlmSettings) :
    (resolve s env).baseUrl = address := by
  simp [resolve, EndpointSource.name, h]

/-- Without an address in the environment, only known addresses can be chosen. -/
theorem isAddress_baseUrl {s : LlmSettings} {env : Environment}
    (hnone : env.get? "LLM_BASE_URL" = none) (h : Url.IsAddress s.baseUrl) :
    Url.IsAddress (resolve s env).baseUrl := by
  by_cases hown : (env.get? "LLM_API_KEY").isSome
  · rw [(resolve_of_own hown s).2, hnone]
    exact h
  · rw [resolve_of_neither hnone (Option.not_isSome_iff_eq_none.mp hown)]
    cases hhosted : ofHosted? env with
    | none => exact h
    | some e =>
      obtain ⟨source, hservice⟩ := mem_hosted_of_ofHosted? hhosted
      exact isAddress_of_mem_hosted hservice

theorem isAddress_baseUrl_iff {s : LlmSettings} {env : Environment}
    (h : Url.IsAddress s.baseUrl) :
    Url.IsAddress (resolve s env).baseUrl ↔
      ∀ address, env.get? "LLM_BASE_URL" = some address → Url.IsAddress address := by
  cases haddress : env.get? "LLM_BASE_URL" with
  | none => simpa using isAddress_baseUrl haddress h
  | some address => simp [baseUrl_of_address haddress]

end Endpoint

/-- The settings that hold where nothing is set pass their own check. -/
theorem Settings.sound_default : Settings.Sound {} := by
  have hhosted : (EndpointSource.atoma, Service.atoma) ∈ Endpoint.hosted := List.mem_cons_self
  have hmodel := Endpoint.isAddress_of_mem_hosted hhosted
  have hmarket : Url.AtPlainName "http://127.0.0.1:8787/api" "http" "127.0.0.1".toList
      ":8787".toList "api".toList := by
    constructor <;> decide +kernel
  exact ⟨hmodel, hmarket.isAddress, by decide, by decide +kernel⟩

namespace Session

variable {σ : Type} {s : Session} {env : Environment} {server : Http.Server σ} {now : Int}

/-- The address that the model is asked at, and the rest that an agent needs. -/
structure Usable (s : Session) (env : Environment) : Prop where
  model_address : Url.IsAddress (Endpoint.resolve s.settings.llm env).baseUrl
  market_address : Url.IsAddress s.settings.market.baseUrl
  timeout : s.settings.queryTimeout ≠ 0
  model : Text.isBlankText s.settings.llm.model = false

/-- An agent that is built is of use, and where none can be of use, building says that the settings
are at fault. -/
structure KeepsUsable (s : Session) (env : Environment) (server : Http.Server σ) (now : Int) :
    Prop where
  built : ∀ agent, s.agent env server now = .ok agent → s.Usable env
  refused : ¬s.Usable env → ∃ fault detail, s.agent env server now = .error fault ∧
    fault.message = "Configuration error: " ++ detail

theorem agent_eq_ok_iff {agent : Agent (RemoteState σ)} :
    s.agent env server now = .ok agent ↔ s.settings.Sound ∧
      s.agentWith (s.llm env server) (s.provider server now) = agent := by
  rw [Session.agent, Outcome.bind_eq_ok_iff]
  constructor
  · rintro ⟨⟨⟩, hvalidate, hagent⟩
    exact ⟨Settings.validate_eq_ok_iff.mp hvalidate, Except.ok.inj hagent⟩
  · rintro ⟨hsound, rfl⟩
    exact ⟨(), hsound.validate_eq, rfl⟩

theorem agent_eq_error_iff {fault : SettingsFault} :
    s.agent env server now = .error fault ↔ s.settings.Faulty fault := by
  rw [← Settings.validate_eq_error_iff, Session.agent]
  cases hvalidate : s.settings.validate with
  | ok _ => simp [bind, Except.bind]
  | error cause => simp [bind, Except.bind]

theorem usable_iff (h : s.settings.Sound) :
    s.Usable env ↔
      ∀ address, env.get? "LLM_BASE_URL" = some address → Url.IsAddress address := by
  rw [← Endpoint.isAddress_baseUrl_iff h.model_address]
  constructor
  · exact fun husable => husable.model_address
  · exact fun haddress => ⟨haddress, h.market_address, h.timeout, h.model⟩

theorem keepsUsable_iff :
    s.KeepsUsable env server now ↔ (s.settings.Sound → s.Usable env) := by
  constructor
  · intro h hsound
    exact h.built _ (agent_eq_ok_iff.mpr ⟨hsound, rfl⟩)
  · intro h
    refine ⟨fun agent hagent => h (agent_eq_ok_iff.mp hagent).1, fun hunusable => ?_⟩
    obtain hsound | ⟨fault, hfault⟩ := s.settings.sound_or_faulty
    · exact absurd (h hsound) hunusable
    · exact ⟨fault, _, agent_eq_error_iff.mpr hfault, rfl⟩

/-- An agent is built exactly from sound settings, and it asks the endpoint that the environment
leads to. Otherwise the first fault of the settings is reported. So an agent that is built is of use
exactly if the address in the environment, where there is one, can be read: nothing has read it
before. -/
theorem agent_usable_iff (s : Session) (env : Environment) (server : Http.Server σ) (now : Int) :
    (∀ agent, s.agent env server now = .ok agent ↔ s.settings.Sound ∧
      s.agentWith (((Endpoint.resolve s.settings.llm env).client s.settings.llm).llm server.remote)
        (s.provider server now) = agent) ∧
    (∀ fault, s.agent env server now = .error fault ↔ s.settings.Faulty fault) ∧
    (s.KeepsUsable env server now ↔ (s.settings.Sound →
      ∀ address, env.get? "LLM_BASE_URL" = some address → Url.IsAddress address)) := by
  refine ⟨fun agent => agent_eq_ok_iff, fun fault => agent_eq_error_iff, ?_⟩
  rw [keepsUsable_iff]
  exact forall_congr' fun hsound => usable_iff hsound

/-- The settings that hold where nothing is set are sound, so an agent is built that asks its model
at a text which is no address. -/
theorem agent_built_without_address :
    ¬(Session.mk {} false).KeepsUsable
      (fun name => if name = "LLM_BASE_URL" then some "not a url" else none)
      (fun _ => pure .broken : Http.Server Unit) 0 := by
  rw [keepsUsable_iff, usable_iff Settings.sound_default]
  intro h
  obtain ⟨url, hurl⟩ := h Settings.sound_default "not a url" (by decide)
  have hunread : (Url.parse "not a url").isOk = false := by decide +kernel
  simp [hurl, Except.isOk, Except.toBool] at hunread

end Session

end MarketQuery
