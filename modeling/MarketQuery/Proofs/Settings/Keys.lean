import Mathlib.Data.List.Find
import Mathlib.Data.Option.Basic
import MarketQuery.Settings.Endpoint

/-!
Which key goes to which address. Where the key of an endpoint comes from depends only on which of the
variables are not blank, and not on their values. So the key can be followed through any change of
the variable that it is taken from, and the address beside it is the one that this variable belongs
to.
-/
namespace MarketQuery

namespace Environment

def set (env : Environment) (name value : String) : Environment :=
  Function.update env name (some value)

theorem get?_set_self (env : Environment) (name : String) {value : String}
    (h : Text.isBlankText value = false) : (env.set name value).get? name = some value := by
  simp [get?, set, h]

theorem get?_set_of_ne (env : Environment) {name other : String} (value : String)
    (h : other ≠ name) : (env.set name value).get? other = env.get? other := by
  simp [get?, set, h]

theorem get?_eq_some_iff {env : Environment} {name value : String} :
    env.get? name = some value ↔ env name = some value ∧ Text.isBlankText value = false := by
  simp [get?, Option.filter_eq_some_iff]

end Environment

namespace Endpoint

/-- The key of the endpoint is taken from a variable: the variable is not blank, and whatever else it
may hold that is not blank, this is then the key. -/
def TakesKey (s : LlmSettings) (env : Environment) (name : String) : Prop :=
  (env.get? name).isSome ∧
    ∀ k, Text.isBlankText k = false → (resolve s (env.set name k)).key = some k

inductive BelongsTo (s : LlmSettings) (env : Environment) : String → String → Prop
  | own : BelongsTo s env "LLM_API_KEY" ((env.get? "LLM_BASE_URL").getD s.baseUrl)
  | atoma : BelongsTo s env "ATOMA_API_KEY" Service.atoma
  | openAI : BelongsTo s env "OPENAI_API_KEY" Service.openAI
  | openRouter : BelongsTo s env "OPENROUTER_API_KEY" Service.openRouter

def keyVariable? (env : Environment) : Option String :=
  if (env.get? "LLM_API_KEY").isSome then some "LLM_API_KEY"
  else if (env.get? "LLM_BASE_URL").isSome then none
  else ["ATOMA_API_KEY", "OPENAI_API_KEY", "OPENROUTER_API_KEY"].find? fun name =>
    (env.get? name).isSome

theorem isSome_of_keyVariable? {env : Environment} {name : String}
    (h : keyVariable? env = some name) : (env.get? name).isSome := by
  unfold keyVariable? at h
  split at h
  · next hown =>
    obtain rfl := Option.some.inj h
    exact hown
  · split at h
    · simp at h
    · simpa using List.find?_some h

/-- The values do not matter, only which variables are not blank. -/
theorem keyVariable?_congr {env env' : Environment}
    (h : ∀ name, (env.get? name).isSome = (env'.get? name).isSome) :
    keyVariable? env = keyVariable? env' := by
  simp only [keyVariable?, h]

theorem keyVariable?_set {env : Environment} {name value : String} (h : (env.get? name).isSome)
    (hvalue : Text.isBlankText value = false) :
    keyVariable? (env.set name value) = keyVariable? env := by
  apply keyVariable?_congr
  intro other
  by_cases hother : other = name
  · subst hother
    rw [env.get?_set_self other hvalue, h]
    rfl
  · rw [env.get?_set_of_ne value hother]

/-- Everything that is looked at stands in variables that are not blank. -/
theorem resolve_congr {env env' : Environment} (h : ∀ name, env.get? name = env'.get? name)
    (s : LlmSettings) : resolve s env = resolve s env' := by
  simp only [resolve, ofHosted?, h]

theorem resolve_of_own {env : Environment} (h : (env.get? "LLM_API_KEY").isSome)
    (s : LlmSettings) :
    (resolve s env).key = env.get? "LLM_API_KEY" ∧
      (resolve s env).baseUrl = (env.get? "LLM_BASE_URL").getD s.baseUrl := by
  obtain ⟨key, hkey⟩ := Option.isSome_iff_exists.mp h
  cases haddress : env.get? "LLM_BASE_URL" <;>
    simp [resolve, EndpointSource.name, hkey, haddress]

theorem resolve_of_neither {env : Environment} (haddress : env.get? "LLM_BASE_URL" = none)
    (hown : env.get? "LLM_API_KEY" = none) (s : LlmSettings) :
    resolve s env = (ofHosted? env).getD ⟨s.baseUrl, none, .settings⟩ := by
  simp [resolve, EndpointSource.name, haddress, hown]

/-- The first service that there is a key for is the one that is taken. -/
theorem exists_service {env : Environment} {services : List (EndpointSource × String)}
    {name : String}
    (h : (services.map fun service => service.1.name).find? (fun name => (env.get? name).isSome) =
      some name) :
    ∃ service ∈ services, service.1.name = name ∧
      services.findSome? (fun service => (env.get? service.1.name).map fun key =>
        (⟨service.2, some key, service.1⟩ : Endpoint)) =
        some ⟨service.2, env.get? name, service.1⟩ := by
  induction services with
  | nil => simp at h
  | cons service rest ih =>
    cases hkey : env.get? service.1.name with
    | some key =>
      obtain rfl : service.1.name = name := by simpa [hkey] using h
      exact ⟨service, List.mem_cons_self, rfl, by simp [hkey]⟩
    | none =>
      obtain ⟨found, hfound, hname, hfirst⟩ := ih (by simpa [hkey] using h)
      exact ⟨found, List.mem_cons_of_mem _ hfound, hname, by simpa [hkey] using hfirst⟩

theorem belongsTo_of_mem_hosted {service : EndpointSource × String} (h : service ∈ hosted)
    (s : LlmSettings) (env : Environment) : BelongsTo s env service.1.name service.2 := by
  simp only [hosted, List.mem_cons, List.not_mem_nil, or_false] at h
  obtain rfl | rfl | rfl := h
  · exact .atoma
  · exact .openAI
  · exact .openRouter

theorem resolve_of_variable {env : Environment} {name : String} (h : keyVariable? env = some name)
    (s : LlmSettings) :
    (resolve s env).key = env.get? name ∧ BelongsTo s env name (resolve s env).baseUrl := by
  unfold keyVariable? at h
  split at h
  · next hown =>
    obtain rfl := Option.some.inj h
    obtain ⟨hkey, hbase⟩ := resolve_of_own hown s
    rw [hbase]
    exact ⟨hkey, .own⟩
  · next hown =>
    split at h
    · simp at h
    · next haddress =>
      simp only [Option.not_isSome_iff_eq_none] at hown haddress
      have hfind : (hosted.map fun service => service.1.name).find?
          (fun name => (env.get? name).isSome) = some name := h
      obtain ⟨service, hservice, rfl, hfirst⟩ := exists_service hfind
      rw [resolve_of_neither haddress hown, ofHosted?, hfirst]
      exact ⟨rfl, belongsTo_of_mem_hosted hservice s env⟩

theorem key_of_no_variable {env : Environment} (h : keyVariable? env = none) (s : LlmSettings) :
    (resolve s env).key = none := by
  unfold keyVariable? at h
  split at h
  · simp at h
  · next hown =>
    simp only [Option.not_isSome_iff_eq_none] at hown
    split at h
    · next haddress =>
      obtain ⟨address, haddress⟩ := Option.isSome_iff_exists.mp haddress
      simp [resolve, EndpointSource.name, haddress, hown]
    · next haddress =>
      simp only [Option.not_isSome_iff_eq_none] at haddress
      have hnone : ofHosted? env = none := by
        simpa [ofHosted?, hosted, EndpointSource.name] using h
      rw [resolve_of_neither haddress hown, hnone]
      rfl

theorem key_resolve (s : LlmSettings) (env : Environment) :
    (resolve s env).key = (keyVariable? env).bind env.get? := by
  cases h : keyVariable? env with
  | none => exact key_of_no_variable h s
  | some name => exact (resolve_of_variable h s).1

/-- Two values that differ show which variable the key comes from. -/
theorem takesKey_iff {s : LlmSettings} {env : Environment} {name : String} :
    TakesKey s env name ↔ keyVariable? env = some name := by
  constructor
  · intro ⟨hsome, htaken⟩
    have hkey {k : String} (hk : Text.isBlankText k = false) :
        (keyVariable? env).bind (env.set name k).get? = some k := by
      rw [← keyVariable?_set hsome hk, ← key_resolve s]
      exact htaken k hk
    have ha := hkey (k := "a") (by decide)
    have hb := hkey (k := "b") (by decide)
    cases hvariable : keyVariable? env with
    | none => simp [hvariable] at ha
    | some other =>
      by_cases hother : other = name
      · rw [hother]
      · rw [hvariable, Option.bind_some, env.get?_set_of_ne _ hother] at ha hb
        simp [ha] at hb
  · intro h
    have hsome := isSome_of_keyVariable? h
    refine ⟨hsome, fun k hk => ?_⟩
    rw [key_resolve, keyVariable?_set hsome hk, h, Option.bind_some, env.get?_set_self name hk]

/-- Every key has one variable that it is taken from. -/
theorem exists_variable {s : LlmSettings} {env : Environment} {k : String}
    (h : (resolve s env).key = some k) :
    Text.isBlankText k = false ∧
      ∃ name, env name = some k ∧ ∀ other, TakesKey s env other ↔ other = name := by
  rw [key_resolve, Option.bind_eq_some_iff] at h
  obtain ⟨name, hvariable, hget⟩ := h
  obtain ⟨hvalue, hblank⟩ := Environment.get?_eq_some_iff.mp hget
  refine ⟨hblank, name, hvalue, fun other => ?_⟩
  rw [takesKey_iff, hvariable, Option.some.injEq, eq_comm]

/-- An address in the environment leaves room for its own key only. -/
theorem resolve_of_address {env env' : Environment} {address : String}
    (haddress : env.get? "LLM_BASE_URL" = some address)
    (haddress' : env'.get? "LLM_BASE_URL" = some address)
    (hkey : env.get? "LLM_API_KEY" = env'.get? "LLM_API_KEY") (s s' : LlmSettings) :
    resolve s env = resolve s' env' := by
  simp [resolve, EndpointSource.name, haddress, haddress', hkey]

def DropsBlanks (env env' : Environment) : Prop :=
  ∀ name, env' name = env name ∨
    env' name = none ∧ ∃ v, env name = some v ∧ Text.isBlankText v = true

theorem DropsBlanks.get?_eq {env env' : Environment} (h : DropsBlanks env env') (name : String) :
    env'.get? name = env.get? name := by
  obtain hsame | ⟨hnone, v, hv, hblank⟩ := h name
  · simp [Environment.get?, hsame]
  · rw [Environment.get?, Environment.get?, hnone, hv, Option.filter_some, hblank]
    rfl

/-- What is kept of the keys in an environment. -/
structure KeepsKeys (s : LlmSettings) (env : Environment) : Prop where
  belongs : ∀ name, TakesKey s env name → BelongsTo s env name (resolve s env).baseUrl
  taken : ∀ k, (resolve s env).key = some k → Text.isBlankText k = false ∧
    ∃ name, env name = some k ∧ ∀ other, TakesKey s env other ↔ other = name
  apart : ∀ s' env' address, Text.isBlankText address = false →
    env "LLM_BASE_URL" = some address → env' "LLM_BASE_URL" = some address →
    env "LLM_API_KEY" = env' "LLM_API_KEY" → resolve s env = resolve s' env'
  blanks : ∀ env', DropsBlanks env env' → resolve s env' = resolve s env

/-- A key goes to the address it belongs to and nowhere else. It is never blank, and it is the value
of exactly one variable. An address in the environment keeps the keys of the hosted services out of
it, and blank variables count as none. -/
theorem keys_kept_to_their_addresses (s : LlmSettings) (env : Environment) : KeepsKeys s env where
  belongs := fun _ h => (resolve_of_variable (takesKey_iff.mp h) s).2
  taken := fun _ h => exists_variable h
  apart := by
    intro s' env' address hblank haddress haddress' hkey
    apply resolve_of_address (Environment.get?_eq_some_iff.mpr ⟨haddress, hblank⟩)
      (Environment.get?_eq_some_iff.mpr ⟨haddress', hblank⟩)
    rw [Environment.get?, Environment.get?, hkey]
  blanks := fun _ h => resolve_congr h.get?_eq s

end Endpoint

end MarketQuery
