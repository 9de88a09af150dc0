import Mathlib.Data.List.Forall2
import MarketQuery.Proofs.Outcome
import MarketQuery.Query.Execution

/-!
Carrying out actions, in a world that every call of a tool may change. `Runs` says that all actions
are accepted and all their calls succeed, each in the world that the call before it left, and
`Halts` that this holds of the actions before one and that this one fails. Every execution does one
of the two, and its results, its error and its recorded calls are those of the two relations.
-/
namespace MarketQuery

def ActionResult.call (r : ActionResult) : ToolCall :=
  ⟨r.tool, r.input, .ok r.output⟩

namespace Registry

variable {σ : Type} {r : Registry σ} {t : SymbolTable}

/-- All actions are carried out, from the world `s` to the world `s'`. -/
inductive Runs (r : Registry σ) (t : SymbolTable) : σ → List Action → List ActionResult → σ → Prop
  | nil (s : σ) : Runs r t s [] [] s
  | cons {s s₁ s' : σ} {action : Action} {rest : List Action} {results : List ActionResult}
      {tool : Tool σ} {args : Arguments} {output : Json}
      (hprepare : r.prepare t action = .ok (tool, args))
      (hinvoke : (tool.invoke args).run.run s = (.ok output, s₁))
      (hrest : Runs r t s₁ rest results s') :
      Runs r t s (action :: rest)
        (⟨action.tool, args.json, output, tool.definition.output⟩ :: results) s'

inductive Fails (r : Registry σ) (t : SymbolTable) (s : σ) (action : Action) :
    QueryError → List ToolCall → σ → Prop
  | refused {e : QueryError} (hprepare : r.prepare t action = .error e) :
      Fails r t s action e [] s
  | failed {tool : Tool σ} {args : Arguments} {cause : ToolError} {s' : σ}
      (hprepare : r.prepare t action = .ok (tool, args))
      (hinvoke : (tool.invoke args).run.run s = (.error cause, s')) :
      Fails r t s action (.toolFailure action.tool cause)
        [⟨action.tool, args.json, .error cause⟩] s'

/-- The actions before one are carried out and that one fails, whatever comes behind it. -/
def Halts (r : Registry σ) (t : SymbolTable) (s : σ) (actions : List Action) (e : QueryError)
    (calls : List ToolCall) (s' : σ) : Prop :=
  ∃ before action after results last s₁,
    actions = before ++ action :: after ∧ r.Runs t s before results s₁ ∧
      r.Fails t s₁ action e last s' ∧ calls = results.map ActionResult.call ++ last

/-- These are the calls for the actions in order, up to and including the first that fails. -/
def Invokes (r : Registry σ) (t : SymbolTable) (s : σ) (actions : List Action)
    (calls : List ToolCall) (s' : σ) : Prop :=
  (∃ results, r.Runs t s actions results s' ∧ calls = results.map ActionResult.call) ∨
    ∃ e, r.Halts t s actions e calls s'

/-- A result is the output of its action's tool for the arguments of the action, in some world. -/
def Answers (r : Registry σ) (t : SymbolTable) (action : Action) (result : ActionResult) : Prop :=
  ∃ tool args s s',
    r.prepare t action = .ok (tool, args) ∧
      (tool.invoke args).run.run s = (.ok result.output, s') ∧
      tool.definition.name = action.tool ∧ result.tool = action.tool ∧
      result.input = args.json ∧ result.shape = tool.definition.output

theorem name_of_find {name : String} {tool : Tool σ} (h : r.find? name = some tool) :
    tool.definition.name = name :=
  (find?_eq_some_iff.mp h).2

theorem prepare_eq_ok {action : Action} {tool : Tool σ} {args : Arguments}
    (h : r.prepare t action = .ok (tool, args)) :
    r.find? action.tool = some tool ∧ tool.definition.arguments t action.input = .ok args := by
  cases hfind : r.find? action.tool with
  | none => simp [prepare, lookup, hfind] at h
  | some found =>
    simp only [prepare, lookup, hfind] at h
    obtain ⟨args', hargs, heq⟩ := Outcome.map_eq_ok_iff.mp h
    simp only [Prod.mk.injEq] at heq
    obtain ⟨rfl, rfl⟩ := heq
    exact ⟨rfl, hargs⟩

theorem name_of_prepare {action : Action} {tool : Tool σ} {args : Arguments}
    (h : r.prepare t action = .ok (tool, args)) : tool.definition.name = action.tool :=
  name_of_find (prepare_eq_ok h).1

/-- There is one result for every action, in order. -/
theorem Runs.answers {actions : List Action} {results : List ActionResult} {s s' : σ}
    (h : r.Runs t s actions results s') : List.Forall₂ (r.Answers t) actions results := by
  induction h with
  | nil s => exact .nil
  | cons hprepare hinvoke hrest ih =>
    refine .cons ?_ ih
    exact ⟨_, _, _, _, hprepare, hinvoke, name_of_prepare hprepare, rfl, rfl, rfl⟩

/-- The rest goes on in the world that the first call left. -/
theorem execute_cons {action : Action} {rest : List Action} {tool : Tool σ} {args : Arguments}
    {output : Json} {s s₁ : σ} (hprepare : r.prepare t action = .ok (tool, args))
    (hinvoke : (tool.invoke args).run.run s = (.ok output, s₁)) :
    (r.execute t (action :: rest)).run s =
      let later := (r.execute t rest).run s₁
      let result : ActionResult := ⟨action.tool, args.json, output, tool.definition.output⟩
      (⟨later.1.outcome.map (result :: ·), result.call :: later.1.calls⟩, later.2) := by
  rw [← name_of_prepare hprepare]
  simp only [execute, hprepare, StateT.run_bind, hinvoke]
  rfl

theorem execute_fails {action : Action} {e : QueryError} {last : List ToolCall} {s s' : σ}
    (h : r.Fails t s action e last s') (after : List Action) :
    (r.execute t (action :: after)).run s = (⟨.error e, last⟩, s') := by
  cases h with
  | refused hprepare => simp only [execute, hprepare]; rfl
  | failed hprepare hinvoke =>
    rw [← name_of_prepare hprepare]
    simp only [execute, hprepare, StateT.run_bind, hinvoke]
    rfl

theorem Runs.execute {actions : List Action} {results : List ActionResult} {s s' : σ}
    (h : r.Runs t s actions results s') :
    (r.execute t actions).run s = (⟨.ok results, results.map ActionResult.call⟩, s') := by
  induction h with
  | nil s => rfl
  | cons hprepare hinvoke hrest ih =>
    rw [execute_cons hprepare hinvoke, ih]
    rfl

/-- What fails behind actions that are carried out ends the work, whatever comes after it. -/
theorem Runs.execute_fails {before : List Action} {action : Action} {results : List ActionResult}
    {e : QueryError} {last : List ToolCall} {s s₁ s' : σ} (h : r.Runs t s before results s₁)
    (hfails : r.Fails t s₁ action e last s') (after : List Action) :
    (r.execute t (before ++ action :: after)).run s =
      (⟨.error e, results.map ActionResult.call ++ last⟩, s') := by
  induction h with
  | nil s => exact Registry.execute_fails hfails after
  | cons hprepare hinvoke hrest ih =>
    rw [List.cons_append, execute_cons hprepare hinvoke, ih hfails]
    rfl

theorem Fails.halts {action : Action} {e : QueryError} {last : List ToolCall} {s s' : σ}
    (h : r.Fails t s action e last s') (after : List Action) :
    r.Halts t s (action :: after) e last s' :=
  ⟨[], action, after, [], last, s, rfl, .nil s, h, rfl⟩

theorem Halts.cons {action : Action} {rest : List Action} {tool : Tool σ} {args : Arguments}
    {output : Json} {e : QueryError} {calls : List ToolCall} {s s₁ s' : σ}
    (hprepare : r.prepare t action = .ok (tool, args))
    (hinvoke : (tool.invoke args).run.run s = (.ok output, s₁))
    (hrest : r.Halts t s₁ rest e calls s') :
    r.Halts t s (action :: rest) e (⟨action.tool, args.json, .ok output⟩ :: calls) s' := by
  obtain ⟨before, failing, after, results, last, s₂, rfl, hruns, hfails, rfl⟩ := hrest
  exact ⟨action :: before, failing, after, _, last, s₂, rfl,
    .cons hprepare hinvoke hruns, hfails, rfl⟩

/-- There is no third way. -/
theorem runs_or_halts (r : Registry σ) (t : SymbolTable) (s : σ) (actions : List Action) :
    (∃ results s', r.Runs t s actions results s') ∨
      ∃ e calls s', r.Halts t s actions e calls s' := by
  induction actions generalizing s with
  | nil => exact .inl ⟨[], s, .nil s⟩
  | cons action rest ih =>
    cases hprepare : r.prepare t action with
    | error e => exact .inr ⟨e, [], s, Fails.halts (.refused hprepare) rest⟩
    | ok prepared =>
      obtain ⟨tool, args⟩ := prepared
      rcases hinvoke : (tool.invoke args).run.run s with ⟨outcome, s₁⟩
      cases outcome with
      | error cause => exact .inr ⟨_, _, s₁, Fails.halts (.failed hprepare hinvoke) rest⟩
      | ok output =>
        rcases ih s₁ with ⟨results, s', hrest⟩ | ⟨e, calls, s', hrest⟩
        · exact .inl ⟨_, s', .cons hprepare hinvoke hrest⟩
        · exact .inr ⟨e, _, s', hrest.cons hprepare hinvoke⟩

theorem execute_eq_ok_iff {actions : List Action} {results : List ActionResult}
    {calls : List ToolCall} {s s' : σ} :
    (r.execute t actions).run s = (⟨.ok results, calls⟩, s') ↔
      r.Runs t s actions results s' ∧ calls = results.map ActionResult.call := by
  constructor
  · intro h
    rcases runs_or_halts r t s actions with ⟨found, s₁, hruns⟩ | ⟨e, seen, s₁, hhalts⟩
    · rw [hruns.execute] at h
      obtain ⟨hexecution, rfl⟩ := Prod.mk.inj h
      simp only [Execution.mk.injEq, Except.ok.injEq] at hexecution
      obtain ⟨rfl, rfl⟩ := hexecution
      exact ⟨hruns, rfl⟩
    · obtain ⟨before, action, after, found, last, s₂, rfl, hruns, hfails, rfl⟩ := hhalts
      rw [hruns.execute_fails hfails] at h
      simpa using (Prod.mk.inj h).1
  · rintro ⟨hruns, rfl⟩
    exact hruns.execute

theorem execute_eq_error_iff {actions : List Action} {e : QueryError} {calls : List ToolCall}
    {s s' : σ} :
    (r.execute t actions).run s = (⟨.error e, calls⟩, s') ↔ r.Halts t s actions e calls s' := by
  constructor
  · intro h
    rcases runs_or_halts r t s actions with ⟨found, s₁, hruns⟩ | ⟨cause, seen, s₁, hhalts⟩
    · rw [hruns.execute] at h
      simpa using (Prod.mk.inj h).1
    · obtain ⟨before, action, after, found, last, s₂, rfl, hruns, hfails, rfl⟩ := hhalts
      rw [hruns.execute_fails hfails] at h
      obtain ⟨hexecution, rfl⟩ := Prod.mk.inj h
      simp only [Execution.mk.injEq, Except.error.injEq] at hexecution
      obtain ⟨rfl, rfl⟩ := hexecution
      exact ⟨before, action, after, found, last, s₂, rfl, hruns, hfails, rfl⟩
  · rintro ⟨before, action, after, results, last, s₁, rfl, hruns, hfails, rfl⟩
    exact hruns.execute_fails hfails after

/-- Execution is sequential and all or nothing. It gives results exactly if all actions are accepted
and all calls succeed, each in the world that the one before it left, and then one result for every
action. Otherwise it gives the error of the first action that fails, and nothing that comes after
this action matters. The recorded calls are those of the actions that were carried out, and the
one that failed, unless its action was not accepted. -/
theorem execute_all_or_nothing (r : Registry σ) (t : SymbolTable) (s s' : σ)
    (actions : List Action) (calls : List ToolCall) :
    (∀ results, (r.execute t actions).run s = (⟨.ok results, calls⟩, s') ↔
      r.Runs t s actions results s' ∧ calls = results.map ActionResult.call) ∧
    (∀ results, r.Runs t s actions results s' → List.Forall₂ (r.Answers t) actions results) ∧
    (∀ e, (r.execute t actions).run s = (⟨.error e, calls⟩, s') ↔ r.Halts t s actions e calls s') ∧
    ∀ before action results e last s₁, r.Runs t s before results s₁ →
      r.Fails t s₁ action e last s' → ∀ after, (r.execute t (before ++ action :: after)).run s =
        (⟨.error e, results.map ActionResult.call ++ last⟩, s') := by
  refine ⟨fun results => execute_eq_ok_iff, fun results h => h.answers,
    fun e => execute_eq_error_iff, ?_⟩
  intro before action results e last s₁ hruns hfails after
  exact hruns.execute_fails hfails after

end Registry

end MarketQuery
