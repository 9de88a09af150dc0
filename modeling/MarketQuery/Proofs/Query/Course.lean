import MarketQuery.Proofs.Query.Execution
import MarketQuery.Query.Agent

/-!
The course of a query. `Asks` says what the one call of the model is, and `Plans` that its reply
holds a plan. `Course` lists the ways in which a query can end, each with its response, its
recorded calls and its life. An agent answers every query by taking one of them, and the response
and the calls are settled by what the model and the tools did.
-/
namespace MarketQuery.Agent

variable {σ : Type} {a : Agent σ} {query : String}

/-- The model is asked once, and this is the call. -/
structure Asks (a : Agent σ) (query : String) (s : σ) (call : LlmCall) (s' : σ) : Prop where
  nonblank : Text.trimmed query ≠ ""
  model : call.model = a.llm.model
  prompt : call.prompt = a.prompt (Text.trimmed query)
  completion : (a.llm.complete call.prompt).run s = (call.outcome, s')

/-- The model is asked, and its reply holds this plan. -/
structure Plans (a : Agent σ) (query : String) (s : σ) (call : LlmCall) (plan : Plan) (s' : σ) :
    Prop where
  asks : a.Asks query s call s'
  reply : ∃ reply, call.outcome = .ok reply ∧ Plan.ofReply reply = .ok plan

def asked : Lifecycle :=
  Lifecycle.start.advance .interpreting

/-- The ways in which a query can end. -/
inductive Course (a : Agent σ) (query : String) (s : σ) : AnsweredQuery → σ → Prop
  | blank (hblank : Text.trimmed query = "") :
      Course a query s ⟨.error emptyQuestion, none, [], Lifecycle.start.advance .failed⟩ s
  | unread {call : LlmCall} {e : QueryError} {s' : σ} (hasks : a.Asks query s call s')
      (hplan : planOf call = .error e) :
      Course a query s ⟨.ofError e, some call, [], asked.advance .failed⟩ s'
  | needsInfo {call : LlmCall} {plan : Plan} {s' : σ} (hplans : a.Plans query s call plan s')
      (hstatus : plan.status = .needsInfo) :
      Course a query s
        ⟨.needsInfo (plan.request.getD ""), some call, [], asked.advance .needsInfo⟩ s'
  | refused {call : LlmCall} {plan : Plan} {s' : σ} (hplans : a.Plans query s call plan s')
      (hstatus : plan.status = .error) :
      Course a query s
        ⟨.error (plan.errorMessage.getD ""), some call, [], asked.advance .failed⟩ s'
  | halted {call : LlmCall} {plan : Plan} {e : QueryError} {calls : List ToolCall} {s₁ s' : σ}
      (hplans : a.Plans query s call plan s₁) (hstatus : plan.status = .success)
      (hhalts : a.registry.Halts a.symbols s₁ plan.actions e calls s') :
      Course a query s
        ⟨.ofError e, some call, calls, (asked.advance .executing).advance .failed⟩ s'
  | answered {call : LlmCall} {plan : Plan} {results : List ActionResult} {s₁ s' : σ}
      (hplans : a.Plans query s call plan s₁) (hstatus : plan.status = .success)
      (hruns : a.registry.Runs a.symbols s₁ plan.actions results s') :
      Course a query s
        ⟨.success plan.reasoning results (Template.render a.symbols plan.answerTemplate results),
          some call, results.map ActionResult.call,
          ((asked.advance .executing).advance .rendering).advance .succeeded⟩ s'

def Succeeds (a : Agent σ) (query : String) (s : σ) (plan : Plan) (results : List ActionResult)
    (s' : σ) : Prop :=
  ∃ call s₁ calls, a.Plans query s call plan s₁ ∧ plan.status = .success ∧
    (a.registry.execute a.symbols plan.actions).run s₁ = (⟨.ok results, calls⟩, s')

def Inquires (a : Agent σ) (query : String) (s : σ) (plan : Plan) : Prop :=
  ∃ call s', a.Plans query s call plan s' ∧ plan.status = .needsInfo

theorem planOf_eq_ok_iff {call : LlmCall} {plan : Plan} :
    planOf call = .ok plan ↔ ∃ reply, call.outcome = .ok reply ∧ Plan.ofReply reply = .ok plan := by
  cases houtcome : call.outcome with
  | error cause => simp [planOf, houtcome]
  | ok reply => cases hplan : Plan.ofReply reply <;> simp [planOf, houtcome, hplan, Except.mapError]

theorem exists_asks (a : Agent σ) (s : σ) (hquery : Text.trimmed query ≠ "") :
    ∃ call s', a.Asks query s call s' := by
  obtain ⟨prompt, hprompt⟩ : ∃ prompt, prompt = a.prompt (Text.trimmed query) := ⟨_, rfl⟩
  rcases hcompletion : (a.llm.complete prompt).run s with ⟨outcome, s'⟩
  exact ⟨⟨a.llm.model, prompt, outcome⟩, s', hquery, rfl, hprompt, hcompletion⟩

theorem Asks.answer {s s' : σ} {call : LlmCall} (h : a.Asks query s call s') :
    (a.answer query).run s = (a.follow call asked).run s' := by
  obtain ⟨model, prompt, outcome⟩ := call
  obtain ⟨hquery, rfl, rfl, hcompletion⟩ := h
  simp only [Agent.answer, if_neg hquery, StateT.run_bind, hcompletion]
  rfl

/-- What the agent does with a plan. -/
theorem Plans.answer {s s' : σ} {call : LlmCall} {plan : Plan}
    (h : a.Plans query s call plan s') :
    (a.answer query).run s =
      match plan.status with
      | .needsInfo =>
        (⟨.needsInfo (plan.request.getD ""), some call, [], asked.advance .needsInfo⟩, s')
      | .error =>
        (⟨.error (plan.errorMessage.getD ""), some call, [], asked.advance .failed⟩, s')
      | .success =>
        let execution := (a.registry.execute a.symbols plan.actions).run s'
        (a.conclude plan call execution.1 (asked.advance .executing), execution.2) := by
  have hplan : planOf call = .ok plan := planOf_eq_ok_iff.mpr h.reply
  rw [h.asks.answer]
  cases hstatus : plan.status <;> simp only [follow, hplan, hstatus] <;> rfl

/-- The agent takes every course that is open to it. -/
theorem Course.answer {s s' : σ} {q : AnsweredQuery} (h : a.Course query s q s') :
    (a.answer query).run s = (q, s') := by
  cases h with
  | blank hblank => simp only [Agent.answer, if_pos hblank]; rfl
  | unread hasks hplan =>
    rw [hasks.answer]
    simp only [follow, hplan]
    rfl
  | needsInfo hplans hstatus => rw [hplans.answer, hstatus]
  | refused hplans hstatus => rw [hplans.answer, hstatus]
  | halted hplans hstatus hhalts =>
    rw [hplans.answer, hstatus]
    simp only [Registry.execute_eq_error_iff.mpr hhalts, conclude]
  | answered hplans hstatus hruns =>
    rw [hplans.answer, hstatus]
    simp only [hruns.execute, conclude]

theorem exists_course (a : Agent σ) (query : String) (s : σ) :
    ∃ q s', a.Course query s q s' := by
  by_cases hquery : Text.trimmed query = ""
  · exact ⟨_, s, .blank hquery⟩
  · obtain ⟨call, s₁, hasks⟩ := exists_asks a s hquery
    cases hplan : planOf call with
    | error e => exact ⟨_, s₁, .unread hasks hplan⟩
    | ok plan =>
      have hplans : a.Plans query s call plan s₁ := ⟨hasks, planOf_eq_ok_iff.mp hplan⟩
      cases hstatus : plan.status with
      | needsInfo => exact ⟨_, s₁, .needsInfo hplans hstatus⟩
      | error => exact ⟨_, s₁, .refused hplans hstatus⟩
      | success =>
        rcases Registry.runs_or_halts a.registry a.symbols s₁ plan.actions with
          ⟨results, s', hruns⟩ | ⟨e, calls, s', hhalts⟩
        · exact ⟨_, s', .answered hplans hstatus hruns⟩
        · exact ⟨_, s', .halted hplans hstatus hhalts⟩

/-- The agent takes no other course. -/
theorem course (a : Agent σ) (query : String) (s : σ) :
    a.Course query s ((a.answer query).run s).1 ((a.answer query).run s).2 := by
  obtain ⟨q, s', h⟩ := exists_course a query s
  rw [h.answer]
  exact h

/-- Unless the query is blank, one call of the model is made and recorded, and without a plan that
succeeds nothing else is done. -/
theorem Course.asks {s s' : σ} {q : AnsweredQuery} (h : a.Course query s q s')
    (hquery : Text.trimmed query ≠ "") :
    ∃ call s₁, a.Asks query s call s₁ ∧ q.llmCall = some call ∧
      ((∃ plan, a.Plans query s call plan s₁ ∧ plan.status = .success) ∨
        q.toolCalls = [] ∧ s' = s₁) := by
  cases h with
  | blank hblank => exact absurd hblank hquery
  | unread hasks hplan => exact ⟨_, _, hasks, rfl, .inr ⟨rfl, rfl⟩⟩
  | needsInfo hplans hstatus => exact ⟨_, _, hplans.asks, rfl, .inr ⟨rfl, rfl⟩⟩
  | refused hplans hstatus => exact ⟨_, _, hplans.asks, rfl, .inr ⟨rfl, rfl⟩⟩
  | halted hplans hstatus hhalts => exact ⟨_, _, hplans.asks, rfl, .inl ⟨_, hplans, hstatus⟩⟩
  | answered hplans hstatus hruns => exact ⟨_, _, hplans.asks, rfl, .inl ⟨_, hplans, hstatus⟩⟩

/-- The tools are called for the actions of a plan that succeeds. -/
theorem Plans.invokes {s s₁ : σ} {call : LlmCall} {plan : Plan}
    (hplans : a.Plans query s call plan s₁) (hstatus : plan.status = .success) :
    a.registry.Invokes a.symbols s₁ plan.actions ((a.answer query).run s).1.toolCalls
      ((a.answer query).run s).2 := by
  rcases Registry.runs_or_halts a.registry a.symbols s₁ plan.actions with
    ⟨results, s', hruns⟩ | ⟨e, calls, s', hhalts⟩
  · rw [(Course.answered hplans hstatus hruns).answer]
    exact .inl ⟨results, hruns, rfl⟩
  · rw [(Course.halted hplans hstatus hhalts).answer]
    exact .inr ⟨e, hhalts⟩

theorem Succeeds.response {s s' : σ} {plan : Plan} {results : List ActionResult}
    (h : a.Succeeds query s plan results s') :
    ((a.answer query).run s).1.response =
      .success plan.reasoning results
        (Template.render a.symbols plan.answerTemplate results) := by
  obtain ⟨call, s₁, calls, hplans, hstatus, hexecute⟩ := h
  have hruns := (Registry.execute_eq_ok_iff.mp hexecute).1
  rw [(Course.answered hplans hstatus hruns).answer]

theorem Inquires.response {s : σ} {plan : Plan} (h : a.Inquires query s plan) :
    ((a.answer query).run s).1.response = .needsInfo (plan.request.getD "") := by
  obtain ⟨call, s', hplans, hstatus⟩ := h
  rw [(Course.needsInfo hplans hstatus).answer]

theorem Course.succeeds {s s' : σ} {q : AnsweredQuery} (h : a.Course query s q s')
    {reasoning finalAnswer : String} {results : List ActionResult}
    (hresponse : q.response = .success reasoning results finalAnswer) :
    ∃ plan, a.Succeeds query s plan results s' ∧ reasoning = plan.reasoning ∧
      finalAnswer = Template.render a.symbols plan.answerTemplate results := by
  cases h with
  | answered hplans hstatus hruns =>
    obtain ⟨rfl, rfl, rfl⟩ := QueryResponse.success.inj hresponse
    exact ⟨_, ⟨_, _, _, hplans, hstatus, hruns.execute⟩, rfl, rfl⟩
  | _ => cases hresponse

theorem Course.inquires {s s' : σ} {q : AnsweredQuery} (h : a.Course query s q s')
    {request : String} (hresponse : q.response = .needsInfo request) :
    ∃ plan, a.Inquires query s plan ∧ request = plan.request.getD "" := by
  cases h with
  | needsInfo hplans hstatus =>
    obtain rfl := QueryResponse.needsInfo.inj hresponse
    exact ⟨_, ⟨_, _, hplans, hstatus⟩, rfl⟩
  | _ => cases hresponse

theorem blank_calls {s : σ} (hblank : Text.trimmed query = "") :
    ((a.answer query).run s).1.calls = [] ∧ ((a.answer query).run s).2 = s := by
  rw [(Course.blank hblank).answer]
  exact ⟨rfl, rfl⟩

/-- Whoever gets neither an answer nor a question back gets an error. -/
theorem response_eq_error_iff {s : σ} :
    (∃ message, ((a.answer query).run s).1.response = .error message) ↔
      (¬∃ plan results s', a.Succeeds query s plan results s') ∧
        ¬∃ plan, a.Inquires query s plan := by
  constructor
  · rintro ⟨message, hresponse⟩
    constructor
    · rintro ⟨plan, results, s', hsucceeds⟩
      cases hsucceeds.response.symm.trans hresponse
    · rintro ⟨plan, hinquires⟩
      cases hinquires.response.symm.trans hresponse
  · rintro ⟨hnosuccess, hnoinquiry⟩
    have hcourse := course a query s
    cases hresponse : ((a.answer query).run s).1.response with
    | success reasoning results finalAnswer =>
      obtain ⟨plan, hsucceeds, -⟩ := hcourse.succeeds hresponse
      exact absurd ⟨plan, results, _, hsucceeds⟩ hnosuccess
    | needsInfo request =>
      obtain ⟨plan, hinquires, -⟩ := hcourse.inquires hresponse
      exact absurd ⟨plan, hinquires⟩ hnoinquiry
    | error message => exact ⟨message, rfl⟩

/-- What a query comes to. A blank one touches nothing. Any other asks the model once, before
everything else, and tools are called only for a plan with status `success`: for its actions in
order, up to and including the first call that fails. The response is an answer exactly if all
actions of such a plan were carried out, a question back exactly if the plan has status
`needsInfo`, and in all other cases an error. -/
theorem answer_outcome (a : Agent σ) (query : String) (s : σ) :
    let q := ((a.answer query).run s).1
    let s' := ((a.answer query).run s).2
    (Text.trimmed query = "" → q.calls = [] ∧ s' = s) ∧
    (Text.trimmed query ≠ "" → ∃ call s₁, a.Asks query s call s₁ ∧
      q.calls = .llm call :: q.toolCalls.map .tool ∧
      (∀ plan, a.Plans query s call plan s₁ → plan.status = .success →
        a.registry.Invokes a.symbols s₁ plan.actions q.toolCalls s') ∧
      ((¬∃ plan, a.Plans query s call plan s₁ ∧ plan.status = .success) →
        q.toolCalls = [] ∧ s' = s₁)) ∧
    (∀ reasoning results finalAnswer, q.response = .success reasoning results finalAnswer ↔
      ∃ plan, a.Succeeds query s plan results s' ∧ reasoning = plan.reasoning ∧
        finalAnswer = Template.render a.symbols plan.answerTemplate results) ∧
    (∀ plan results, a.Succeeds query s plan results s' →
      List.Forall₂ (a.registry.Answers a.symbols) plan.actions results) ∧
    (∀ request, q.response = .needsInfo request ↔
      ∃ plan, a.Inquires query s plan ∧ request = plan.request.getD "") ∧
    ((∃ message, q.response = .error message) ↔
      (¬∃ plan results s₂, a.Succeeds query s plan results s₂) ∧
        ¬∃ plan, a.Inquires query s plan) := by
  intro q s'
  have hcourse : a.Course query s q s' := course a query s
  refine ⟨?_, ?_, ?_, ?_, ?_, ?_⟩
  · exact blank_calls
  · intro hquery
    obtain ⟨call, s₁, hasks, hcall, hquiet⟩ := hcourse.asks hquery
    refine ⟨call, s₁, hasks, ?_, ?_, ?_⟩
    · simp only [AnsweredQuery.calls, hcall]
      rfl
    · intro plan hplans hstatus
      exact hplans.invokes hstatus
    · intro hnone
      exact hquiet.resolve_left hnone
  · intro reasoning results finalAnswer
    constructor
    · exact hcourse.succeeds
    · rintro ⟨plan, hsucceeds, rfl, rfl⟩
      exact hsucceeds.response
  · rintro plan results ⟨call, s₁, calls, -, -, hexecute⟩
    exact (Registry.execute_eq_ok_iff.mp hexecute).1.answers
  · intro request
    constructor
    · exact hcourse.inquires
    · rintro ⟨plan, hinquires, rfl⟩
      exact hinquires.response
  · exact response_eq_error_iff

end MarketQuery.Agent
