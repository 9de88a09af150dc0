import MarketQuery.Plan.Reading
import MarketQuery.Proofs.Outcome

/-!
What the status of a plan says about its other fields. `ReadFrom` gives every field of a plan by
the members of the object that it is read from, and an object is read as exactly such a plan. So a
plan that is no success has no actions and cannot be refused for them, and where a text is called
for it says something: a text that is found is not blank, and the default texts are not.
-/
namespace MarketQuery

namespace Text

def Says (s : String) : Prop :=
  ∃ c ∈ s.toList, isBlank c = false

theorem says_iff {s : String} : Says s ↔ isBlankText s = false := by
  simp [Says, isBlankText]

theorem says_append {s : String} (h : Says s) (t : String) : Says (s ++ t) := by
  obtain ⟨c, hc, hblank⟩ := h
  exact ⟨c, by simp [hc], hblank⟩

end Text

namespace Plan

open Text (Says)

def statusOf? (fields : Fields) : Option PlanStatus :=
  ((Keyed.get? "status" fields).bind Json.string?).bind PlanStatus.ofText?

/-- The plan that the members of an object describe. -/
structure ReadFrom (plan : Plan) (fields : Fields) : Prop where
  status : statusOf? fields = some plan.status
  actions : (if plan.status = .success then readActions fields else .ok []) = .ok plan.actions
  reasoning : plan.reasoning = (firstText? fields ["reasoning"]).getD ""
  answerTemplate : plan.answerTemplate = (firstText? fields templateKeys).getD ""
  request : plan.request =
    if plan.status = .needsInfo then some ((firstText? fields requestKeys).getD defaultRequest)
    else firstText? fields requestKeys
  errorMessage : plan.errorMessage =
    if plan.status = .error then some ((firstText? fields errorKeys).getD defaultError)
    else firstText? fields errorKeys

theorem ReadFrom.unique {plan other : Plan} {fields : Fields} (h : plan.ReadFrom fields)
    (hother : other.ReadFrom fields) : plan = other := by
  have hstatus : plan.status = other.status := Option.some.inj (h.status.symm.trans hother.status)
  have hactions : plan.actions = other.actions := by
    have hread := h.actions
    rw [hstatus, hother.actions] at hread
    exact (Except.ok.inj hread).symm
  have hrequest : plan.request = other.request := by rw [h.request, hother.request, hstatus]
  have hmessage : plan.errorMessage = other.errorMessage := by
    rw [h.errorMessage, hother.errorMessage, hstatus]
  have hreasoning := h.reasoning.trans hother.reasoning.symm
  have htemplate := h.answerTemplate.trans hother.answerTemplate.symm
  cases plan
  cases other
  simp_all

theorem readFrom_of_ofFields {fields : Fields} {plan : Plan} (h : ofFields fields = .ok plan) :
    plan.ReadFrom fields := by
  unfold ofFields at h
  split at h
  · simp at h
  · next text htext =>
    split at h
    · simp at h
    · next status hstatus =>
      have hnamed : statusOf? fields = some status := by simp [statusOf?, htext, hstatus]
      by_cases hsuccess : status = .success
      · simp only [if_pos hsuccess] at h
        obtain ⟨actions, hactions, hplan⟩ := Outcome.bind_eq_ok_iff.mp h
        obtain rfl := Except.ok.inj hplan
        exact ⟨hnamed, by simpa [hsuccess] using hactions, rfl, rfl, rfl, rfl⟩
      · simp only [if_neg hsuccess] at h
        obtain rfl := Except.ok.inj h
        exact ⟨hnamed, if_neg hsuccess, rfl, rfl, rfl, rfl⟩

/-- Only the status and the actions of a success can keep a plan from being read. -/
theorem exists_ofFields {fields : Fields} {status : PlanStatus} {actions : List Action}
    (hstatus : statusOf? fields = some status)
    (hactions : (if status = .success then readActions fields else .ok []) = .ok actions) :
    ∃ plan, ofFields fields = .ok plan := by
  obtain ⟨text, htext, hofText⟩ := Option.bind_eq_some_iff.mp hstatus
  simp only [ofFields, htext, hofText]
  by_cases hsuccess : status = .success
  · rw [if_pos hsuccess] at hactions ⊢
    exact ⟨_, Outcome.bind_eq_ok_iff.mpr ⟨actions, hactions, rfl⟩⟩
  · rw [if_neg hsuccess]
    exact ⟨_, rfl⟩

theorem ofFields_eq_ok_iff {fields : Fields} {plan : Plan} :
    ofFields fields = .ok plan ↔ plan.ReadFrom fields := by
  constructor
  · exact readFrom_of_ofFields
  · intro h
    obtain ⟨found, hfound⟩ := exists_ofFields h.status h.actions
    rw [hfound, (readFrom_of_ofFields hfound).unique h]

theorem ofReply_eq_ok_iff {reply : String} {plan : Plan} :
    ofReply reply = .ok plan ↔
      ∃ fields, extractObject? reply = some fields ∧ plan.ReadFrom fields := by
  unfold ofReply
  split
  · next hnone => simp [hnone]
  · next fields hfields => simp [hfields, ofFields_eq_ok_iff]

/-- A plan that is no success has no actions, and says what it has to say. -/
structure WellFormed (plan : Plan) : Prop where
  actions : plan.status ≠ .success → plan.actions = []
  request : plan.status = .needsInfo → ∃ text, plan.request = some text ∧ Says text
  errorMessage : plan.status = .error → ∃ text, plan.errorMessage = some text ∧ Says text

theorem says_of_firstText {fields : Fields} {keys : List String} {text : String}
    (h : firstText? fields keys = some text) : Says text := by
  obtain ⟨key, -, hkey⟩ := List.exists_of_findSome?_eq_some h
  obtain ⟨-, hblank⟩ := Option.filter_eq_some_iff.mp hkey
  exact Text.says_iff.mpr (by simpa using hblank)

/-- The text that is found, or the default. -/
theorem says_firstText_getD {default : String} (h : Says default) (fields : Fields)
    (keys : List String) : Says ((firstText? fields keys).getD default) := by
  cases hfound : firstText? fields keys with
  | none => exact h
  | some text => exact says_of_firstText hfound

theorem says_defaultRequest : Says defaultRequest :=
  ⟨'C', by decide, by decide⟩

theorem says_defaultError : Says defaultError :=
  ⟨'I', by decide, by decide⟩

theorem ReadFrom.wellFormed {plan : Plan} {fields : Fields} (h : plan.ReadFrom fields) :
    plan.WellFormed where
  actions hstatus := by
    have hactions := h.actions
    rw [if_neg hstatus] at hactions
    exact (Except.ok.inj hactions).symm
  request hstatus := by
    have hrequest := h.request
    rw [if_pos hstatus] at hrequest
    exact ⟨_, hrequest, says_firstText_getD says_defaultRequest fields requestKeys⟩
  errorMessage hstatus := by
    have hmessage := h.errorMessage
    rw [if_pos hstatus] at hmessage
    exact ⟨_, hmessage, says_firstText_getD says_defaultError fields errorKeys⟩

/-- A status other than `success` is all that a plan needs, whatever stands for its actions. -/
theorem exists_readFrom {fields : Fields} {status : PlanStatus}
    (hstatus : statusOf? fields = some status) (hne : status ≠ .success) :
    ∃ plan : Plan, plan.status = status ∧ plan.ReadFrom fields := by
  obtain ⟨plan, hplan⟩ := exists_ofFields hstatus (if_neg hne)
  have hread := readFrom_of_ofFields hplan
  exact ⟨plan, Option.some.inj (hread.status.symm.trans hstatus), hread⟩

end Plan

end MarketQuery
