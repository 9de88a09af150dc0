import MarketQuery.Proofs.Plan.Statuses
import MarketQuery.Proofs.Query.Course

/-!
Every response that is no answer says something. The message of an error begins with words of its
own, whatever it quotes, and a question back or a refusal is the text of a well-formed plan. Each
course of a query that does not succeed ends with one of the two.
-/
namespace MarketQuery

theorem QueryError.says_message (e : QueryError) : Text.Says e.message := by
  cases e with
  | malformedPlan fault => exact Text.says_append ⟨'C', by decide, by decide⟩ _
  | unknownTool name =>
    exact Text.says_append (Text.says_append ⟨'U', by decide, by decide⟩ _) _
  | unknownSymbol symbol =>
    exact Text.says_append (Text.says_append ⟨'U', by decide, by decide⟩ _) _
  | missingParameter tool parameter =>
    have hbegin : Text.Says "Missing required parameter '" := ⟨'M', by decide, by decide⟩
    exact Text.says_append
      (Text.says_append (Text.says_append (Text.says_append hbegin _) _) _) _
  | invalidParameter tool parameter fault =>
    have hbegin : Text.Says "Invalid value for parameter '" := ⟨'I', by decide, by decide⟩
    exact Text.says_append (Text.says_append
      (Text.says_append (Text.says_append (Text.says_append hbegin _) _) _) _) _
  | toolFailure tool cause =>
    have hbegin : Text.Says "Tool '" := ⟨'T', by decide, by decide⟩
    exact Text.says_append (Text.says_append (Text.says_append hbegin _) _) _
  | llm cause => exact Text.says_append ⟨'L', by decide, by decide⟩ _

namespace Agent

variable {σ : Type} {a : Agent σ} {query : String}

theorem says_emptyQuestion : Text.Says emptyQuestion :=
  ⟨'P', by decide, by decide⟩

theorem Plans.wellFormed {s s' : σ} {call : LlmCall} {plan : Plan}
    (h : a.Plans query s call plan s') : plan.WellFormed := by
  obtain ⟨reply, -, hplan⟩ := h.reply
  obtain ⟨fields, -, hread⟩ := Plan.ofReply_eq_ok_iff.mp hplan
  exact hread.wellFormed

theorem Course.says_text {s s' : σ} {q : AnsweredQuery} (h : a.Course query s q s')
    (hresponse : q.response.isSuccess = false) : Text.Says q.response.text := by
  cases h with
  | blank hblank => exact says_emptyQuestion
  | unread hasks hplan => exact QueryError.says_message _
  | needsInfo hplans hstatus =>
    obtain ⟨request, hrequest, hsays⟩ := hplans.wellFormed.request hstatus
    simpa [QueryResponse.text, hrequest] using hsays
  | refused hplans hstatus =>
    obtain ⟨message, hmessage, hsays⟩ := hplans.wellFormed.errorMessage hstatus
    simpa [QueryResponse.text, hmessage] using hsays
  | halted hplans hstatus hhalts => exact QueryError.says_message _
  | answered hplans hstatus hruns => cases hresponse

/-- The plan that is read from a reply is well-formed. -/
theorem planOf_of_reply {call : LlmCall} {reply : String} (h : call.outcome = .ok reply) :
    (∃ fault, planOf call = .error (.malformedPlan fault)) ∨
      ∃ plan : Plan, planOf call = .ok plan ∧ plan.WellFormed := by
  simp only [planOf, h]
  cases hplan : Plan.ofReply reply with
  | error fault => exact .inl ⟨fault, rfl⟩
  | ok plan =>
    obtain ⟨fields, -, hread⟩ := Plan.ofReply_eq_ok_iff.mp hplan
    exact .inr ⟨plan, rfl, hread.wellFormed⟩

/-- A reply is a malformed plan or a well-formed one: without actions unless it is a success, and
with a text wherever its status calls for one. With any other status it is always read. So a query
that is not answered gets a response that says something. -/
theorem unanswered_text (a : Agent σ) (query : String) (s : σ) :
    (∀ call reply, call.outcome = .ok reply →
      (∃ fault, planOf call = .error (.malformedPlan fault)) ∨
        ∃ plan : Plan, planOf call = .ok plan ∧ plan.WellFormed) ∧
    (∀ call reply fields status, call.outcome = .ok reply → extractObject? reply = some fields →
      Plan.statusOf? fields = some status → status ≠ .success →
        ∃ plan, planOf call = .ok plan ∧ plan.status = status) ∧
    (((a.answer query).run s).1.response.isSuccess = false →
      Text.Says ((a.answer query).run s).1.response.text) := by
  refine ⟨fun call reply => planOf_of_reply, ?_, (course a query s).says_text⟩
  intro call reply fields status houtcome hfields hstatus hne
  obtain ⟨plan, hplan, hread⟩ := Plan.exists_readFrom hstatus hne
  exact ⟨plan, planOf_eq_ok_iff.mpr
    ⟨reply, houtcome, Plan.ofReply_eq_ok_iff.mpr ⟨fields, hfields, hread⟩⟩, hplan⟩

end Agent

end MarketQuery
