import MarketQuery.Proofs.Query.Course

/-!
The life of a query as a walk through its states. `Walk` says that every move is a permitted one
and starts where the move before it ended, so none was ignored. A life stays a walk as long as what
it is asked for is permitted, and no course of a query asks for anything else. Each course ends in
the state that its response stands for.
-/
namespace MarketQuery

namespace QueryState

/-- The moves from one state to another, in order, each with the state in which it starts. -/
inductive Walk (first : QueryState) : List (QueryState × QueryState) → QueryState → Prop
  | stay : Walk first [] first
  | move {moves : List (QueryState × QueryState)} {s next : QueryState}
      (hwalk : Walk first moves s) (hpermits : s.permits next = true) :
      Walk first (moves ++ [(s, next)]) next

theorem Walk.permits {first last : QueryState} {moves : List (QueryState × QueryState)}
    (h : Walk first moves last) : ∀ m ∈ moves, m.1.permits m.2 = true := by
  induction h with
  | stay => simp
  | move hwalk hpermits ih =>
    intro m hm
    rcases List.mem_append.mp hm with hold | hnew
    · exact ih m hold
    · obtain rfl := List.mem_singleton.mp hnew
      exact hpermits

end QueryState

namespace Lifecycle

/-- All requests were permitted, and they lead to the state of the life. -/
def Walked (l : Lifecycle) : Prop :=
  QueryState.Walk .received l.requests l.state

theorem walked_start : start.Walked :=
  .stay

theorem state_advance {l : Lifecycle} {next : QueryState} (h : l.state.permits next = true) :
    (l.advance next).state = next :=
  if_pos h

theorem Walked.advance {l : Lifecycle} {next : QueryState} (hwalked : l.Walked)
    (h : l.state.permits next = true) : (l.advance next).Walked := by
  rw [Walked, state_advance h]
  exact .move hwalked h

end Lifecycle

def QueryResponse.state : QueryResponse → QueryState
  | success .. => .succeeded
  | needsInfo _ => .needsInfo
  | error _ => .failed

theorem QueryResponse.isTerminal_state (response : QueryResponse) :
    response.state.isTerminal = true := by
  cases response <;> rfl

namespace Agent

variable {σ : Type} {a : Agent σ} {query : String}

theorem walked_asked : asked.Walked :=
  Lifecycle.walked_start.advance rfl

theorem walked_executing : (asked.advance .executing).Walked :=
  walked_asked.advance rfl

/-- Whichever course a query takes, it asks for permitted moves only. -/
theorem Course.walked {s s' : σ} {q : AnsweredQuery} (h : a.Course query s q s') :
    q.lifecycle.Walked ∧ q.lifecycle.state = q.response.state := by
  cases h with
  | blank hblank => exact ⟨Lifecycle.walked_start.advance rfl, rfl⟩
  | unread hasks hplan => exact ⟨walked_asked.advance rfl, rfl⟩
  | needsInfo hplans hstatus => exact ⟨walked_asked.advance rfl, rfl⟩
  | refused hplans hstatus => exact ⟨walked_asked.advance rfl, rfl⟩
  | halted hplans hstatus hhalts => exact ⟨walked_executing.advance rfl, rfl⟩
  | answered hplans hstatus hruns =>
    have hrendering : ((asked.advance .executing).advance .rendering).Walked :=
      walked_executing.advance rfl
    exact ⟨hrendering.advance rfl, rfl⟩

/-- Every query walks from `received` to the terminal state of its response, and asks for no move
that is not permitted in the state it is in. -/
theorem answer_walks (a : Agent σ) (query : String) (s : σ) :
    let q := ((a.answer query).run s).1
    QueryState.Walk .received q.lifecycle.requests q.lifecycle.state ∧
      (∀ m ∈ q.lifecycle.requests, m.1.permits m.2 = true) ∧
      q.lifecycle.state = q.response.state ∧ q.lifecycle.state.isTerminal = true := by
  intro q
  obtain ⟨hwalked, hstate⟩ := (course a query s).walked
  refine ⟨hwalked, hwalked.permits, hstate, ?_⟩
  rw [hstate]
  exact q.response.isTerminal_state

end Agent

end MarketQuery
