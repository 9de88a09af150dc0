import Mathlib.Data.Nat.Init
import MarketQuery.Query.Lifecycle

/-!
The life of a query only goes forward. A request is granted or changes nothing, and every permitted
transition leads to a state of higher rank. So whatever is requested, the rank never falls, and as
long as it stays the same the state does so too: what was left stays behind. There are four ranks
above the first one, and so not more than four changes.
-/
namespace MarketQuery

namespace QueryState

def rank : QueryState → Nat
  | received => 0
  | interpreting => 1
  | executing => 2
  | rendering => 3
  | needsInfo | succeeded | failed => 4

theorem rank_le (s : QueryState) : s.rank ≤ 4 := by
  cases s <;> decide

theorem rank_lt_of_permits {s next : QueryState} (h : s.permits next = true) :
    s.rank < next.rank := by
  revert h
  cases s <;> cases next <;> decide

theorem not_permits_of_isTerminal {s : QueryState} (h : s.isTerminal = true)
    (next : QueryState) : s.permits next = false := by
  revert h
  cases s <;> cases next <;> decide

/-- Only failure has several ways to it. -/
theorem eq_of_permits {s s' next : QueryState} (hnext : next ≠ failed)
    (hs : s.permits next = true) (hs' : s'.permits next = true) : s = s' := by
  revert hnext hs hs'
  cases next <;> cases s <;> cases s' <;> decide

theorem advance_cases (s next : QueryState) :
    s.advance next = s ∨ s.permits (s.advance next) = true := by
  unfold advance
  split
  · next hpermits => exact .inr hpermits
  · exact .inl rfl

/-- How often a state is followed by another one, up to the state of number `n`. -/
def changes (state : Nat → QueryState) (n : Nat) : Nat :=
  (List.range n).countP fun i => state (i + 1) ≠ state i

def Moves (state : Nat → QueryState) : Prop :=
  ∀ n, state (n + 1) = state n ∨ (state n).permits (state (n + 1)) = true

/-- The states of a life that never goes back. -/
structure Forward (state : Nat → QueryState) : Prop where
  changes_le : ∀ n, changes state n ≤ 4
  entered_once : ∀ i j, state (i + 1) ≠ state i → state (j + 1) ≠ state j →
    state (i + 1) = state (j + 1) → i = j
  left_for_good : ∀ i j k, i ≤ j → j ≤ k → state j ≠ state i → state k ≠ state i
  terminal : ∀ i j, i ≤ j → (state i).isTerminal = true → state j = state i
  succeeded : ∀ n, state n = .succeeded → ∃ i j k, i < j ∧ j < k ∧ k < n ∧
    state i = .interpreting ∧ state j = .executing ∧ state k = .rendering

theorem changes_succ (state : Nat → QueryState) (n : Nat) :
    changes state (n + 1) = changes state n + if state (n + 1) = state n then 0 else 1 := by
  rw [changes, List.range_succ, List.countP_append]
  by_cases hsame : state (n + 1) = state n <;> simp [changes, hsame]

namespace Moves

variable {state : Nat → QueryState}

/-- Every change raises the rank. -/
theorem changes_le_rank (h : Moves state) (n : Nat) : changes state n ≤ (state n).rank := by
  induction n with
  | zero => exact Nat.zero_le _
  | succ n ih =>
    rw [changes_succ]
    rcases h n with hsame | hpermits
    · rw [if_pos hsame, hsame]
      exact ih
    · have hrank := rank_lt_of_permits hpermits
      split <;> omega

/-- A state lasts, or the states behind it are all of higher rank. -/
theorem eq_or_rank_lt (h : Moves state) {i j : Nat} (hij : i ≤ j) :
    state j = state i ∨ (state i).rank < (state j).rank := by
  induction j, hij using Nat.le_induction with
  | base => exact .inl rfl
  | succ j hij ih =>
    rcases h j with hsame | hpermits
    · rw [hsame]
      exact ih
    · have hrank := rank_lt_of_permits hpermits
      right
      rcases ih with heq | hless
      · rwa [← heq]
      · exact Nat.lt_trans hless hrank

theorem ne_of_left (h : Moves state) {i j k : Nat} (hij : i ≤ j) (hjk : j ≤ k)
    (hleft : state j ≠ state i) : state k ≠ state i := by
  intro hback
  have hup : (state i).rank < (state j).rank := (h.eq_or_rank_lt hij).resolve_left hleft
  rcases h.eq_or_rank_lt hjk with hsame | hmore
  · exact hleft (hsame.symm.trans hback)
  · rw [hback] at hmore
    omega

theorem not_entered_later (h : Moves state) {i j : Nat} (hij : i < j)
    (hentered : state (j + 1) ≠ state j) : state (i + 1) ≠ state (j + 1) := by
  intro hagain
  -- Just before it was entered again it was another state, so it had been left.
  have hleft : state j ≠ state (i + 1) := by
    rw [hagain]
    exact hentered.symm
  exact h.ne_of_left hij (Nat.le_succ j) hleft hagain.symm

theorem eq_of_isTerminal (h : Moves state) {i j : Nat} (hij : i ≤ j)
    (hterminal : (state i).isTerminal = true) : state j = state i := by
  induction j, hij using Nat.le_induction with
  | base => rfl
  | succ j hij ih =>
    rcases h j with hsame | hpermits
    · exact hsame.trans ih
    · rw [ih, not_permits_of_isTerminal hterminal] at hpermits
      contradiction

/-- Whoever is in a state other than the first one came into it by a permitted transition. -/
theorem exists_permits (h : Moves state) (hstart : state 0 = .received) {s : QueryState}
    (hs : s ≠ .received) {n : Nat} (hn : state n = s) :
    ∃ m < n, (state m).permits s = true := by
  induction n with
  | zero => exact absurd (hn.symm.trans hstart) hs
  | succ n ih =>
    rcases h n with hsame | hpermits
    · obtain ⟨m, hm, hpermits⟩ := ih (hsame.symm.trans hn)
      exact ⟨m, Nat.lt_succ_of_lt hm, hpermits⟩
    · rw [hn] at hpermits
      exact ⟨n, Nat.lt_succ_self n, hpermits⟩

theorem passed_of_succeeded (h : Moves state) (hstart : state 0 = .received) {n : Nat}
    (hn : state n = .succeeded) : ∃ i j k, i < j ∧ j < k ∧ k < n ∧
      state i = .interpreting ∧ state j = .executing ∧ state k = .rendering := by
  obtain ⟨k, hkn, hk⟩ := h.exists_permits hstart (by decide) hn
  have hrendering : state k = .rendering := eq_of_permits (by decide) hk rfl
  obtain ⟨j, hjk, hj⟩ := h.exists_permits hstart (by decide) hrendering
  have hexecuting : state j = .executing := eq_of_permits (by decide) hj rfl
  obtain ⟨i, hij, hi⟩ := h.exists_permits hstart (by decide) hexecuting
  have hinterpreting : state i = .interpreting := eq_of_permits (by decide) hi rfl
  exact ⟨i, j, k, hij, hjk, hkn, hinterpreting, hexecuting, hrendering⟩

theorem forward (h : Moves state) (hstart : state 0 = .received) : Forward state where
  changes_le n := Nat.le_trans (h.changes_le_rank n) (state n).rank_le
  entered_once i j hi hj heq := by
    rcases Nat.lt_trichotomy i j with hless | hsame | hmore
    · exact absurd heq (h.not_entered_later hless hj)
    · exact hsame
    · exact absurd heq.symm (h.not_entered_later hmore hi)
  left_for_good i j k hij hjk hleft := h.ne_of_left hij hjk hleft
  terminal i j hij hterminal := h.eq_of_isTerminal hij hterminal
  succeeded n hn := h.passed_of_succeeded hstart hn

end Moves

end QueryState

namespace Lifecycle

/-- A life in which all these transitions were requested, permitted or not. -/
def advanceAll (l : Lifecycle) (requests : List QueryState) : Lifecycle :=
  requests.foldl advance l

def stateAfter (requests : List QueryState) (n : Nat) : QueryState :=
  (start.advanceAll (requests.take n)).state

theorem moves_stateAfter (requests : List QueryState) :
    QueryState.Moves (stateAfter requests) := by
  intro n
  unfold stateAfter advanceAll
  rw [List.take_add_one, List.foldl_append]
  cases requests[n]? with
  | none => exact .inl rfl
  | some next => exact QueryState.advance_cases _ next

/-- Whatever is requested, a query changes its state four times at most, enters no state twice and
none that it has left, stays in a terminal state, and succeeds only after it has interpreted,
executed and rendered in this order. -/
theorem never_goes_back (requests : List QueryState) :
    QueryState.Forward (stateAfter requests) :=
  (moves_stateAfter requests).forward rfl

example : (start.advanceAll [.executing, .interpreting, .received, .executing, .interpreting,
    .rendering, .failed, .succeeded, .failed]).state = .succeeded := by decide

end Lifecycle

end MarketQuery
