import Mathlib.Data.Set.Basic
import MarketQuery.Proofs.Json.Equality
import MarketQuery.Proofs.Market.History
import MarketQuery.Proofs.Outcome

/-!
What a visit that fails leaves behind. If it received no body, everything that is kept stays as it
was, and the same question sends a new request. But a body that was received is kept before its form
is looked at. A visit that fails for the form of the body leaves it there, and until the body has
expired the same question fails again without a request.
-/
namespace MarketQuery

variable {σ : Type}

namespace AnswerCache

def good (c : AnswerCache) (now : Nat) : Set (String × KeptAnswer) :=
  {e | e ∈ c ∧ now < e.2.expiresAt}

variable {c : AnswerCache} {now later : Nat} {name : String} {e : String × KeptAnswer}

theorem name_ne_of_mem_good (hsorted : Keyed.Sorted c) (hnone : c.find? now name = none)
    (hmem : e ∈ c.good now) : e.1 ≠ name := by
  rintro rfl
  have hget : Keyed.get? e.1 c = some e.2 := hsorted.get?_of_mem hmem.1
  have hfind := find?_eq_some_iff.mpr ⟨e.2, hget, hmem.2, rfl⟩
  simp [hnone] at hfind

/-- Storing an answer that was not there adds it and drops nothing that is good. -/
theorem mem_good_store (hsorted : Keyed.Sorted c) (hle : now ≤ later)
    (hnone : c.find? now name = none) (lifetime : Nat) (body : Json) :
    e ∈ (c.store now lifetime name body).good later ↔
      e ∈ c.good later ∨ (e = (name, ⟨body, now + lifetime⟩) ∧ later < now + lifetime) := by
  have hother : e ∈ c.good later → e.1 ≠ name :=
    name_ne_of_mem_good hsorted (find?_later hle hnone)
  unfold store
  split
  · next hzero =>
    have hexpired : ¬ later < now + lifetime := by omega
    simp [hexpired]
  · change e ∈ Keyed.insert name _ (c.prune now) ∧ later < e.2.expiresAt ↔ _
    rw [(sorted_prune hsorted now).mem_insert_iff, prune, List.mem_filter, decide_eq_true_eq]
    constructor
    · rintro ⟨rfl | ⟨-, hmem, -⟩, hgood⟩
      · exact .inr ⟨rfl, hgood⟩
      · exact .inl ⟨hmem, hgood⟩
    · rintro (hmem | ⟨rfl, hgood⟩)
      · exact ⟨.inr ⟨hother hmem, hmem.1, Nat.lt_of_le_of_lt hle hmem.2⟩, hmem.2⟩
      · exact ⟨.inl rfl, hgood⟩

end AnswerCache

namespace RemoteMarket

/-- A state that some uses of a market and its copies lead to. -/
def Reached (m : RemoteMarket) (server : Http.Server σ) (s : RemoteState σ) : Prop :=
  ∃ now world uses,
    ((Clients.start m now world).run (RemoteMarket.visit · server) uses).2.shared = s

/-- What a visit that failed leaves behind. -/
structure LeavesBehind (m : RemoteMarket) (server : Http.Server σ) (q : MarketQuestion)
    (s : RemoteState σ) (v : Visit) (e : MarketError) (next : RemoteState σ) : Prop where
  /-- What is good stays the same exactly if no body was received, or bodies are not kept. -/
  unchanged_iff :
    next.cache.good next.now = s.cache.good s.now ↔ m.received? v = none ∨ m.lifetime = 0
  untouched : m.received? v = none → next.cache = s.cache
  /-- A body that was received has the wrong form. It is good for its lifetime, beside the rest. -/
  spoilt : ∀ body, m.received? v = some body → q.decode (some body) = .error e ∧
    ∀ later entry, s.now ≤ later → (entry ∈ next.cache.good later ↔
      entry ∈ s.cache.good later ∨
        (entry = (m.digest q.path, ⟨body, s.now + m.lifetime⟩) ∧ later < s.now + m.lifetime))
  /-- A question that was sent is sent again, whatever has become of the backend, unless a body was
  received and is still good. Then it fails as before. -/
  repeated : v.exchanges ≠ [] → ∀ duration world,
    let again := (m.visit server q ⟨next.now + duration, next.cache, world⟩).1
    (again.exchanges ≠ [] ↔ ∀ body, m.received? v = some body → m.lifetime ≤ duration) ∧
      (again.exchanges = [] → again.answer = .error e)

variable {m : RemoteMarket} {server : Http.Server σ} {q : MarketQuestion} {s : RemoteState σ}
  {v : Visit} {next : RemoteState σ}

theorem Visits.sorted (hway : m.Visits server q s v next) (h : Keyed.Sorted s.cache) :
    Keyed.Sorted next.cache := by
  cases hbody : m.received? v with
  | none => rwa [hway.cache_eq hbody]
  | some body =>
    rw [(hway.cache_store hbody).2.2]
    exact AnswerCache.sorted_store h ..

end RemoteMarket

theorem Clients.step_sorted (server : Http.Server σ) {c : Clients σ}
    (h : Keyed.Sorted c.shared.cache) (use : Use) :
    Keyed.Sorted (c.step (RemoteMarket.visit · server) use).2.shared.cache := by
  cases use with
  | ask copy question =>
    cases hcopy : c.copies[copy]? with
    | none => simpa [step, hcopy] using h
    | some m =>
      obtain ⟨v, next, hway⟩ := m.exists_visits server question c.shared
      simpa [step, hcopy, hway.visit_eq] using hway.sorted h
  | wait duration => exact h
  | clone copy => exact h

theorem Clients.run_sorted (server : Http.Server σ) (uses : List Use) {c : Clients σ}
    (h : Keyed.Sorted c.shared.cache) :
    Keyed.Sorted (c.run (RemoteMarket.visit · server) uses).2.shared.cache := by
  induction uses generalizing c with
  | nil => exact h
  | cons use rest ih => exact ih (c.step_sorted server h use)

namespace RemoteMarket

variable {m : RemoteMarket} {server : Http.Server σ} {q : MarketQuestion} {s : RemoteState σ}
  {v : Visit} {e : MarketError} {next : RemoteState σ}

theorem Reached.sorted (h : m.Reached server s) : Keyed.Sorted s.cache := by
  obtain ⟨now, world, uses, rfl⟩ := h
  exact Clients.run_sorted server uses .nil

theorem visit_of_kept {body : Json} (h : s.cache.find? s.now (m.digest q.path) = some body) :
    (m.visit server q s).1 = ⟨s.now, q, [], q.decode (some body)⟩ := by
  rw [(Visits.recalled h : m.Visits server q s _ _).visit_eq]

theorem visit_of_not_kept {url : Url} (haddress : m.address? q.path = .ok url)
    (h : s.cache.find? s.now (m.digest q.path) = none) : (m.visit server q s).1.exchanges ≠ [] := by
  rw [(Visits.sent h haddress rfl : m.Visits server q s _ _).visit_eq]
  simp

/-- Nothing was received. -/
theorem LeavesBehind.of_untouched (hcache : next.cache = s.cache) (hnow : next.now = s.now)
    (hnone : m.received? v = none)
    (hsent : v.exchanges ≠ [] → (∃ url, m.address? q.path = .ok url) ∧
      s.cache.find? s.now (m.digest q.path) = none) : m.LeavesBehind server q s v e next where
  unchanged_iff := by simp [hcache, hnow, hnone]
  untouched _ := hcache
  spoilt := by simp [hnone]
  repeated := by
    intro hexchanges duration world again
    obtain ⟨⟨url, haddress⟩, hfind⟩ := hsent hexchanges
    have hagain : again.exchanges ≠ [] := by
      refine visit_of_not_kept haddress ?_
      simp only [hcache, hnow]
      exact AnswerCache.find?_later (Nat.le_add_right _ _) hfind
    simp [hagain, hnone]

/-- A body of the wrong form was received. -/
theorem LeavesBehind.of_body {url : Url} {body : Json} (hsorted : Keyed.Sorted s.cache)
    (haddress : m.address? q.path = .ok url)
    (hfind : s.cache.find? s.now (m.digest q.path) = none)
    (hcache : next.cache = s.cache.store s.now m.lifetime (m.digest q.path) body)
    (hnow : next.now = s.now) (hbody : m.received? v = some body)
    (hanswer : q.decode (some body) = .error e) : m.LeavesBehind server q s v e next where
  unchanged_iff := by
    rw [hcache, hnow]
    constructor
    · intro hsame
      right
      by_contra hpos
      have hnew : (m.digest q.path, ⟨body, s.now + m.lifetime⟩) ∈ s.cache.good s.now := by
        rw [← hsame, AnswerCache.mem_good_store hsorted (Nat.le_refl _) hfind]
        exact .inr ⟨rfl, by omega⟩
      exact AnswerCache.name_ne_of_mem_good hsorted hfind hnew rfl
    · rintro (hnone | hzero)
      · simp [hbody] at hnone
      · simp [AnswerCache.store, hzero]
  untouched hnone := by simp [hbody] at hnone
  spoilt := by
    intro other hother
    obtain rfl := Option.some.inj (hbody.symm.trans hother)
    refine ⟨hanswer, fun later entry hle => ?_⟩
    rw [hcache, AnswerCache.mem_good_store hsorted hle hfind]
  repeated := by
    intro _ duration world again
    have hagain : next.cache.find? (next.now + duration) (m.digest q.path) =
        if next.now + duration < s.now + m.lifetime then some body else none := by
      rw [hcache, AnswerCache.find?_store hsorted (hnow ▸ Nat.le_add_right _ _) hfind, if_pos rfl]
    simp only [hbody, Option.some.injEq, forall_eq']
    by_cases hgood : duration < m.lifetime
    · rw [if_pos (by omega)] at hagain
      have hvisit : again = _ := visit_of_kept hagain
      simp [hvisit, hanswer, hgood]
    · rw [if_neg (by omega)] at hagain
      have hsent : again.exchanges ≠ [] := visit_of_not_kept haddress hagain
      simp [hsent, Nat.not_lt.mp hgood]

theorem Visits.leavesBehind (hway : m.Visits server q s v next) (hsorted : Keyed.Sorted s.cache)
    (hfailed : v.answer = .error e) : m.LeavesBehind server q s v e next := by
  cases hway with
  | recalled hkept => exact .of_untouched rfl rfl rfl (by simp)
  | refused hnone haddress => exact .of_untouched rfl rfl rfl (by simp)
  | @sent url reply world hnone haddress hserver =>
    cases hbody : m.bodyOf? ⟨.get url, reply⟩ with
    | none =>
      refine .of_untouched ?_ rfl ?_ fun _ => ⟨⟨url, haddress⟩, hnone⟩
      · simp [kept, hbody]
      · simp [received?_single, hbody]
    | some body =>
      have hdecode : q.decode (some body) = .error e := by
        rw [reading_eq_ok_some_iff.mpr hbody] at hfailed
        exact hfailed
      have hcache : m.kept s.now s.cache q.path ⟨.get url, reply⟩ =
          s.cache.store s.now m.lifetime (m.digest q.path) body := by simp [kept, hbody]
      have hreceived : m.received? ⟨s.now, q, [⟨.get url, reply⟩],
          m.reading ⟨.get url, reply⟩ >>= q.decode⟩ = some body := by simp [received?_single, hbody]
      exact .of_body hsorted haddress hnone hcache rfl hreceived hdecode

/-- In every state that is reached, a visit that fails leaves what is good as it was, unless it
failed for the form of a body that it received. That body is kept, and until it expires the same
question fails without a request. After every other failure of a request it is sent again. -/
theorem failed_visit_unchanged_iff (hreached : m.Reached server s)
    (hvisit : m.visit server q s = (v, next)) (hfailed : v.answer = .error e) :
    m.LeavesBehind server q s v e next := by
  obtain ⟨v', next', hway⟩ := m.exists_visits server q s
  obtain ⟨rfl, rfl⟩ := Prod.mk.inj (hway.visit_eq.symm.trans hvisit)
  exact hway.leavesBehind hreached.sorted hfailed

/-- What was kept for the first question is still good after a second one was refused. -/
theorem failed_visit_unchanged_iff_refused :
    let m : RemoteMarket := .ofAddress "http://[::1]:8080/" 50 10
    let server : Http.Server Nat :=
      fun _ n => (if n = 0 then .answer 200 "[]" else .answer 500 "down", n + 1)
    let uses : List Use := [.ask 0 .pools, .wait 10, .clone 0]
    let s := ((Clients.start m 0 0).run (RemoteMarket.visit · server) uses).2.shared
    ∃ v next e, m.Reached server s ∧ m.visit server (.pool "p") s = (v, next) ∧
      v.answer = .error e ∧ s.cache.length = 1 ∧ v.exchanges.length = 1 ∧ m.received? v = none ∧
      m.LeavesBehind server (.pool "p") s v e next := by
  intro m server uses s
  have hreached : m.Reached server s := ⟨0, 0, uses, rfl⟩
  have hrefused : (m.visit server (.pool "p") s).1.answer.isOk = false := by decide +kernel
  have hsent : (m.visit server (.pool "p") s).1.exchanges.length = 1 := by decide +kernel
  have hnone : m.received? (m.visit server (.pool "p") s).1 = none := by decide +kernel
  have hkept : s.cache.length = 1 := by decide +kernel
  obtain ⟨v, next, hvisit⟩ : ∃ v next, m.visit server (.pool "p") s = (v, next) := ⟨_, _, rfl⟩
  rw [hvisit] at hrefused hsent hnone
  obtain ⟨e, hfailed⟩ := Outcome.exists_error_of_isOk hrefused
  exact ⟨v, next, e, hreached, hvisit, hfailed, hkept, hsent, hnone,
    failed_visit_unchanged_iff hreached hvisit hfailed⟩

/-- All pools are asked for and a record is received. It is kept though it is no list of pools, and
asking again fails without a request. -/
theorem misshapen_body_kept :
    let m : RemoteMarket := .ofAddress "http://[::1]:8080/" 50 10
    let server : Http.Server Nat := fun _ n => (.answer 200 "{}", n + 1)
    let s : RemoteState Nat := ⟨0, [], 0⟩
    ∃ v next e, m.Reached server s ∧ m.visit server .pools s = (v, next) ∧
      v.answer = .error e ∧ v.exchanges.length = 1 ∧
      next.cache.good next.now ≠ s.cache.good s.now ∧
      (m.visit server .pools next).1.exchanges = [] ∧
      (m.visit server .pools next).1.answer = .error e := by
  intro m server s
  have hreached : m.Reached server s := ⟨0, 0, [], rfl⟩
  have hrefused : (m.visit server .pools s).1.answer.isOk = false := by decide +kernel
  have hsent : (m.visit server .pools s).1.exchanges.length = 1 := by decide +kernel
  have hbody : m.received? (m.visit server .pools s).1 = some (.object []) := by decide +kernel
  obtain ⟨v, next, hway⟩ := m.exists_visits server .pools s
  rw [hway.visit_eq] at hrefused hsent hbody
  obtain ⟨e, hfailed⟩ := Outcome.exists_error_of_isOk hrefused
  have hleaves := hway.leavesBehind .nil hfailed
  have hexchanges : v.exchanges ≠ [] := List.ne_nil_of_length_eq_add_one hsent
  have hagain : (m.visit server .pools next).1.exchanges = [] := by
    by_contra hsome
    have hold := ((hleaves.repeated hexchanges 0 next.server).1.mp hsome) _ hbody
    exact absurd hold (by decide)
  refine ⟨v, next, e, hreached, hway.visit_eq, hfailed, hsent, ?_, hagain,
    (hleaves.repeated hexchanges 0 next.server).2 hagain⟩
  rw [ne_eq, hleaves.unchanged_iff, hbody]
  exact fun h => h.elim (by simp) (by decide)

end RemoteMarket

end MarketQuery
