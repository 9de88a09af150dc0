import MarketQuery.Proofs.Market.Visit

/-!
A market and its copies in use. They share the clock, the kept answers and the server, so it does
not matter which of them is asked. Nor does it matter that storing an answer drops the expired
ones: a market that hoards them gives the same answers and sends the same requests.
-/
namespace MarketQuery

variable {σ : Type}

inductive Use where
  | ask (copy : Nat) (question : MarketQuestion)
  | wait (duration : Nat)
  | clone (copy : Nat)

/-- A market and its copies, and what they share. -/
structure Clients (σ : Type) where
  copies : List RemoteMarket
  shared : RemoteState σ

abbrev Visiting (σ : Type) :=
  RemoteMarket → MarketQuestion → RemoteState σ → Visit × RemoteState σ

namespace Clients

def start (m : RemoteMarket) (now : Nat) (server : σ) : Clients σ :=
  ⟨[m], ⟨now, [], server⟩⟩

/-- A copy that is not there cannot be asked or copied. -/
def step (visit : Visiting σ) (c : Clients σ) : Use → List Visit × Clients σ
  | .ask copy question =>
    match c.copies[copy]? with
    | none => ([], c)
    | some m =>
      let (v, next) := visit m question c.shared
      ([v], { c with shared := next })
  | .wait duration => ([], { c with shared := { c.shared with now := c.shared.now + duration } })
  | .clone copy => ([], { c with copies := c.copies ++ c.copies[copy]?.toList })

def run (visit : Visiting σ) (c : Clients σ) : List Use → List Visit × Clients σ
  | [] => ([], c)
  | use :: rest =>
    let (visits, next) := c.step visit use
    let (later, last) := next.run visit rest
    (visits ++ later, last)

end Clients

/-- Keeps an answer beside all that were kept before it. -/
def AnswerCache.hoard (c : AnswerCache) (now lifetime : Nat) (name : String) (body : Json) :
    AnswerCache :=
  if lifetime = 0 then c else Keyed.insert name ⟨body, now + lifetime⟩ c

/-- The two find the same from now on. -/
def AnswerCache.AgreeFrom (now : Nat) (c d : AnswerCache) : Prop :=
  ∀ later, now ≤ later → ∀ name, c.find? later name = d.find? later name

namespace RemoteMarket

def received? (m : RemoteMarket) (v : Visit) : Option Json :=
  v.exchanges.findSome? m.bodyOf?

theorem received?_single (m : RemoteMarket) (now : Nat) (q : MarketQuestion) (x : Http.Exchange)
    (answer : Except MarketError MarketAnswer) :
    m.received? ⟨now, q, [x], answer⟩ = m.bodyOf? x := by
  simp [received?]

/-- A visit after which no answer is dropped, however old. -/
def visitHoarding (m : RemoteMarket) (server : Http.Server σ) (question : MarketQuestion)
    (s : RemoteState σ) : Visit × RemoteState σ :=
  let (v, next) := m.visit server question s
  (v, { next with cache := match m.received? v with
    | some body => s.cache.hoard s.now m.lifetime (m.digest question.path) body
    | none => s.cache })

end RemoteMarket

namespace AnswerCache

theorem AgreeFrom.later {now later : Nat} {c d : AnswerCache} (h : AgreeFrom now c d)
    (hle : now ≤ later) : AgreeFrom later c d :=
  fun time htime => h time (Nat.le_trans hle htime)

theorem find?_hoard {c : AnswerCache} {now later : Nat} (hle : now ≤ later) {name : String}
    (hnone : c.find? now name = none) (lifetime : Nat) (body : Json) (other : String) :
    (c.hoard now lifetime name body).find? later other =
      if other = name then (if later < now + lifetime then some body else none)
      else c.find? later other := by
  unfold hoard
  split
  · next hzero =>
    by_cases hother : other = name
    · have hexpired : ¬ later < now + lifetime := by omega
      simp [hother, hexpired, find?_later hle hnone]
    · simp [hother]
  · rw [find?_insert]

/-- Storing an answer with and without pruning. -/
theorem AgreeFrom.store {now : Nat} {c d : AnswerCache} (hsorted : Keyed.Sorted c)
    (h : AgreeFrom now c d) {name : String} (hnone : c.find? now name = none) (lifetime : Nat)
    (body : Json) :
    AgreeFrom now (c.store now lifetime name body) (d.hoard now lifetime name body) := by
  intro later hle other
  have hnone' : d.find? now name = none := by rw [← h now (Nat.le_refl now), hnone]
  rw [find?_store hsorted hle hnone, find?_hoard hle hnone', h later hle]

end AnswerCache

/-- Two worlds with the same clock and server, whose kept answers agree from now on. -/
structure RemoteState.Alike (s t : RemoteState σ) : Prop where
  now : s.now = t.now
  server : s.server = t.server
  sorted : Keyed.Sorted s.cache
  agree : AnswerCache.AgreeFrom s.now s.cache t.cache

namespace RemoteState.Alike

variable {s t : RemoteState σ}

theorem wait (h : s.Alike t) (duration : Nat) :
    RemoteState.Alike { s with now := s.now + duration } { t with now := t.now + duration } where
  now := by rw [h.now]
  server := h.server
  sorted := h.sorted
  agree := h.agree.later (Nat.le_add_right _ _)

/-- Asking with and without pruning. -/
theorem visit (h : s.Alike t) (m : RemoteMarket) (server : Http.Server σ) (q : MarketQuestion) :
    (m.visitHoarding server q t).1 = (m.visit server q s).1 ∧
      (m.visit server q s).2.Alike (m.visitHoarding server q t).2 := by
  obtain ⟨now, c, world⟩ := s
  obtain ⟨now', d, world'⟩ := t
  obtain ⟨hnow, hworld, hsorted, hagree⟩ := h
  simp only at hnow hworld hsorted hagree
  subst hnow hworld
  have hfind : c.find? now (m.digest q.path) = d.find? now (m.digest q.path) :=
    hagree now (Nat.le_refl now) (m.digest q.path)
  obtain ⟨v, next, hway⟩ := m.exists_visits server q ⟨now, c, world⟩
  rw [RemoteMarket.visitHoarding, hway.visit_eq]
  cases hway with
  | recalled hkept =>
    have hother : m.Visits server q ⟨now, d, world⟩ _ _ := .recalled (hfind ▸ hkept)
    rw [hother.visit_eq]
    exact ⟨rfl, rfl, rfl, hsorted, hagree⟩
  | refused hnone haddress =>
    have hother : m.Visits server q ⟨now, d, world⟩ _ _ := .refused (hfind ▸ hnone) haddress
    rw [hother.visit_eq]
    exact ⟨rfl, rfl, rfl, hsorted, hagree⟩
  | @sent url reply world' hnone haddress hserver =>
    have hother : m.Visits server q ⟨now, d, world⟩ _ _ :=
      .sent (hfind ▸ hnone) haddress hserver
    rw [hother.visit_eq]
    refine ⟨rfl, ?_⟩
    simp only [RemoteMarket.kept, RemoteMarket.received?_single]
    cases m.bodyOf? ⟨.get url, reply⟩ with
    | none => exact ⟨rfl, rfl, hsorted, hagree⟩
    | some body =>
      have hstored := AnswerCache.sorted_store hsorted now m.lifetime (m.digest q.path) body
      exact ⟨rfl, rfl, hstored, hagree.store hsorted hnone m.lifetime body⟩

end RemoteState.Alike

theorem Clients.run_hoarding (server : Http.Server σ) (uses : List Use)
    {copies : List RemoteMarket} {s t : RemoteState σ} (h : s.Alike t) :
    (Clients.run (RemoteMarket.visitHoarding · server) ⟨copies, t⟩ uses).1 =
      (Clients.run (RemoteMarket.visit · server) ⟨copies, s⟩ uses).1 := by
  induction uses generalizing copies s t with
  | nil => rfl
  | cons use rest ih =>
    cases use with
    | ask copy question =>
      cases hcopy : copies[copy]? with
      | none =>
        simp only [run, step, hcopy]
        rw [ih h]
      | some m =>
        obtain ⟨hvisit, hnext⟩ := h.visit m server question
        simp only [run, step, hcopy]
        rw [hvisit, ih hnext]
    | wait duration =>
      simp only [run, step]
      rw [ih (h.wait duration)]
    | clone copy =>
      simp only [run, step]
      rw [ih h]

end MarketQuery
