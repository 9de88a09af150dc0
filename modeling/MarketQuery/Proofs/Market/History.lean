import Mathlib.Data.Set.Function
import MarketQuery.Proofs.Market.Clients

/-!
What a remote market does, said by the earlier visits alone. A visit sends a request exactly if no
earlier visit to the same path received a body that is still good, and otherwise it answers with
what the latest such visit received. The kept answers mirror the past: looking one up, now or
later, gives what the past recalls. One visit preserves this, and so does a whole run.
-/
namespace MarketQuery

variable {σ : Type}

namespace RemoteMarket

def Reaches (m : RemoteMarket) (path : String) : Prop :=
  ∃ url, Http.address? (m.base ++ path) = .ok url ∧ url.isFetchable = true

/-- The body that a visit to this path received, if it is still good. -/
def freshBody? (m : RemoteMarket) (now : Nat) (path : String) (v : Visit) : Option Json :=
  if v.question.path = path ∧ now < v.time + m.lifetime then m.received? v else none

/-- What the latest visit with such a body received. -/
def remembered? (m : RemoteMarket) (past : List Visit) (now : Nat) (path : String) : Option Json :=
  past.reverse.findSome? (m.freshBody? now path)

/-- What a visit may be, after the visits of the past. -/
structure Follows (m : RemoteMarket) (past : List Visit) (v : Visit) : Prop where
  at_most_one : v.exchanges.length ≤ 1
  /-- A request is sent if it can be, and no earlier visit received a body that is still good. -/
  sent_iff : v.exchanges ≠ [] ↔ m.Reaches v.question.path ∧
    ∀ u ∈ past, m.freshBody? v.time v.question.path u = none
  /-- Without a lifetime it is always sent. -/
  unkept : m.lifetime = 0 → (v.exchanges ≠ [] ↔ m.Reaches v.question.path)
  /-- Otherwise the answer is what the latest such visit received. -/
  recalled : ∀ before u after body, past = before ++ u :: after →
    m.freshBody? v.time v.question.path u = some body →
    (∀ w ∈ after, m.freshBody? v.time v.question.path w = none) →
    v.answer = v.question.decode (some body)
  answered : ∀ x ∈ v.exchanges, v.answer = m.reading x >>= v.question.decode
  /-- With no address and no such visit, nothing is sent and the visit fails. -/
  refused : ¬ m.Reaches v.question.path →
    (∀ u ∈ past, m.freshBody? v.time v.question.path u = none) →
    ∃ failure, v.answer = .error (.http failure)

/-- What is kept says the same as the past about these paths, now and later. -/
structure Mirrors (m : RemoteMarket) (paths : Set String) (past : List Visit)
    (s : RemoteState σ) : Prop where
  sorted : Keyed.Sorted s.cache
  past_le : ∀ v ∈ past, v.time ≤ s.now
  remembers : ∀ later, s.now ≤ later → ∀ path ∈ paths,
    s.cache.find? later (m.digest path) = m.remembered? past later path

variable {m : RemoteMarket} {server : Http.Server σ} {q : MarketQuestion} {s : RemoteState σ}
  {paths : Set String} {past : List Visit} {v : Visit} {next : RemoteState σ}

theorem reaches_iff {path : String} : m.Reaches path ↔ ∃ url, m.address? path = .ok url := by
  unfold Reaches address?
  cases Http.address? (m.base ++ path) with
  | error failure => simp
  | ok url => by_cases hfetchable : url.isFetchable = true <;> simp [hfetchable]

theorem remembered?_eq_none_iff {now : Nat} {path : String} :
    m.remembered? past now path = none ↔ ∀ u ∈ past, m.freshBody? now path u = none := by
  simp [remembered?]

theorem remembered?_concat (m : RemoteMarket) (past : List Visit) (v : Visit) (now : Nat)
    (path : String) :
    m.remembered? (past ++ [v]) now path =
      (m.freshBody? now path v).or (m.remembered? past now path) := by
  rw [remembered?, remembered?, List.reverse_concat, List.findSome?_cons]
  cases m.freshBody? now path v <;> rfl

theorem remembered?_of_latest {before after : List Visit} {u : Visit} {now : Nat} {path : String}
    {body : Json} (hfresh : m.freshBody? now path u = some body)
    (hafter : ∀ w ∈ after, m.freshBody? now path w = none) :
    m.remembered? (before ++ u :: after) now path = some body := by
  have hskip : after.reverse.findSome? (m.freshBody? now path) = none := by
    simpa using hafter
  rw [remembered?, List.reverse_append, List.reverse_cons, List.append_assoc, List.findSome?_append,
    hskip]
  simp [hfresh]

theorem remembered?_unkept (hzero : m.lifetime = 0) {now : Nat} (hle : ∀ u ∈ past, u.time ≤ now)
    (path : String) : m.remembered? past now path = none := by
  rw [remembered?_eq_none_iff]
  intro u hu
  have hexpired : ¬ now < u.time + m.lifetime := by
    have := hle u hu
    omega
  simp [freshBody?, hexpired]

theorem Mirrors.follows (h : m.Mirrors paths past s) (hpath : q.path ∈ paths)
    (hway : m.Visits server q s v next) : m.Follows past v := by
  have hfind : s.cache.find? s.now (m.digest q.path) = m.remembered? past s.now q.path :=
    h.remembers s.now (Nat.le_refl _) q.path hpath
  cases hway with
  | @recalled body hkept =>
    have hrecall : m.remembered? past s.now q.path = some body := hfind ▸ hkept
    have hsome : ¬ ∀ u ∈ past, m.freshBody? s.now q.path u = none := by
      intro hnone
      simp [remembered?_eq_none_iff.mpr hnone] at hrecall
    constructor
    case at_most_one => simp
    case sent_iff => simp [hsome]
    case unkept =>
      intro hzero
      simp [remembered?_unkept hzero h.past_le] at hrecall
    case recalled =>
      rintro before u after other rfl hfresh hafter
      rw [remembered?_of_latest hfresh hafter] at hrecall
      rw [Option.some.inj hrecall]
    case answered => simp
    case refused => exact fun _ hnone => absurd hnone hsome
  | @refused failure hnone haddress =>
    have hrecall : m.remembered? past s.now q.path = none := hfind ▸ hnone
    have hunreached : ¬ m.Reaches q.path := by
      rw [reaches_iff]
      rintro ⟨url, hurl⟩
      simp [hurl] at haddress
    constructor
    case at_most_one => simp
    case sent_iff => simp [hunreached]
    case unkept => simp [hunreached]
    case recalled =>
      rintro before u after other rfl hfresh hafter
      simp [remembered?_of_latest hfresh hafter] at hrecall
    case answered => simp
    case refused => exact fun _ _ => ⟨failure, rfl⟩
  | @sent url reply world hnone haddress hserver =>
    have hrecall : m.remembered? past s.now q.path = none := hfind ▸ hnone
    have hreached : m.Reaches q.path := reaches_iff.mpr ⟨url, haddress⟩
    constructor
    case at_most_one => simp
    case sent_iff => simpa [hreached] using remembered?_eq_none_iff.mp hrecall
    case unkept => simp [hreached]
    case recalled =>
      rintro before u after other rfl hfresh hafter
      simp [remembered?_of_latest hfresh hafter] at hrecall
    case answered => simp
    case refused => exact fun hunreached => absurd hreached hunreached

/-- The clock stands still during a visit. -/
theorem Visits.now_eq (hway : m.Visits server q s v next) : v.time = s.now ∧ next.now = s.now := by
  cases hway <;> exact ⟨rfl, rfl⟩

/-- A visit that receives no body leaves what is kept as it was. -/
theorem Visits.cache_eq (hway : m.Visits server q s v next) (hnone : m.received? v = none) :
    next.cache = s.cache := by
  cases hway with
  | recalled hkept => rfl
  | refused hnone haddress => rfl
  | sent hnone haddress hserver =>
    rw [received?_single] at hnone
    simp [kept, hnone]

/-- A visit that receives a body stores it. It found none. -/
theorem Visits.cache_store {body : Json} (hway : m.Visits server q s v next)
    (hbody : m.received? v = some body) :
    v.question = q ∧ s.cache.find? s.now (m.digest q.path) = none ∧
      next.cache = s.cache.store s.now m.lifetime (m.digest q.path) body := by
  cases hway with
  | recalled hkept => simp [received?] at hbody
  | refused hnone haddress => simp [received?] at hbody
  | sent hnone haddress hserver =>
    rw [received?_single] at hbody
    exact ⟨rfl, hnone, by simp [kept, hbody]⟩

theorem past_le_concat {now : Nat} (hpast : ∀ u ∈ past, u.time ≤ now) (hv : v.time = now) :
    ∀ u ∈ past ++ [v], u.time ≤ now := by
  intro u hu
  rcases List.mem_append.mp hu with hu | hu
  · exact hpast u hu
  · obtain rfl := List.mem_singleton.mp hu
    exact hv.le

theorem Mirrors.visit (h : m.Mirrors paths past s) (hpath : q.path ∈ paths)
    (hdigest : Set.InjOn m.digest paths) (hway : m.Visits server q s v next) :
    m.Mirrors paths (past ++ [v]) next := by
  obtain ⟨htime, hnow⟩ := hway.now_eq
  have hpast : ∀ u ∈ past ++ [v], u.time ≤ next.now := hnow ▸ past_le_concat h.past_le htime
  cases hreceived : m.received? v with
  | none =>
    have hcache := hway.cache_eq hreceived
    refine ⟨hcache ▸ h.sorted, hpast, ?_⟩
    intro later hle path hmem
    have hfresh : m.freshBody? later path v = none := by simp [freshBody?, hreceived]
    rw [remembered?_concat, hfresh, Option.none_or, hcache]
    exact h.remembers later (hnow ▸ hle) path hmem
  | some body =>
    obtain ⟨rfl, hnone, hcache⟩ := hway.cache_store hreceived
    refine ⟨hcache ▸ AnswerCache.sorted_store h.sorted .., hpast, ?_⟩
    intro later hle path hmem
    rw [hnow] at hle
    rw [remembered?_concat, hcache, AnswerCache.find?_store h.sorted hle hnone, freshBody?, hreceived,
      htime, ← h.remembers later hle path hmem]
    by_cases hsame : path = v.question.path
    · subst hsame
      have hexpired := AnswerCache.find?_later hle hnone
      by_cases hgood : later < s.now + m.lifetime <;> simp [hgood, hexpired]
    · have hother : m.digest path ≠ m.digest v.question.path :=
        fun heq => hsame (hdigest hmem hpath heq)
      simp [hother, Ne.symm hsame]

theorem Mirrors.wait (h : m.Mirrors paths past s) (duration : Nat) :
    m.Mirrors paths past { s with now := s.now + duration } where
  sorted := h.sorted
  past_le v hv := Nat.le_trans (h.past_le v hv) (Nat.le_add_right _ _)
  remembers later hle := h.remembers later (Nat.le_trans (Nat.le_add_right _ _) hle)

theorem mirrors_start (m : RemoteMarket) (paths : Set String) (now : Nat) (world : σ) :
    m.Mirrors paths [] ⟨now, [], world⟩ where
  sorted := .nil
  past_le := by simp
  remembers := by
    intro later _ path _
    rfl

end RemoteMarket

def Use.paths (uses : List Use) : Set String :=
  {path | ∃ copy question, Use.ask copy question ∈ uses ∧ question.path = path}

theorem Clients.run_follows {m : RemoteMarket} (server : Http.Server σ) {paths : Set String}
    (hdigest : Set.InjOn m.digest paths) (uses : List Use) (hpaths : Use.paths uses ⊆ paths)
    {copies : List RemoteMarket} (hcopies : ∀ k ∈ copies, k = m) {past : List Visit}
    {s : RemoteState σ} (h : m.Mirrors paths past s) :
    ∀ before v later,
      (Clients.run (RemoteMarket.visit · server) ⟨copies, s⟩ uses).1 = before ++ v :: later →
        m.Follows (past ++ before) v := by
  induction uses generalizing copies past s with
  | nil => simp [run]
  | cons use rest ih =>
    have hrest : Use.paths rest ⊆ paths := by
      rintro path ⟨copy, question, hmem, hpath⟩
      exact hpaths ⟨copy, question, List.mem_cons_of_mem _ hmem, hpath⟩
    cases use with
    | ask copy question =>
      have hpath : question.path ∈ paths := hpaths ⟨copy, question, List.mem_cons_self, rfl⟩
      cases hcopy : copies[copy]? with
      | none =>
        simp only [run, step, hcopy]
        exact ih hrest hcopies h
      | some k =>
        obtain rfl := hcopies k (List.mem_of_getElem? hcopy)
        obtain ⟨v, next, hway⟩ := k.exists_visits server question s
        simp only [run, step, hcopy]
        rw [hway.visit_eq]
        intro before u later heq
        have hnext := ih hrest hcopies (h.visit hpath hdigest hway)
        cases before with
        | nil =>
          obtain ⟨rfl, -⟩ := List.cons.inj heq
          simpa using h.follows hpath hway
        | cons first before =>
          obtain ⟨rfl, hlater⟩ := List.cons.inj heq
          simpa using hnext before u later hlater
    | wait duration =>
      simp only [run, step]
      exact ih hrest hcopies (h.wait duration)
    | clone copy =>
      have hclones : ∀ k ∈ copies ++ copies[copy]?.toList, k = m := by
        intro k hk
        rcases List.mem_append.mp hk with hk | hk
        · exact hcopies k hk
        · exact hcopies k (List.mem_of_getElem? (Option.mem_toList.mp hk))
      simp only [run, step]
      exact ih hrest hclones h

end MarketQuery
