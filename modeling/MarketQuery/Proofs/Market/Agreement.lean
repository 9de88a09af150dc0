import MarketQuery.Market.Snapshot
import MarketQuery.Proofs.Json.Equality
import MarketQuery.Proofs.Market.Encoding
import MarketQuery.Proofs.Market.Routes

/-!
A remote market in front of a backend that says what a snapshot says. Each reply that the backend
may send is read as the answer of the snapshot, an error as the same error. What is recalled was
received for the same question, so it is that answer too, and no lifetime makes a difference.
-/
namespace MarketQuery

variable {σ : Type}

def Use.question? : Use → Option MarketQuestion
  | ask _ question => some question
  | wait _ => none
  | clone _ => none

def Use.questions (uses : List Use) : List MarketQuestion :=
  uses.filterMap Use.question?

namespace Snapshot

def answer (s : Snapshot) : MarketQuestion → Except MarketError MarketAnswer
  | .price asset => (s.tokenPrice asset).map .price
  | .pool id => (s.pool id).map .pool
  | .pools => .ok (.pools s.pools)
  | .spotPrice id coinIn coinOut withFees =>
    (s.spotPrice id coinIn coinOut withFees).map .spotPrice

/-- Everything that the snapshot can answer is proper, the prices that it computes as well. -/
structure IsProper (s : Snapshot) : Prop where
  prices : ∀ entry ∈ s.prices, entry.2.IsProper
  pools : ∀ pool ∈ s.pools, pool.IsProper
  spotPrices : ∀ id coinIn coinOut withFees x,
    s.spotPrice id coinIn coinOut withFees = .ok x → x.isFinite = true

/-- Whether a path can be reached is seen by reading its address. -/
instance (m : RemoteMarket) : DecidablePred m.Reaches := fun path =>
  decidable_of_iff ((m.address? path).isOk = true) <| by
    rw [RemoteMarket.reaches_iff]
    cases m.address? path <;> simp [Except.isOk, Except.toBool]

/-- What a snapshot may answer to a question. -/
inductive Answered (s : Snapshot) : MarketQuestion → Except MarketError MarketAnswer → Prop
  | unavailable {q : MarketQuestion} {id : String} (hid : q.id? = some id)
      (hmem : id ∈ s.unavailable) :
      Answered s q (.error (.status 503 (id ++ " temporarily unavailable")))
  | price {asset : String} {price : TokenPrice} (hget : Keyed.get? asset s.prices = some price) :
      Answered s (.price asset) (.ok (.price price))
  | pool {id : String} : Answered s (.pool id) (.ok (.pool (s.findPool id)))
  | pools : Answered s .pools (.ok (.pools s.pools))
  | spotPrice {id coinIn coinOut : String} {withFees : Bool} {x : Float}
      (hprice : s.spotPrice id coinIn coinOut withFees = .ok x) :
      Answered s (.spotPrice id coinIn coinOut withFees) (.ok (.spotPrice x))
  /-- It says so in the words for which a market takes a missing page. -/
  | unknown {q : MarketQuestion} {what : String} (hnone : q.decode none = .error (.notFound what)) :
      Answered s q (.error (.notFound what))

/-- The replies of a backend that says what the snapshot says. -/
inductive Replies (s : Snapshot) (q : MarketQuestion) : Http.Reply → Prop
  /-- The body of the reply reads as the JSON of the answer. -/
  | granted {known : MarketAnswer} {json : Json} {body : String}
      (hanswer : s.answer q = .ok known) (hjson : known.json? = some json)
      (hbody : Json.parse? body.toList = some json) : Replies s q (.answer 200 body)
  | noPool {body : String} (hanswer : s.answer q = .ok (.pool none)) :
      Replies s q (.answer 404 body)
  | unknown {what body : String} (hanswer : s.answer q = .error (.notFound what)) :
      Replies s q (.answer 404 body)
  | unavailable {id : String} (hid : q.id? = some id) (hmem : id ∈ s.unavailable) :
      Replies s q (.answer 503 (id ++ " temporarily unavailable"))

/-- The backend of a market answers these questions in time, with what the snapshot says. -/
structure ServedBy (s : Snapshot) (m : RemoteMarket) (server : Http.Server σ) (b : Url)
    (questions : List MarketQuestion) : Prop where
  based : Url.Based m.base b
  patient : m.patience ≠ 0
  reaches : ∀ q ∈ questions, m.Reaches q.path
  replies : ∀ q ∈ questions, ∀ request world, request.method = "GET" →
    request.target = b.root ++ q.path → s.Replies q ((server request).run world).1

variable {s : Snapshot} {q : MarketQuestion}

theorem run_map_liftExcept {τ α : Type} (f : α → MarketAnswer) (x : Except MarketError α) (t : τ) :
    (f <$> (provider.liftExcept τ x : Asking τ α)).run.run t = (x.map f, t) := by
  cases x <;> rfl

/-- A snapshot answers without a state. -/
theorem ask_run {τ : Type} (s : Snapshot) (q : MarketQuestion) (t : τ) :
    ((s.provider τ).ask q).run.run t = (s.answer q, t) := by
  cases q with
  | price asset => exact run_map_liftExcept ..
  | pool id => exact run_map_liftExcept ..
  | pools => rfl
  | spotPrice id coinIn coinOut withFees => exact run_map_liftExcept ..

theorem requireAvailable_eq (s : Snapshot) (id : String) :
    s.requireAvailable id =
      if id ∈ s.unavailable then .error (.status 503 (id ++ " temporarily unavailable"))
      else .ok () := by
  simp [requireAvailable]

theorem answer_of_unavailable {id : String} (hid : q.id? = some id) (hmem : id ∈ s.unavailable) :
    s.answer q = .error (.status 503 (id ++ " temporarily unavailable")) := by
  have hrequire : s.requireAvailable id =
      .error (.status 503 (id ++ " temporarily unavailable")) := by
    rw [requireAvailable_eq, if_pos hmem]
  cases q with
  | price asset =>
    obtain rfl := Option.some.inj hid
    rw [answer, tokenPrice, hrequire]
    rfl
  | pool pool =>
    obtain rfl := Option.some.inj hid
    rw [answer, Snapshot.pool, hrequire]
    rfl
  | pools => simp [MarketQuestion.id?] at hid
  | spotPrice pool coinIn coinOut withFees =>
    obtain rfl := Option.some.inj hid
    rw [answer, spotPrice, hrequire]
    rfl

/-- Only a question about a pool is answered by there being none. -/
theorem decode_none_of_noPool (h : s.answer q = .ok (.pool none)) :
    q.decode none = .ok (.pool none) := by
  cases q with
  | price asset => cases hprice : s.tokenPrice asset <;> simp [answer, hprice, Except.map] at h
  | pool id => rfl
  | pools => simp [answer] at h
  | spotPrice id coinIn coinOut withFees =>
    cases hprice : s.spotPrice id coinIn coinOut withFees <;>
      simp [answer, hprice, Except.map] at h

theorem answered (s : Snapshot) (q : MarketQuestion) : s.Answered q (s.answer q) := by
  cases q with
  | price asset =>
    rw [answer, tokenPrice, requireAvailable_eq]
    by_cases hmem : asset ∈ s.unavailable
    · rw [if_pos hmem]
      exact .unavailable rfl hmem
    · rw [if_neg hmem]
      cases hget : Keyed.get? asset s.prices with
      | some price => exact .price hget
      | none => exact .unknown rfl
  | pool id =>
    rw [answer, Snapshot.pool, requireAvailable_eq]
    by_cases hmem : id ∈ s.unavailable
    · rw [if_pos hmem]
      exact .unavailable rfl hmem
    · rw [if_neg hmem]
      exact .pool
  | pools => exact .pools
  | spotPrice id coinIn coinOut withFees =>
    rw [answer]
    cases hprice : s.spotPrice id coinIn coinOut withFees with
    | ok x => exact .spotPrice hprice
    | error e =>
      rw [spotPrice, requireAvailable_eq] at hprice
      by_cases hmem : id ∈ s.unavailable
      · rw [if_pos hmem] at hprice
        obtain rfl := Except.error.inj hprice
        exact .unavailable rfl hmem
      · rw [if_neg hmem] at hprice
        cases hlookup : s.spotPrices.lookup (id, coinIn, coinOut) with
        | none =>
          simp only [hlookup] at hprice
          obtain rfl := Except.error.inj hprice
          exact .unknown rfl
        | some price =>
          simp only [hlookup] at hprice
          cases withFees <;> simp [bind, Except.bind] at hprice

theorem IsProper.answer (hs : s.IsProper) {known : MarketAnswer} (h : s.answer q = .ok known) :
    known.IsProper := by
  have hanswered := s.answered q
  rw [h] at hanswered
  cases hanswered with
  | price hget => exact hs.prices _ (Keyed.mem_of_get? hget)
  | pool => exact fun p hp => hs.pools p (List.mem_of_find?_eq_some hp)
  | pools => exact hs.pools
  | spotPrice hprice => exact hs.spotPrices _ _ _ _ _ hprice

/-- The JSON of a proper answer is read as this answer. -/
theorem Answered.decode_some {known : MarketAnswer} {json : Json} (h : s.Answered q (.ok known))
    (hproper : known.IsProper) (hjson : known.json? = some json) :
    q.decode (some json) = .ok known := by
  cases h with
  | @price asset price hget =>
    obtain rfl := Option.some.inj hjson
    rw [MarketQuestion.decode, MarketQuestion.decode.decoded, TokenPrice.decode_json hproper]
    rfl
  | @pool id =>
    cases hfound : s.findPool id with
    | none => simp [MarketAnswer.json?, hfound] at hjson
    | some found =>
      have hfoundJson : found.json = json := by simpa [MarketAnswer.json?, hfound] using hjson
      have hfoundProper : found.IsProper := hproper found hfound
      rw [← hfoundJson, MarketQuestion.decode, MarketQuestion.decode.decoded,
        Pool.decode_json hfoundProper]
      rfl
  | pools =>
    obtain rfl := Option.some.inj hjson
    rw [MarketQuestion.decode, MarketQuestion.decode.decoded,
      decode_list fun p hp => Pool.decode_json (hproper p hp)]
    rfl
  | spotPrice hprice =>
    obtain rfl := Option.some.inj hjson
    rw [MarketQuestion.decode, MarketQuestion.decode.decoded, decode_spotPriceJson hproper]
    rfl

/-- Every reply of the backend is read as the answer of the snapshot. -/
theorem Replies.reading {reply : Http.Reply} (h : s.Replies q reply) (hs : s.IsProper)
    {m : RemoteMarket} (hpatient : m.patience ≠ 0) (request : Http.Request) :
    m.reading ⟨request, reply⟩ >>= q.decode = s.answer q := by
  cases h with
  | @granted known json body hanswer hjson hbody =>
    have hreading : m.reading ⟨request, .answer 200 body⟩ = .ok (some json) := by
      simp [RemoteMarket.reading, Http.outcome, hpatient, Http.isFinal, Http.hasNoBody,
        RemoteMarket.read, Http.isSuccess, hbody]
    rw [hreading, hanswer]
    have hanswered := s.answered q
    rw [hanswer] at hanswered
    exact hanswered.decode_some (hs.answer hanswer) hjson
  | @noPool body hanswer =>
    have hreading : m.reading ⟨request, .answer 404 body⟩ = .ok none := by
      simp [RemoteMarket.reading, Http.outcome, hpatient, Http.isFinal, RemoteMarket.read]
    rw [hreading, hanswer]
    exact decode_none_of_noPool hanswer
  | @unknown what body hanswer =>
    have hreading : m.reading ⟨request, .answer 404 body⟩ = .ok none := by
      simp [RemoteMarket.reading, Http.outcome, hpatient, Http.isFinal, RemoteMarket.read]
    rw [hreading, hanswer]
    have hanswered := s.answered q
    rw [hanswer] at hanswered
    cases hanswered with
    | unknown hnone => exact hnone
  | @unavailable id hid hmem =>
    have hreading : m.reading ⟨request, .answer 503 (id ++ " temporarily unavailable")⟩ =
        .error (.status 503 (id ++ " temporarily unavailable")) := by
      simp [RemoteMarket.reading, Http.outcome, hpatient, Http.isFinal, Http.hasNoBody,
        RemoteMarket.read, Http.isSuccess]
    rw [hreading, answer_of_unavailable hid hmem]
    rfl

/-- A visit that needs an exchange answers what the snapshot answers. -/
theorem ServedBy.answer_of_sent {m : RemoteMarket} {server : Http.Server σ} {b : Url}
    {questions : List MarketQuestion} (h : s.ServedBy m server b questions) (hs : s.IsProper)
    (hq : q ∈ questions) (hid : ∀ id ∈ q.id?, id ≠ "." ∧ id ≠ "..") {t next : RemoteState σ}
    {v : Visit} (hway : m.Visits server q t v next) (hsent : v.exchanges ≠ []) :
    v.answer = s.answer q := by
  cases hway with
  | recalled hkept => simp at hsent
  | refused hnone haddress => simp at hsent
  | @sent url reply world hnone haddress hserver =>
    have htarget : (Http.Request.get url).target = b.root ++ q.path :=
      RemoteMarket.target_eq_path h.based hid haddress
    have hreplies := h.replies q hq (.get url) t.server rfl htarget
    rw [hserver] at hreplies
    exact hreplies.reading hs h.patient _

/-- A body that a visit received is read as the answer of the snapshot. -/
theorem ServedBy.decode_received {m : RemoteMarket} {server : Http.Server σ} {b : Url}
    {questions : List MarketQuestion} (h : s.ServedBy m server b questions) (hs : s.IsProper)
    (hq : q ∈ questions) (hid : ∀ id ∈ q.id?, id ≠ "." ∧ id ≠ "..") {t next : RemoteState σ}
    {v : Visit} (hway : m.Visits server q t v next) {body : Json}
    (hbody : m.received? v = some body) : q.decode (some body) = s.answer q := by
  have hsent : v.exchanges ≠ [] := by
    intro hnil
    simp [RemoteMarket.received?, hnil] at hbody
  have hanswer := h.answer_of_sent hs hq hid hway hsent
  cases hway with
  | recalled hkept => simp at hsent
  | refused hnone haddress => simp at hsent
  | sent hnone haddress hserver =>
    rw [RemoteMarket.received?_single] at hbody
    rw [← hanswer, RemoteMarket.reading_eq_ok_some_iff.mpr hbody]
    rfl

end Snapshot

/-- Each visit of a run goes in one of the three ways, from some state. -/
theorem Clients.run_visits {m : RemoteMarket} (server : Http.Server σ) (uses : List Use)
    {copies : List RemoteMarket} (hcopies : ∀ k ∈ copies, k = m) {s : RemoteState σ} :
    ∀ v ∈ (Clients.run (RemoteMarket.visit · server) ⟨copies, s⟩ uses).1,
      v.question ∈ Use.questions uses ∧ ∃ t next, m.Visits server v.question t v next := by
  induction uses generalizing copies s with
  | nil => simp [run]
  | cons use rest ih =>
    have hlater : ∀ {copies : List RemoteMarket} {s : RemoteState σ}, (∀ k ∈ copies, k = m) →
        ∀ v ∈ (run (RemoteMarket.visit · server) ⟨copies, s⟩ rest).1,
          v.question ∈ Use.questions (use :: rest) ∧
            ∃ t next, m.Visits server v.question t v next := by
      intro copies s hcopies v hv
      obtain ⟨hmem, hway⟩ := ih hcopies v hv
      obtain ⟨u, hu, hquestion⟩ := List.mem_filterMap.mp hmem
      exact ⟨List.mem_filterMap.mpr ⟨u, List.mem_cons_of_mem _ hu, hquestion⟩, hway⟩
    cases use with
    | ask copy question =>
      cases hcopy : copies[copy]? with
      | none =>
        simp only [run, step, hcopy]
        exact hlater hcopies
      | some k =>
        obtain rfl := hcopies k (List.mem_of_getElem? hcopy)
        obtain ⟨first, next, hway⟩ := k.exists_visits server question s
        simp only [run, step, hcopy]
        rw [hway.visit_eq]
        intro v hv
        rcases List.mem_cons.mp hv with rfl | hv
        · have hquestion : v.question = question := by cases hway <;> rfl
          rw [hquestion]
          exact ⟨List.mem_filterMap.mpr ⟨_, List.mem_cons_self, rfl⟩, s, next, hway⟩
        · exact hlater hcopies v hv
    | wait duration =>
      simp only [run, step]
      exact hlater hcopies
    | clone copy =>
      have hclones : ∀ k ∈ copies ++ copies[copy]?.toList, k = m := by
        intro k hk
        rcases List.mem_append.mp hk with hk | hk
        · exact hcopies k hk
        · exact hcopies k (List.mem_of_getElem? (Option.mem_toList.mp hk))
      simp only [run, step]
      exact hlater hclones

end MarketQuery
