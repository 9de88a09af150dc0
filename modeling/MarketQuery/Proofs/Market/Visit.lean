import MarketQuery.Market.Remote

/-!
A visit is one question to a remote market, with the exchanges that it takes. It goes in one of
three ways: the answer is still kept, or no request can be sent to its address, or one request is
sent and the answer is read off the reply. `Visits` has one constructor for each way, and says what
is kept afterwards.
-/
namespace MarketQuery

namespace Http

/-- A request and how it ended. -/
structure Exchange where
  request : Request
  reply : Reply

def Request.get (url : Url) : Request :=
  ⟨"GET", url.text, url.target, none, none⟩

/-- A server whose exchanges are written down in order. -/
def Server.recorded {σ : Type} (server : Server σ) : Server (List Exchange × σ) :=
  fun request s =>
    let (reply, next) := (server request).run s.2
    (reply, (s.1 ++ [⟨request, reply⟩], next))

end Http

inductive MarketAnswer where
  | price (price : TokenPrice)
  | pool (pool : Option Pool)
  | pools (pools : List Pool)
  | spotPrice (price : Float)

def Provider.ask {σ : Type} (source : Provider σ) : MarketQuestion → Asking σ MarketAnswer
  | .price asset => MarketAnswer.price <$> source.tokenPrice asset
  | .pool id => MarketAnswer.pool <$> source.pool id
  | .pools => MarketAnswer.pools <$> source.allPools
  | .spotPrice pool coinIn coinOut withFees =>
    MarketAnswer.spotPrice <$> source.spotPrice pool coinIn coinOut withFees

/-- What a body says in answer to a question, and what it says when there is none. -/
def MarketQuestion.decode : MarketQuestion → Option Json → Except MarketError MarketAnswer
  | price _, some body => decoded TokenPrice.layout.decode .price body
  | price asset, none => .error (.notFound ("price for " ++ asset))
  | pool _, some body => decoded Pool.layout.decode (.pool ∘ some) body
  | pool _, none => .ok (.pool none)
  | pools, some body => decoded (.list Pool.layout.decode) .pools body
  | pools, none => .ok (.pools [])
  | spotPrice _ _ _ _, some body => decoded spotPriceLayout.decode .spotPrice body
  | spotPrice id _ _ _, none => .error (.notFound ("pool " ++ id))
where
  decoded {α : Type} (decoder : Decoder α) (answer : α → MarketAnswer) (body : Json) :
      Except MarketError MarketAnswer :=
    ((decoder body).mapError fun fault => .decode fault.message).map answer

structure Visit where
  /-- Milliseconds. -/
  time : Nat
  question : MarketQuestion
  exchanges : List Http.Exchange
  answer : Except MarketError MarketAnswer

namespace RemoteMarket

variable {σ : Type}

/-- Asks a question and writes down the exchanges with the backend. -/
def visit (m : RemoteMarket) (server : Http.Server σ) (question : MarketQuestion)
    (s : RemoteState σ) : Visit × RemoteState σ :=
  let (answer, next) :=
    ((m.provider server.recorded).ask question).run.run ⟨s.now, s.cache, ([], s.server)⟩
  (⟨s.now, question, next.server.1, answer⟩, ⟨next.now, next.cache, next.server.2⟩)

def address? (m : RemoteMarket) (path : String) : Except Http.Failure Url :=
  match Http.address? (m.base ++ path) with
  | .error failure => .error failure
  | .ok url => if url.isFetchable then .ok url else .error (.badAddress (some url.text))

def reading (m : RemoteMarket) (x : Http.Exchange) : Except MarketError (Option Json) :=
  match Http.outcome m.patience x.request.address x.reply with
  | .error failure => .error (.http failure)
  | .ok answer => read answer

def bodyOf? (m : RemoteMarket) (x : Http.Exchange) : Option Json :=
  match Http.outcome m.patience x.request.address x.reply with
  | .error _ => none
  | .ok answer => if Http.isSuccess answer.status then Json.parse? answer.body.toList else none

/-- What is kept after an exchange about a path. -/
def kept (m : RemoteMarket) (now : Nat) (c : AnswerCache) (path : String) (x : Http.Exchange) :
    AnswerCache :=
  match m.bodyOf? x with
  | some body => c.store now m.lifetime (m.digest path) body
  | none => c

/-- How a visit goes. -/
inductive Visits (m : RemoteMarket) (server : Http.Server σ) (q : MarketQuestion)
    (s : RemoteState σ) : Visit → RemoteState σ → Prop
  | recalled {body : Json} (hkept : s.cache.find? s.now (m.digest q.path) = some body) :
      Visits m server q s ⟨s.now, q, [], q.decode (some body)⟩ s
  | refused {failure : Http.Failure} (hnone : s.cache.find? s.now (m.digest q.path) = none)
      (haddress : m.address? q.path = .error failure) :
      Visits m server q s ⟨s.now, q, [], .error (.http failure)⟩ s
  | sent {url : Url} {reply : Http.Reply} {world : σ}
      (hnone : s.cache.find? s.now (m.digest q.path) = none)
      (haddress : m.address? q.path = .ok url)
      (hserver : (server (.get url)).run s.server = (reply, world)) :
      Visits m server q s ⟨s.now, q, [⟨.get url, reply⟩], m.reading ⟨.get url, reply⟩ >>= q.decode⟩
        ⟨s.now, m.kept s.now s.cache q.path ⟨.get url, reply⟩, world⟩

variable {m : RemoteMarket} {server : Http.Server σ} {q : MarketQuestion} {s : RemoteState σ}

theorem reading_eq_ok_some_iff {x : Http.Exchange} {body : Json} :
    m.reading x = .ok (some body) ↔ m.bodyOf? x = some body := by
  unfold reading bodyOf?
  cases Http.outcome m.patience x.request.address x.reply with
  | error failure => simp
  | ok answer =>
    by_cases hmissing : answer.status = 404
    · simp [read, hmissing, Http.isSuccess]
    · by_cases hgranted : Http.isSuccess answer.status
      · cases hparse : Json.parse? answer.body.toList <;> simp [read, hmissing, hgranted, hparse]
      · simp [read, hmissing, hgranted]

theorem run_get_bind {τ α : Type} (f : τ → Asking τ α) (s : τ) :
    (getThe τ >>= f : Asking τ α).run.run s = (f s).run.run s := rfl

theorem run_lift_bind {τ α β : Type} (x : StateM τ β) (f : β → Asking τ α) (s : τ) :
    (liftM x >>= f : Asking τ α).run.run s = (f (x.run s).1).run.run (x.run s).2 := rfl

theorem run_bind {τ α β : Type} (x : Asking τ β) (f : β → Asking τ α) (s : τ) :
    (x >>= f).run.run s =
      match x.run.run s with
      | (.ok b, next) => (f b).run.run next
      | (.error e, next) => (.error e, next) := by
  rw [ExceptT.run_bind, StateT.run_bind]
  rcases x.run.run s with ⟨_ | _, next⟩ <;> rfl

theorem remote_run (server : Http.Server σ) (request : Http.Request) (s : RemoteState σ) :
    (server.remote request).run s =
      let (reply, next) := (server request).run s.server
      (reply, { s with server := next }) := rfl

theorem send_refused {path : String} {failure : Http.Failure}
    (haddress : m.address? path = .error failure) :
    Http.send server m.patience "GET" (m.base ++ path) none none = pure (.error failure) := by
  unfold address? at haddress
  unfold Http.send
  cases hparse : Http.address? (m.base ++ path) with
  | error other =>
    simp only [hparse, Except.error.injEq] at haddress
    rw [haddress]
  | ok url =>
    simp only [hparse] at haddress
    by_cases hfetchable : url.isFetchable = true
    · simp [hfetchable] at haddress
    · rw [if_neg hfetchable, Except.error.injEq] at haddress
      simp [hfetchable, haddress]

theorem send_page {path : String} {url : Url} (haddress : m.address? path = .ok url) :
    Http.send server m.patience "GET" (m.base ++ path) none none =
      (Http.outcome m.patience url.text ·) <$> server (.get url) := by
  unfold address? at haddress
  unfold Http.send
  cases hparse : Http.address? (m.base ++ path) with
  | error failure => simp [hparse] at haddress
  | ok found =>
    simp only [hparse] at haddress
    by_cases hfetchable : found.isFetchable = true
    · rw [if_pos hfetchable, Except.ok.injEq] at haddress
      subst haddress
      simp [hfetchable, Http.Request.get]
    · simp [hfetchable] at haddress

theorem request_refused {path : String} {failure : Http.Failure}
    (haddress : m.address? path = .error failure) :
    (m.request server path).run.run s = (.error (.http failure), s) := by
  rw [request, send_refused haddress]
  rfl

theorem request_sent {path : String} {url : Url} {reply : Http.Reply} {world : σ}
    (haddress : m.address? path = .ok url)
    (hserver : (server (.get url)).run s.server = (reply, world)) :
    (m.request server path).run.run s =
      (m.reading ⟨.get url, reply⟩, ⟨s.now, s.cache, world⟩) := by
  have hsend : ((Http.outcome m.patience url.text ·) <$> server.remote (.get url)).run s =
      (Http.outcome m.patience url.text reply, ⟨s.now, s.cache, world⟩) := by
    rw [StateT.run_map, remote_run, hserver]
    rfl
  rw [request, send_page haddress, run_lift_bind, hsend]
  unfold reading
  cases hout : Http.outcome m.patience url.text reply with
  | error failure =>
    simp only [Http.Request.get, hout]
    rfl
  | ok answer =>
    simp only [Http.Request.get, hout]
    rfl

theorem fetch_recalled {path : String} {body : Json}
    (hkept : s.cache.find? s.now (m.digest path) = some body) :
    (m.fetch server path).run.run s = (.ok (some body), s) := by
  rw [fetch, run_get_bind]
  simp only [hkept]
  rfl

theorem fetch_refused {path : String} {failure : Http.Failure}
    (hnone : s.cache.find? s.now (m.digest path) = none)
    (haddress : m.address? path = .error failure) :
    (m.fetch server path).run.run s = (.error (.http failure), s) := by
  rw [fetch, run_get_bind]
  simp only [hnone]
  rw [run_bind, request_refused haddress]

theorem fetch_sent {path : String} {url : Url} {reply : Http.Reply} {world : σ}
    (hnone : s.cache.find? s.now (m.digest path) = none)
    (haddress : m.address? path = .ok url)
    (hserver : (server (.get url)).run s.server = (reply, world)) :
    (m.fetch server path).run.run s =
      (m.reading ⟨.get url, reply⟩,
        ⟨s.now, m.kept s.now s.cache path ⟨.get url, reply⟩, world⟩) := by
  rw [fetch, run_get_bind]
  simp only [hnone]
  rw [run_bind, request_sent haddress hserver, kept]
  cases hbody : m.bodyOf? ⟨.get url, reply⟩ with
  | some body =>
    rw [reading_eq_ok_some_iff.mpr hbody]
    rfl
  | none =>
    cases hreading : m.reading ⟨.get url, reply⟩ with
    | error e => rfl
    | ok found =>
      cases found with
      | none => rfl
      | some body => simp [reading_eq_ok_some_iff.mp hreading] at hbody

theorem run_map_decoded {τ α : Type} (decoder : Decoder α) (answer : α → MarketAnswer)
    (body : Json) (s : τ) :
    (answer <$> (decoded decoder body : Asking τ α)).run.run s =
      (MarketQuestion.decode.decoded decoder answer body, s) := by
  unfold decoded MarketQuestion.decode.decoded
  cases decoder body <;> rfl

/-- A question is answered by decoding what is fetched. -/
theorem ask_run (m : RemoteMarket) (server : Http.Server σ) (q : MarketQuestion)
    (s : RemoteState σ) :
    ((m.provider server).ask q).run.run s =
      let fetched := (m.fetch server q.path).run.run s
      (fetched.1 >>= q.decode, fetched.2) := by
  obtain ⟨fetched, next, hfetch⟩ : ∃ fetched next,
      (m.fetch server q.path).run.run s = (fetched, next) := ⟨_, _, rfl⟩
  rw [hfetch]
  cases q with
  | price asset =>
    simp only [Provider.ask, provider, fetchRequired, map_bind]
    rw [run_bind, hfetch]
    rcases fetched with e | _ | body
    · rfl
    · rfl
    · exact run_map_decoded ..
  | pool id =>
    simp only [Provider.ask, provider, map_bind]
    rw [run_bind, hfetch]
    rcases fetched with e | _ | body
    · rfl
    · rfl
    · simp only [← comp_map]
      exact run_map_decoded ..
  | pools =>
    simp only [Provider.ask, provider, map_bind]
    rw [run_bind, hfetch]
    rcases fetched with e | _ | body
    · rfl
    · rfl
    · exact run_map_decoded ..
  | spotPrice id coinIn coinOut withFees =>
    simp only [Provider.ask, provider, fetchRequired, map_bind]
    rw [run_bind, hfetch]
    rcases fetched with e | _ | body
    · rfl
    · rfl
    · exact run_map_decoded ..

theorem recorded_run (server : Http.Server σ) (request : Http.Request)
    (before : List Http.Exchange) (world : σ) :
    (server.recorded request).run (before, world) =
      let (reply, next) := (server request).run world
      (reply, (before ++ [⟨request, reply⟩], next)) := rfl

theorem Visits.visit_eq {v : Visit} {next : RemoteState σ} (h : m.Visits server q s v next) :
    m.visit server q s = (v, next) := by
  unfold visit
  rw [ask_run]
  cases h with
  | recalled hkept =>
    have hfetch : (m.fetch server.recorded q.path).run.run ⟨s.now, s.cache, ([], s.server)⟩ =
        (.ok (some _), ⟨s.now, s.cache, ([], s.server)⟩) := fetch_recalled hkept
    rw [hfetch]
    rfl
  | refused hnone haddress =>
    have hfetch : (m.fetch server.recorded q.path).run.run ⟨s.now, s.cache, ([], s.server)⟩ =
        (.error (.http _), ⟨s.now, s.cache, ([], s.server)⟩) := fetch_refused hnone haddress
    rw [hfetch]
    rfl
  | @sent url reply world hnone haddress hserver =>
    have hrecorded : (server.recorded (.get url)).run ([], s.server) =
        (reply, ([⟨.get url, reply⟩], world)) := by
      rw [recorded_run, hserver]
      rfl
    have hfetch : (m.fetch server.recorded q.path).run.run ⟨s.now, s.cache, ([], s.server)⟩ =
        (m.reading ⟨.get url, reply⟩, ⟨s.now, m.kept s.now s.cache q.path ⟨.get url, reply⟩,
          ([⟨.get url, reply⟩], world)⟩) := fetch_sent hnone haddress hrecorded
    rw [hfetch]

theorem exists_visits (m : RemoteMarket) (server : Http.Server σ) (q : MarketQuestion)
    (s : RemoteState σ) : ∃ v next, m.Visits server q s v next := by
  cases hkept : s.cache.find? s.now (m.digest q.path) with
  | some body => exact ⟨_, _, .recalled hkept⟩
  | none =>
    cases haddress : m.address? q.path with
    | error failure => exact ⟨_, _, .refused hkept haddress⟩
    | ok url => exact ⟨_, _, .sent hkept haddress rfl⟩

/-- Writing the exchanges down changes neither the answer nor what is left behind. -/
theorem ask_eq_visit (m : RemoteMarket) (server : Http.Server σ) (q : MarketQuestion)
    (s : RemoteState σ) :
    ((m.provider server).ask q).run.run s =
      ((m.visit server q s).1.answer, (m.visit server q s).2) := by
  obtain ⟨v, next, h⟩ := m.exists_visits server q s
  rw [ask_run, h.visit_eq]
  cases h with
  | recalled hkept =>
    rw [fetch_recalled hkept]
    rfl
  | refused hnone haddress =>
    rw [fetch_refused hnone haddress]
    rfl
  | sent hnone haddress hserver => rw [fetch_sent hnone haddress hserver]

end RemoteMarket

end MarketQuery
