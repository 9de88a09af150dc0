import MarketQuery.Proofs.Market.Questions

/-!
Where a request arrives. An id is meant to be one segment of the path below a base, and it is read
back by percent-decoding. It is spelled as in a form, though, so that a space is read back as a plus
sign; and an id of one dot or two is a step of the path, which leads to another place. The segments
of a request are known for every id, and these are the only ids that go astray.
-/
namespace MarketQuery

variable {σ : Type}

def Http.Request.segments (r : Http.Request) : List (List Char) :=
  ((r.target.toList.takeWhile (· ≠ '?')).drop 1).splitOn '/'

def Url.baseSegments (b : Url) : List (List Char) :=
  ((b.path.toList.drop 1).splitOn '/').dropLast

def Url.root (b : Url) : String :=
  String.ofList b.path.toList.dropLast

namespace MarketQuestion

def id? : MarketQuestion → Option String
  | price asset => some asset
  | pool id => some id
  | pools => none
  | spotPrice id _ _ _ => some id

/-- The segments that a request for a question has below its base. -/
def landing : MarketQuestion → List (List Char)
  | price asset => Url.below "prices".toList asset []
  | pool id => Url.below "pools".toList id []
  | pools => ["pools".toList]
  | spotPrice id _ _ _ => Url.below "pools".toList id ["spot-price".toList]

/-- The segments name the question: behind those of the base stands the place of the endpoint, and
behind it one segment whose percent-decoding is the id. -/
def NamedBy (q : MarketQuestion) (base segments : List (List Char)) : Prop :=
  match q with
  | price asset => ∃ s, segments = base ++ ["prices".toList, s] ∧
      Percent.decodeText? s = some asset.toList
  | pool id => ∃ s, segments = base ++ ["pools".toList, s] ∧
      Percent.decodeText? s = some id.toList
  | pools => segments = base ++ ["pools".toList]
  | spotPrice id _ _ _ => ∃ s, segments = base ++ ["pools".toList, s, "spot-price".toList] ∧
      Percent.decodeText? s = some id.toList

def IsPathId (id : String) : Prop :=
  ' ' ∉ id.toList ∧ id ≠ "." ∧ id ≠ ".."

theorem ordinary_prices : Url.Ordinary "prices".toList :=
  ⟨⟨List.all_eq_true.mp (by decide), by decide⟩, by decide, by decide⟩

theorem ordinary_pools : Url.Ordinary "pools".toList :=
  ⟨⟨List.all_eq_true.mp (by decide), by decide⟩, by decide, by decide⟩

theorem ordinary_spotPrice : Url.Ordinary "spot-price".toList :=
  ⟨⟨List.all_eq_true.mp (by decide), by decide⟩, by decide, by decide⟩

theorem toList_text_landing {p : Url.PathReader} (hp : p.rest = []) (q : MarketQuestion) :
    ((p.readAll .web q.segments).text .web).toList =
      (p.text .web).toList ++ ['/'].intercalate q.landing := by
  cases q with
  | price asset => exact Url.toList_text_below hp ordinary_prices (by decide) asset (by simp)
  | pool id => exact Url.toList_text_below hp ordinary_pools (by decide) id (by simp)
  | pools =>
    exact Url.toList_text_ordinary hp (by simp [segments])
      (List.forall_mem_singleton.mpr ordinary_pools)
  | spotPrice id coinIn coinOut withFees =>
    exact Url.toList_text_below hp ordinary_pools (by decide) id
      (List.forall_mem_singleton.mpr ordinary_spotPrice)

theorem landing_ne_nil (q : MarketQuestion) : q.landing ≠ [] := by
  cases q with
  | price asset => exact Url.below_ne_nil _ _ _
  | pool id => exact Url.below_ne_nil _ _ _
  | pools => simp [landing]
  | spotPrice id coinIn coinOut withFees => exact Url.below_ne_nil _ _ _

theorem mem_landing {q : MarketQuestion} {s : List Char} (h : s ∈ q.landing) :
    s = [] ∨ s ∈ q.segments := by
  cases q with
  | price asset => exact Url.mem_below h
  | pool id => exact Url.mem_below h
  | pools => exact .inr h
  | spotPrice id coinIn coinOut withFees => exact Url.mem_below h

/-- An id that is no step of the path is left in its place. -/
theorem landing_eq_segments {q : MarketQuestion} (h : ∀ id ∈ q.id?, id ≠ "." ∧ id ≠ "..") :
    q.landing = q.segments := by
  have hbelow : ∀ place id others, id ≠ "." ∧ id ≠ ".." →
      Url.below place id others = place :: (Percent.formEncode id).toList :: others := by
    intro place id others hid
    rw [Url.below, if_neg hid.2, if_neg hid.1]
  cases q with
  | price asset => exact hbelow _ _ _ (h asset rfl)
  | pool id => exact hbelow _ _ _ (h id rfl)
  | pools => rfl
  | spotPrice id coinIn coinOut withFees => exact hbelow _ _ _ (h id rfl)

/-- What a request has behind the slash of its base. -/
theorem tail_landing (q : MarketQuestion) : Url.Tail q.landing q.query? where
  ne_nil := q.landing_ne_nil
  form s hs c hc := by
    rcases mem_landing hs with rfl | hs
    · simp at hc
    · exact isFormChar_of_mem_segments hs hc
  query := q.tail.query

theorem exists_named_iff (place : List Char) (id : String) (others : List (List Char)) :
    (∃ s, Url.below place id others = place :: s :: others ∧
      Percent.decodeText? s = some id.toList) ↔ IsPathId id := by
  constructor
  · rintro ⟨s, hsegments, hdecode⟩
    have hlength := congrArg List.length hsegments
    by_cases hback : id = ".."
    · cases others with
      | nil => simp [Url.below, hback] at hlength
      | cons t rest => simp [Url.below, hback] at hlength
    · by_cases hstay : id = "."
      · cases others with
        | nil =>
          have hs : s = [] := by simpa [Url.below, hback, hstay] using hsegments.symm
          subst hs hstay
          exact absurd hdecode (by decide +kernel)
        | cons t rest => simp [Url.below, hstay] at hlength
      · have hs : s = (Percent.formEncode id).toList := by
          simpa [Url.below, hback, hstay] using hsegments.symm
        subst hs
        exact ⟨(Percent.decodeText?_formEncode_eq_iff id).mp hdecode, hstay, hback⟩
  · rintro ⟨hspace, hstay, hback⟩
    refine ⟨(Percent.formEncode id).toList, ?_, ?_⟩
    · rw [Url.below, if_neg hback, if_neg hstay]
    · exact (Percent.decodeText?_formEncode_eq_iff id).mpr hspace

theorem namedBy_landing_iff (q : MarketQuestion) (base : List (List Char)) :
    q.NamedBy base (base ++ q.landing) ↔ ∀ id ∈ q.id?, IsPathId id := by
  cases q with
  | price asset =>
    simp only [NamedBy, landing, id?, List.append_cancel_left_eq, exists_named_iff]
    simp
  | pool id =>
    simp only [NamedBy, landing, id?, List.append_cancel_left_eq, exists_named_iff]
    simp
  | pools => simp [NamedBy, landing, id?]
  | spotPrice id coinIn coinOut withFees =>
    simp only [NamedBy, landing, id?, List.append_cancel_left_eq, exists_named_iff]
    simp

end MarketQuestion

namespace RemoteMarket

variable {m : RemoteMarket} {server : Http.Server σ} {q : MarketQuestion} {s : RemoteState σ}

theorem toList_target (url : Url) :
    url.target.toList = url.path.toList ++ Url.marked (url.query.map String.toList) := by
  unfold Url.target Url.marked
  cases url.query with
  | none => simp
  | some query =>
    have hmark : "?".toList = ['?'] := by decide
    simp [hmark]

/-- An address that can be sent to comes from the text of base and path. -/
theorem address?_eq_ok {path : String} {url : Url} (h : m.address? path = .ok url) :
    ∃ found, Url.parse (m.base ++ path) = .ok found ∧ url = found.withoutCredentials := by
  unfold address? Http.address? at h
  cases hparse : Url.parse (m.base ++ path) with
  | error failure => simp [hparse] at h
  | ok found =>
    refine ⟨found, rfl, ?_⟩
    simp only [hparse] at h
    split at h
    · simp at h
    · next hfound =>
      split at hfound
      · simp at hfound
      · rw [← Except.ok.inj hfound] at h
        split at h
        · exact (Except.ok.inj h).symm
        · simp at h

theorem target_withoutCredentials (url : Url) : url.withoutCredentials.target = url.target := by
  unfold Url.withoutCredentials
  split <;> rfl

/-- What the request for a question asks for, below a base. -/
theorem target_of_address {b url : Url} (hbase : Url.Based m.base b)
    (haddress : m.address? q.path = .ok url) :
    url.target.toList = b.path.toList ++ Url.tailText q.landing q.query? := by
  obtain ⟨found, hparse, rfl⟩ := address?_eq_ok haddress
  obtain ⟨p, hp, hpath, hbelow⟩ := hbase.exists_parse
  have htext : q.path = String.ofList ('/' :: Url.tailText q.segments q.query?) := by
    rw [← q.toList_path, String.ofList_toList]
  rw [htext, hbelow _ _ q.tail] at hparse
  have hquery : (q.query?.map String.ofList).map String.toList = q.query? := by
    cases q.query? <;> simp
  rw [target_withoutCredentials, ← Except.ok.inj hparse, toList_target]
  simp only
  rw [MarketQuestion.toList_text_landing hp.rest_nil, hpath, hquery, Url.tailText, List.append_assoc]

/-- Unless its id is a step of the path, a question is asked at its own path below the base. -/
theorem target_eq_path {b url : Url} (hbase : Url.Based m.base b)
    (hid : ∀ id ∈ q.id?, id ≠ "." ∧ id ≠ "..") (haddress : m.address? q.path = .ok url) :
    url.target = b.root ++ q.path := by
  obtain ⟨p, hp, hpath, -⟩ := hbase.exists_parse
  obtain ⟨root, hroot⟩ := hp.exists_root
  have htarget := target_of_address hbase haddress
  rw [MarketQuestion.landing_eq_segments hid, hpath, hroot] at htarget
  apply String.toList_inj.mp
  rw [htarget, String.toList_append, Url.root, hpath, hroot, String.toList_ofList,
    List.dropLast_concat, q.toList_path, List.append_assoc]
  rfl

/-- The segments of such a target. -/
theorem segments_of_target {b : Url} (hbase : Url.Based m.base b) {r : Http.Request}
    (htarget : r.target.toList = b.path.toList ++ Url.tailText q.landing q.query?) :
    r.segments = b.baseSegments ++ q.landing := by
  obtain ⟨p, hp, hpath, -⟩ := hbase.exists_parse
  have hslash : ∀ segment ∈ q.landing, '/' ∉ segment := fun segment hsegment hmem =>
    absurd (q.tail_landing.form segment hsegment _ hmem) (by decide)
  have hrun : ∀ c ∈ b.path.toList ++ ['/'].intercalate q.landing, decide (c ≠ '?') = true := by
    intro c hc
    refine decide_eq_true ?_
    rcases List.mem_append.mp hc with hc | hc
    · rintro rfl
      exact hp.not_mem_text (hpath ▸ hc)
    · exact (q.tail_landing.ne_mark c hc).1
  have hmark : ∀ c ∈ (Url.marked q.query?).head?, decide (c ≠ '?') = false := by
    intro c hc
    rw [Url.eq_of_mem_head?_marked hc]
    rfl
  rw [Http.Request.segments, htarget, Url.tailText, ← List.append_assoc,
    Text.takeWhile_run hrun hmark, hpath, hp.splitOn_text,
    List.splitOn_intercalate '/' hslash q.landing_ne_nil, ← hpath]
  rfl

end RemoteMarket

/-- For all questions and in every state, the requests that are sent to a backend have the segments
of its base path, and behind them those of the landing. These name the question exactly if its id
has no space and is neither one dot nor two. -/
theorem RemoteMarket.request_segments (m : RemoteMarket) (server : Http.Server σ)
    (q : MarketQuestion) (s : RemoteState σ) (b : Url) (hbase : Url.Based m.base b) :
    ∀ x ∈ (m.visit server q s).1.exchanges,
      x.request.segments = b.baseSegments ++ q.landing ∧
        (q.NamedBy b.baseSegments x.request.segments ↔
          ∀ id ∈ q.id?, ' ' ∉ id.toList ∧ id ≠ "." ∧ id ≠ "..") := by
  intro x hx
  obtain ⟨v, next, hway⟩ := m.exists_visits server q s
  rw [hway.visit_eq] at hx
  cases hway with
  | recalled hkept => simp at hx
  | refused hnone haddress => simp at hx
  | @sent url reply world hnone haddress hserver =>
    obtain rfl := List.mem_singleton.mp hx
    have htarget : (Http.Request.get url).target.toList =
        b.path.toList ++ Url.tailText q.landing q.query? := target_of_address hbase haddress
    have hsegments := segments_of_target hbase htarget
    refine ⟨hsegments, ?_⟩
    rw [hsegments]
    exact q.namedBy_landing_iff b.baseSegments

/-- An id full of marks is one segment, and is read back. -/
theorem RemoteMarket.request_segments_marks :
    let m : RemoteMarket := .ofAddress "http://[::1]:8080/v1/../api/" 50 10
    let server : Http.Server Unit := fun _ => pure (.answer 200 "{}")
    let q : MarketQuestion := .spotPrice "../a?b#c%2F d" "x" "y" true
    let visit := (m.visit server q ⟨0, [], ()⟩).1
    ∃ b, Url.Based m.base b ∧ visit.exchanges.length = 1 ∧
      ∀ x ∈ visit.exchanges,
        x.request.segments = b.baseSegments ++ q.landing ∧
          (q.NamedBy b.baseSegments x.request.segments ↔
            ∀ id ∈ q.id?, ' ' ∉ id.toList ∧ id ≠ "." ∧ id ≠ "..") := by
  intro m server q visit
  obtain ⟨b, hbase⟩ := Url.isBase_iff.mp (show Url.isBase m.base = true by decide +kernel)
  exact ⟨b, hbase, by decide +kernel, RemoteMarket.request_segments m server q _ b hbase⟩

/-- A pool with a space in its id is asked for as another one, and a pool named by two dots is asked
for at the base path itself. -/
theorem RemoteMarket.request_segments_astray :
    let m : RemoteMarket := .ofAddress "http://[::1]:8080/api" 50 10
    let server : Http.Server Unit := fun _ => pure (.answer 200 "{}")
    let asked := fun id =>
      (m.visit server (.pool id) ⟨0, [], ()⟩).1.exchanges.map (·.request.segments)
    asked "a b" = [["api".toList, "pools".toList, "a+b".toList]] ∧
      ¬ (MarketQuestion.pool "a b").NamedBy ["api".toList]
        ["api".toList, "pools".toList, "a+b".toList] ∧
      asked ".." = [["api".toList, []]] ∧
      ¬ (MarketQuestion.pool "..").NamedBy ["api".toList] ["api".toList, []] := by
  refine ⟨by decide +kernel, ?_, by decide +kernel, ?_⟩
  · rintro ⟨s, hsegments, hdecode⟩
    have hs : s = "a+b".toList := by simpa using hsegments.symm
    subst hs
    exact absurd hdecode (by decide +kernel)
  · rintro ⟨s, hsegments, -⟩
    simp at hsegments

end MarketQuery
