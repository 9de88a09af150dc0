import MarketQuery.Proofs.Market.History
import MarketQuery.Proofs.Url.Extension

/-!
Different questions have different paths. A path is a list of segments between slashes, and behind
a question mark the query of a spot price. Every part that a question brings in is spelled in the
characters of a form, and the marks between the parts are none of these characters, so a path is
parted in one way only. What is kept under the name of a path is then an answer to one question,
and it is served to no other.
-/
namespace MarketQuery

variable {σ : Type}

namespace MarketQuestion

def segments : MarketQuestion → List (List Char)
  | price asset => ["prices".toList, (Percent.formEncode asset).toList]
  | pool id => ["pools".toList, (Percent.formEncode id).toList]
  | pools => ["pools".toList]
  | spotPrice id _ _ _ => ["pools".toList, (Percent.formEncode id).toList, "spot-price".toList]

def flagText (withFees : Bool) : List Char :=
  '&' :: "withFees=".toList ++ (if withFees then "true" else "false").toList

def rateQuery (coinIn coinOut : String) (withFees : Bool) : List Char :=
  "coinIn=".toList ++ ((Percent.formEncode coinIn).toList ++ '&' :: ("coinOut=".toList ++
    ((Percent.formEncode coinOut).toList ++ flagText withFees)))

/-- Only a spot price has a query. -/
def query? : MarketQuestion → Option (List Char)
  | price _ => none
  | pool _ => none
  | pools => none
  | spotPrice _ coinIn coinOut withFees => some (rateQuery coinIn coinOut withFees)

theorem toList_path (q : MarketQuestion) :
    q.path.toList = '/' :: Url.tailText q.segments q.query? := by
  have hprices : "/prices/".toList = '/' :: ("prices".toList ++ ['/']) := rfl
  have hpools : "/pools/".toList = '/' :: ("pools".toList ++ ['/']) := rfl
  unfold Url.tailText Url.marked
  cases q with
  | price asset =>
    rw [path, String.toList_append, hprices, segments, query?]
    generalize "prices".toList = place
    simp
  | pool id =>
    rw [path, String.toList_append, hpools, segments, query?]
    generalize "pools".toList = place
    simp
  | pools => decide
  | spotPrice id coinIn coinOut withFees =>
    have hrate : "/spot-price?coinIn=".toList =
        '/' :: ("spot-price".toList ++ '?' :: "coinIn=".toList) := rfl
    have hout : "&coinOut=".toList = '&' :: "coinOut=".toList := rfl
    have hflag : "&withFees=".toList = '&' :: "withFees=".toList := rfl
    rw [path]
    simp only [String.toList_append]
    rewrite [hpools, hrate, hout, hflag]
    unfold segments query? rateQuery flagText
    generalize "pools".toList = place
    generalize "spot-price".toList = rate
    generalize "coinIn=".toList = first
    generalize "coinOut=".toList = second
    generalize "withFees=".toList = third
    cases withFees <;> simp

/-- The characters of segments are those of forms. -/
theorem isFormChar_of_mem_segments {q : MarketQuestion} {segment : List Char} {c : Char}
    (hsegment : segment ∈ q.segments) (hc : c ∈ segment) : Percent.isFormChar c = true := by
  have hwords : ["prices".toList, "pools".toList, "spot-price".toList].all
      (fun word => word.all Percent.isFormChar) = true := by decide
  have hword : ∀ word ∈ ["prices".toList, "pools".toList, "spot-price".toList],
      ∀ d ∈ word, Percent.isFormChar d = true :=
    fun word hmem => List.all_eq_true.mp (List.all_eq_true.mp hwords word hmem)
  have hspelling : ∀ s, ∀ d ∈ (Percent.formEncode s).toList, Percent.isFormChar d = true :=
    fun s d hd => Percent.isFormChar_of_mem_formEncode hd
  cases q with
  | price asset =>
    rcases List.mem_pair.mp hsegment with rfl | rfl
    · exact hword _ (by simp) c hc
    · exact hspelling asset c hc
  | pool id =>
    rcases List.mem_pair.mp hsegment with rfl | rfl
    · exact hword _ (by simp) c hc
    · exact hspelling id c hc
  | pools =>
    obtain rfl := List.mem_singleton.mp hsegment
    exact hword _ (by simp) c hc
  | spotPrice id coinIn coinOut withFees =>
    rcases List.mem_cons.mp hsegment with rfl | hrest
    · exact hword _ (by simp) c hc
    · rcases List.mem_pair.mp hrest with rfl | rfl
      · exact hspelling id c hc
      · exact hword _ (by simp) c hc

theorem segments_ne_nil (q : MarketQuestion) : q.segments ≠ [] := by
  cases q <;> simp [segments]

/-- The spelling of a part of a question ends at a mark. -/
theorem spelling_append_inj {s t : String} {rest rest' : List Char}
    (hrest : ∀ c ∈ rest.head?, Percent.isFormChar c = false)
    (hrest' : ∀ c ∈ rest'.head?, Percent.isFormChar c = false)
    (h : (Percent.formEncode s).toList ++ rest = (Percent.formEncode t).toList ++ rest') :
    s = t ∧ rest = rest' := by
  have hchars : ∀ u : String, ∀ c ∈ (Percent.formEncode u).toList, Percent.isFormChar c = true :=
    fun u c hc => Percent.isFormChar_of_mem_formEncode hc
  obtain ⟨hspelling, htail⟩ := Text.run_append_inj (hchars s) (hchars t) hrest hrest' h
  exact ⟨Percent.formEncode_injective (String.toList_inj.mp hspelling), htail⟩

theorem flagText_inj {withFees withFees' : Bool} (h : flagText withFees = flagText withFees') :
    withFees = withFees' := by
  revert withFees withFees'
  decide

theorem rateQuery_inj {coinIn coinOut coinIn' coinOut' : String} {withFees withFees' : Bool}
    (h : rateQuery coinIn coinOut withFees = rateQuery coinIn' coinOut' withFees') :
    coinIn = coinIn' ∧ coinOut = coinOut' ∧ withFees = withFees' := by
  have hmark : ∀ rest : List Char, ∀ c ∈ ('&' :: rest).head?, Percent.isFormChar c = false := by
    intro rest c hc
    obtain rfl := Option.mem_some.mp hc
    decide
  obtain ⟨hin, hrest⟩ := spelling_append_inj (hmark _) (hmark _) (List.append_cancel_left h)
  have hout := List.append_cancel_left (List.cons.inj hrest).2
  obtain ⟨hout, hflags⟩ := spelling_append_inj (hmark _) (hmark _) hout
  exact ⟨hin, hout, flagText_inj hflags⟩

theorem isQueryChar_of_mem_query? {q : MarketQuestion} {text : List Char}
    (htext : text ∈ q.query?) {c : Char} (hc : c ∈ text) : Url.isQueryChar c = true := by
  have hform : ∀ s, ∀ d ∈ (Percent.formEncode s).toList, Url.isQueryChar d = true := by
    intro s d hd
    simp [Url.isQueryChar, Percent.isFormChar_of_mem_formEncode hd]
  have hall : ["coinIn=".toList, "coinOut=".toList, flagText true, flagText false].all
      (fun word => word.all Url.isQueryChar) = true := by decide +kernel
  have hwords : ∀ word ∈ ["coinIn=".toList, "coinOut=".toList, flagText true, flagText false],
      ∀ d ∈ word, Url.isQueryChar d = true :=
    fun word hmem => List.all_eq_true.mp (List.all_eq_true.mp hall word hmem)
  have hflag : ∀ withFees, ∀ d ∈ flagText withFees, Url.isQueryChar d = true := by
    intro withFees
    cases withFees
    · exact hwords _ (by simp)
    · exact hwords _ (by simp)
  cases q with
  | price asset => simp [query?] at htext
  | pool id => simp [query?] at htext
  | pools => simp [query?] at htext
  | spotPrice id coinIn coinOut withFees =>
    obtain rfl := Option.some.inj htext
    have hout : ∀ d ∈ "coinOut=".toList ++ ((Percent.formEncode coinOut).toList ++ flagText withFees),
        Url.isQueryChar d = true :=
      List.forall_mem_append.mpr ⟨hwords _ (by simp),
        List.forall_mem_append.mpr ⟨hform coinOut, hflag withFees⟩⟩
    have hin : ∀ d ∈ rateQuery coinIn coinOut withFees, Url.isQueryChar d = true :=
      List.forall_mem_append.mpr ⟨hwords _ (by simp),
        List.forall_mem_append.mpr ⟨hform coinIn, List.forall_mem_cons.mpr ⟨rfl, hout⟩⟩⟩
    exact hin c hc

/-- What stands behind the first slash of a path. -/
theorem tail (q : MarketQuestion) : Url.Tail q.segments q.query? where
  ne_nil := q.segments_ne_nil
  form _ hs _ hc := isFormChar_of_mem_segments hs hc
  query _ htext _ hc := isQueryChar_of_mem_query? htext hc

theorem not_mem_segments (q : MarketQuestion) : ∀ s ∈ q.segments, '/' ∉ s := by
  intro s hs hmem
  exact absurd (isFormChar_of_mem_segments hs hmem) (by decide)

theorem path_parts {q q' : MarketQuestion} (h : q.path = q'.path) :
    q.segments = q'.segments ∧ q.query? = q'.query? := by
  have hrun : ∀ p : MarketQuestion, ∀ c ∈ ['/'].intercalate p.segments, (c != '?') = true :=
    fun p c hc => bne_iff_ne.mpr (p.tail.ne_mark c hc).1
  have hmark : ∀ p : MarketQuestion, ∀ c ∈ (Url.marked p.query?).head?, (c != '?') = false := by
    intro p c hc
    rw [Url.eq_of_mem_head?_marked hc]
    rfl
  have hsplit : ∀ p : MarketQuestion, (['/'].intercalate p.segments).splitOn '/' = p.segments :=
    fun p => List.splitOn_intercalate '/' p.not_mem_segments p.segments_ne_nil
  have hchars : q.path.toList = q'.path.toList := congrArg String.toList h
  rw [toList_path, toList_path] at hchars
  obtain ⟨hjoined, hquery⟩ :=
    Text.run_append_inj (hrun q) (hrun q') (hmark q) (hmark q') (List.cons.inj hchars).2
  refine ⟨?_, Url.marked_injective hquery⟩
  rw [← hsplit q, hjoined, hsplit q']

/-- Questions that differ in kind or in any part have different paths. -/
theorem path_inj {q q' : MarketQuestion} (h : q.path = q'.path) : q = q' := by
  obtain ⟨hsegments, hquery⟩ := path_parts h
  have hspelling : ∀ {s t : String},
      (Percent.formEncode s).toList = (Percent.formEncode t).toList → s = t :=
    fun h => Percent.formEncode_injective (String.toList_inj.mp h)
  have hplaces : "prices".toList ≠ "pools".toList := by decide
  cases q <;> cases q' <;>
    simp only [segments, List.cons.injEq, hplaces, hplaces.symm, reduceCtorEq, and_false, false_and]
      at hsegments
  case price.price => rw [hspelling hsegments.2.1]
  case pool.pool => rw [hspelling hsegments.2.1]
  case pools.pools => rfl
  case spotPrice.spotPrice =>
    obtain ⟨hin, hout, hflag⟩ := rateQuery_inj (Option.some.inj hquery)
    rw [hspelling hsegments.2.1, hin, hout, hflag]

end MarketQuestion

namespace RemoteMarket

variable {m : RemoteMarket} {past : List Visit} {v u : Visit}

theorem exists_latest {now : Nat} {path : String} {body : Json}
    (h : m.remembered? past now path = some body) :
    ∃ before u after, past = before ++ u :: after ∧ m.freshBody? now path u = some body ∧
      ∀ w ∈ after, m.freshBody? now path w = none := by
  obtain ⟨later, u, earlier, hpast, hfresh, hlater⟩ := List.findSome?_eq_some_iff.mp h
  refine ⟨earlier.reverse, u, later.reverse, ?_, hfresh, ?_⟩
  · have hreverse := congrArg List.reverse hpast
    simpa using hreverse
  · intro w hw
    exact hlater w (List.mem_reverse.mp hw)

/-- A visit of the same path asked the same question. -/
theorem question_of_freshBody? {now : Nat} {q : MarketQuestion} {body : Json}
    (h : m.freshBody? now q.path u = some body) :
    u.question = q ∧ m.received? u = some body ∧ now < u.time + m.lifetime := by
  unfold freshBody? at h
  split at h
  · next hsame => exact ⟨MarketQuestion.path_inj hsame.1, h, hsame.2⟩
  · simp at h

/-- Without an exchange, a visit fails or recalls what an earlier one received for its question. -/
theorem Follows.same_question (h : m.Follows past v) (hnone : v.exchanges = []) :
    (¬ m.Reaches v.question.path ∧ ∃ failure, v.answer = .error (.http failure)) ∨
      ∃ before u after body, past = before ++ u :: after ∧ u.question = v.question ∧
        m.received? u = some body ∧ v.time < u.time + m.lifetime ∧
        v.answer = v.question.decode (some body) := by
  cases hrecall : m.remembered? past v.time v.question.path with
  | none =>
    have hforgotten := remembered?_eq_none_iff.mp hrecall
    have hunreached : ¬ m.Reaches v.question.path :=
      fun hreach => h.sent_iff.mpr ⟨hreach, hforgotten⟩ hnone
    exact .inl ⟨hunreached, h.refused hunreached hforgotten⟩
  | some body =>
    obtain ⟨before, u, after, hpast, hfresh, hafter⟩ := exists_latest hrecall
    obtain ⟨hquestion, hreceived, htime⟩ := question_of_freshBody? hfresh
    have hanswer := h.recalled before u after body hpast hfresh hafter
    exact .inr ⟨before, u, after, body, hpast, hquestion, hreceived, htime, hanswer⟩

end RemoteMarket

/-- Different questions have different paths. If the paths that are asked for are kept under
different names, what is kept answers only the question that it was received for: a visit without
an exchange fails for want of an address, or it answers with what an earlier visit received for the
same question. -/
theorem RemoteMarket.answers_kept_apart (m : RemoteMarket) (server : Http.Server σ) (now : Nat)
    (world : σ) (uses : List Use) (hdigest : Set.InjOn m.digest (Use.paths uses)) :
    Function.Injective MarketQuestion.path ∧
      ∀ past v later,
        ((Clients.start m now world).run (RemoteMarket.visit · server) uses).1 =
          past ++ v :: later →
        v.exchanges = [] →
        (¬ m.Reaches v.question.path ∧ ∃ failure, v.answer = .error (.http failure)) ∨
          ∃ before u after body, past = before ++ u :: after ∧ u.question = v.question ∧
            m.received? u = some body ∧ v.time < u.time + m.lifetime ∧
            v.answer = v.question.decode (some body) := by
  refine ⟨fun q q' h => MarketQuestion.path_inj h, ?_⟩
  intro past v later heq hnone
  have hcopies : ∀ k ∈ [m], k = m := by simp
  have hfollows : m.Follows past v := Clients.run_follows server hdigest uses Set.Subset.rfl hcopies
    (m.mirrors_start _ now world) past v later heq
  exact hfollows.same_question hnone

/-- An id that looks like a question for a spot price is not mistaken for one. -/
theorem RemoteMarket.answers_kept_apart_lookalike :
    let m : RemoteMarket := .ofAddress "http://[::1]:8080/" 50 10
    let server : Http.Server Nat := fun _ n => (.answer 200 "[]", n + 1)
    let id := "p/spot-price?coinIn=a&coinOut=b&withFees=true"
    let uses : List Use :=
      [.ask 0 (.pool id), .clone 0, .ask 1 (.spotPrice "p" "a" "b" true), .ask 1 (.pool id)]
    let visits := ((Clients.start m 0 0).run (RemoteMarket.visit · server) uses).1
    Set.InjOn m.digest (Use.paths uses) ∧ visits.map (·.exchanges.length) = [1, 1, 0] ∧
      ∀ past v later, visits = past ++ v :: later → v.exchanges = [] →
        (¬ m.Reaches v.question.path ∧ ∃ failure, v.answer = .error (.http failure)) ∨
          ∃ before u after body, past = before ++ u :: after ∧ u.question = v.question ∧
            m.received? u = some body ∧ v.time < u.time + m.lifetime ∧
            v.answer = v.question.decode (some body) := by
  refine ⟨Function.injective_id.injOn, ?_, ?_⟩
  · decide +kernel
  · exact (RemoteMarket.answers_kept_apart _ _ 0 0 _ Function.injective_id.injOn).2

end MarketQuery
