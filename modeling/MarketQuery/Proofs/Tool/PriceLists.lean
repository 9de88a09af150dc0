import MarketQuery.Proofs.Outcome
import MarketQuery.Proofs.Tool.Reports

/-!
The prices of several assets. A source is steady if its answers to questions for prices do not
depend on the questions for prices that it was asked before. The loop over a list of assets then
collects answers that are fixed beforehand: it ends at the first asset without a price, and
otherwise it leaves each asset's price under its identifier, whatever the order of the list and
however often an asset is in it.
-/
namespace MarketQuery

variable {σ : Type} {source : Provider σ} {s : σ}

namespace Provider

def priceAt (source : Provider σ) (s : σ) (id : String) : Except MarketError TokenPrice :=
  ((source.tokenPrice id).run.run s).1

def afterPrice (source : Provider σ) (s : σ) (id : String) : σ :=
  ((source.tokenPrice id).run.run s).2

inductive Reaches (source : Provider σ) : σ → σ → Prop
  | refl (s : σ) : Reaches source s s
  | ask {s s' : σ} (id : String) (h : Reaches source (source.afterPrice s id) s') :
      Reaches source s s'

/-- Questions for prices do not change the answers to questions for prices. -/
def Steady (source : Provider σ) (s : σ) : Prop :=
  ∀ s', source.Reaches s s' → source.priceAt s' = source.priceAt s

theorem Steady.priceAt_afterPrice (h : source.Steady s) (id : String) :
    source.priceAt (source.afterPrice s id) = source.priceAt s :=
  h _ (.ask id (.refl _))

theorem Steady.afterPrice (h : source.Steady s) (id : String) :
    source.Steady (source.afterPrice s id) := by
  intro s' hreach
  rw [h.priceAt_afterPrice id]
  exact h s' (.ask id hreach)

end Provider

namespace MarketTool

/-- The prices of the assets by identifier, from their answers. The first error ends the work. -/
def collect (answer : String → Except MarketError TokenPrice) :
    List String → Fields → Except MarketError Fields
  | [], known => .ok known
  | id :: rest, known =>
    match answer id with
    | .ok price => collect answer rest (Keyed.insert id price.json known)
    | .error cause => .error cause

/-- The loop of a steady source collects the answers that it would give at the start. -/
theorem run_prices (h : source.Steady s) (ids : List String) (known : Fields) :
    ((prices source ids known).run.run s).1 = collect (source.priceAt s) ids known := by
  induction ids generalizing s known with
  | nil => rfl
  | cons id rest ih =>
    rw [collect, prices, ExceptT.run_bind, StateT.run_bind]
    rcases hask : (source.tokenPrice id).run.run s with ⟨cause | price, s₁⟩
    · have hanswer : source.priceAt s id = .error cause := congrArg Prod.fst hask
      rw [hanswer]
      rfl
    · have hanswer : source.priceAt s id = .ok price := congrArg Prod.fst hask
      have hstate : source.afterPrice s id = s₁ := congrArg Prod.snd hask
      rw [hanswer, ← h.priceAt_afterPrice id, hstate]
      exact ih (hstate ▸ h.afterPrice id) _

theorem sorted_of_prices {s' : σ} {ids : List String} {known found : Fields}
    (hknown : Keyed.Sorted known)
    (hrun : (prices source ids known).run.run s = (.ok found, s')) : Keyed.Sorted found := by
  induction ids generalizing s known with
  | nil => exact (run_pure_eq_ok_iff.mp hrun).1 ▸ hknown
  | cons id rest ih =>
    obtain ⟨price, s₁, -, hrun⟩ := run_bind_eq_ok_iff.mp hrun
    exact ih (hknown.insert id price.json) hrun

/-- Whatever the source does, what a call puts out are entries in the order of the identifiers. -/
theorem exists_sorted_of_tokenPrices {s' : σ} {args : Arguments} {output : Json}
    (hrun : ((tokenPrices source).invoke args).run.run s = (.ok output, s')) :
    ∃ found : Fields, Keyed.Sorted found ∧ .object found = output := by
  obtain ⟨ids, s₁, hids, hrun⟩ := run_bind_eq_ok_iff.mp hrun
  split at hrun
  · simpa using (Prod.mk.inj hrun).1
  · obtain ⟨found, s₂, hfound, hrun⟩ := run_bind_eq_ok_iff.mp hrun
    exact ⟨found, sorted_of_prices List.Pairwise.nil (Working.run_market_eq_ok_iff.mp hfound),
      (run_pure_eq_ok_iff.mp hrun).1⟩

section Collect

variable {answer : String → Except MarketError TokenPrice} {ids : List String}
  {known found : Fields}

theorem exists_collect_ok_iff :
    (∃ found, collect answer ids known = .ok found) ↔ ∀ id ∈ ids, ∃ p, answer id = .ok p := by
  induction ids generalizing known with
  | nil => simp [collect]
  | cons id rest ih =>
    rw [collect, List.forall_mem_cons]
    cases answer id with
    | error cause => simp
    | ok price => simpa using ih

theorem collect_eq_error_iff {e : MarketError} :
    collect answer ids known = .error e ↔
      ∃ before id after, ids = before ++ id :: after ∧ (∀ d ∈ before, ∃ p, answer d = .ok p) ∧
        answer id = .error e := by
  induction ids generalizing known with
  | nil => simp [collect]
  | cons first rest ih =>
    rw [collect]
    constructor
    · intro h
      cases hanswer : answer first with
      | error cause =>
        rw [hanswer] at h
        obtain rfl : cause = e := Except.error.inj h
        exact ⟨[], first, rest, rfl, by simp, hanswer⟩
      | ok price =>
        rw [hanswer] at h
        obtain ⟨before, id, after, rfl, hbefore, hid⟩ := ih.mp h
        exact ⟨first :: before, id, after, rfl,
          List.forall_mem_cons.mpr ⟨⟨price, hanswer⟩, hbefore⟩, hid⟩
    · rintro ⟨before, id, after, hids, hbefore, hid⟩
      rcases List.cons_eq_append_iff.mp hids with ⟨rfl, hids⟩ | ⟨before, rfl, rfl⟩
      · obtain ⟨rfl, rfl⟩ := List.cons.inj hids
        rw [hid]
      · obtain ⟨⟨price, hanswer⟩, hbefore⟩ := List.forall_mem_cons.mp hbefore
        rw [hanswer]
        exact ih.mpr ⟨before, id, after, rfl, hbefore, hid⟩

theorem sorted_of_collect (hknown : Keyed.Sorted known) (h : collect answer ids known = .ok found) :
    Keyed.Sorted found := by
  induction ids generalizing known with
  | nil => exact Except.ok.inj h ▸ hknown
  | cons id rest ih =>
    rw [collect] at h
    split at h
    · exact ih (hknown.insert id _) h
    · simp at h

/-- What is collected for an asset does not depend on where it is in the list. -/
theorem get?_of_collect (h : collect answer ids known = .ok found) (key : String) :
    Keyed.get? key found =
      if key ∈ ids then (answer key).toOption.map TokenPrice.json else Keyed.get? key known := by
  induction ids generalizing known with
  | nil =>
    obtain rfl := Except.ok.inj h
    simp
  | cons id rest ih =>
    rw [collect] at h
    split at h
    · next price hanswer =>
      rw [ih h, Keyed.get?_insert]
      by_cases hkey : key = id
      · simp [hkey, hanswer, Except.toOption]
      · simp [hkey]
    · simp at h

/-- The prices of these assets, each once and in the order of the identifiers. -/
structure Holds (answer : String → Except MarketError TokenPrice) (ids : List String)
    (found : Fields) : Prop where
  sorted : Keyed.Sorted found
  keys : ∀ id, id ∈ found.map Prod.fst ↔ id ∈ ids
  price : ∀ id ∈ ids, ∃ p, answer id = .ok p ∧ Keyed.get? id found = some p.json

theorem holds_of_collect (h : collect answer ids [] = .ok found) : Holds answer ids found := by
  have hprice : ∀ id ∈ ids, ∃ p, answer id = .ok p ∧ Keyed.get? id found = some p.json := by
    intro id hid
    obtain ⟨p, hp⟩ := exists_collect_ok_iff.mp ⟨found, h⟩ id hid
    refine ⟨p, hp, ?_⟩
    rw [get?_of_collect h, if_pos hid, hp]
    rfl
  refine ⟨sorted_of_collect List.Pairwise.nil h, fun id => ?_, hprice⟩
  rw [← Keyed.isSome_get?_iff]
  constructor
  · intro hsome
    rw [get?_of_collect h] at hsome
    split at hsome
    · assumption
    · simp [Keyed.get?_nil] at hsome
  · intro hid
    obtain ⟨p, -, hget⟩ := hprice id hid
    rw [hget]
    rfl

end Collect

theorem run_market_pure {α : Type} (question : Asking σ α) (f : α → Json) (s : σ) :
    ((Working.market question >>= fun a => pure (f a) : Working σ Json).run.run s).1 =
      ((question.run.run s).1.map f).mapError ToolError.market := by
  rw [ExceptT.run_bind, StateT.run_bind, Working.market, ExceptT.run_mk, StateT.run_bind]
  rcases question.run.run s with ⟨_ | _, _⟩ <;> rfl

section Calls

variable {id : String} {ids : List String} {output : Json} {e : ToolError}

theorem run_tokenPrice (source : Provider σ) (s : σ) (id : String) :
    (((tokenPrice source).invoke [("symbol", .string id)]).run.run s).1 =
      ((source.priceAt s id).map TokenPrice.json).mapError .market :=
  run_market_pure (source.tokenPrice id) TokenPrice.json s

theorem tokenPrice_eq_ok_iff :
    (((tokenPrice source).invoke [("symbol", .string id)]).run.run s).1 = .ok output ↔
      ∃ p, source.priceAt s id = .ok p ∧ p.json = output := by
  rw [run_tokenPrice, Outcome.mapError_eq_ok_iff, Outcome.map_eq_ok_iff]

theorem tokenPrice_eq_error_iff :
    (((tokenPrice source).invoke [("symbol", .string id)]).run.run s).1 = .error e ↔
      ∃ cause, source.priceAt s id = .error cause ∧ .market cause = e := by
  simp only [run_tokenPrice, Outcome.mapError_eq_error_iff, Outcome.map_eq_error_iff]

theorem exists_tokenPrice_ok_iff :
    (∃ output, (((tokenPrice source).invoke [("symbol", .string id)]).run.run s).1 = .ok output) ↔
      ∃ p, source.priceAt s id = .ok p := by
  simp only [tokenPrice_eq_ok_iff]
  constructor
  · rintro ⟨_, p, hp, -⟩
    exact ⟨p, hp⟩
  · rintro ⟨p, hp⟩
    exact ⟨_, p, hp, rfl⟩

theorem run_tokenPrices (h : source.Steady s) (hids : ids ≠ []) :
    (((tokenPrices source).invoke [("symbols", .stringList ids)]).run.run s).1 =
      ((collect (source.priceAt s) ids []).map Json.object).mapError .market := by
  rw [← run_prices h]
  cases ids with
  | nil => exact absurd rfl hids
  | cons id rest => exact run_market_pure (prices source (id :: rest) []) Json.object s

theorem tokenPrices_eq_ok_iff (h : source.Steady s) (hids : ids ≠ []) :
    (((tokenPrices source).invoke [("symbols", .stringList ids)]).run.run s).1 = .ok output ↔
      ∃ found, collect (source.priceAt s) ids [] = .ok found ∧ .object found = output := by
  rw [run_tokenPrices h hids, Outcome.mapError_eq_ok_iff, Outcome.map_eq_ok_iff]

/-- The call for all assets succeeds exactly if the call for each of them does. -/
theorem exists_tokenPrices_ok_iff (h : source.Steady s) (hids : ids ≠ []) :
    (∃ output, (((tokenPrices source).invoke [("symbols", .stringList ids)]).run.run s).1 =
        .ok output) ↔
      ∀ id ∈ ids, ∃ output,
        (((tokenPrice source).invoke [("symbol", .string id)]).run.run s).1 = .ok output := by
  simp only [exists_tokenPrice_ok_iff, tokenPrices_eq_ok_iff h hids]
  rw [← exists_collect_ok_iff]
  constructor
  · rintro ⟨_, found, hfound, -⟩
    exact ⟨found, hfound⟩
  · rintro ⟨found, hfound⟩
    exact ⟨_, found, hfound, rfl⟩

/-- It fails with the error of the first call that fails. -/
theorem tokenPrices_eq_error_iff (h : source.Steady s) (hids : ids ≠ []) :
    (((tokenPrices source).invoke [("symbols", .stringList ids)]).run.run s).1 = .error e ↔
      ∃ before id after, ids = before ++ id :: after ∧
        (∀ d ∈ before, ∃ output,
          (((tokenPrice source).invoke [("symbol", .string d)]).run.run s).1 = .ok output) ∧
        (((tokenPrice source).invoke [("symbol", .string id)]).run.run s).1 = .error e := by
  simp only [exists_tokenPrice_ok_iff, tokenPrice_eq_error_iff, run_tokenPrices h hids,
    Outcome.mapError_eq_error_iff, Outcome.map_eq_error_iff, collect_eq_error_iff]
  constructor
  · rintro ⟨cause, ⟨before, id, after, hsplit, hbefore, hid⟩, he⟩
    exact ⟨before, id, after, hsplit, hbefore, cause, hid, he⟩
  · rintro ⟨before, id, after, hsplit, hbefore, cause, hid, he⟩
    exact ⟨cause, ⟨before, id, after, hsplit, hbefore, hid⟩, he⟩

end Calls

end MarketTool

end MarketQuery
