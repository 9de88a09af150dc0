import MarketQuery.Market.Snapshot
import MarketQuery.Proofs.Repeated

/-!
A snapshot that is built up entry by entry has one version of each pool: the last that was added. A
pool that is added again moves behind the others, and none of these is touched. One entry preserves
this, so it holds however the entries are mixed, and the list of pools and the look-up of one pool
agree.
-/
namespace MarketQuery.Snapshot

inductive Entry where
  | price (id : String) (price : TokenPrice)
  | pool (pool : Pool)
  | spotPrice (pool coinIn coinOut : String) (price : Float)
  | unavailable (id : String)

def add (s : Snapshot) : Entry → Snapshot
  | .price id price => s.withPrice id price
  | .pool pool => s.withPool pool
  | .spotPrice pool coinIn coinOut price => s.withSpotPrice pool coinIn coinOut price
  | .unavailable id => s.withUnavailable id

def ofEntries (entries : List Entry) : Snapshot :=
  entries.foldl add {}

def Entry.pool? : Entry → Option Pool
  | pool p => some p
  | _ => none

/-- The pools that are added, with all their versions. -/
def addedPools (entries : List Entry) : List Pool :=
  entries.filterMap Entry.pool?

/-- What the entries leave behind. -/
structure Shows (entries : List Entry) (s : Snapshot) : Prop where
  pools : s.pools = Repeated.lasts Pool.id (addedPools entries)
  unavailable : ∀ id, id ∈ s.unavailable ↔ .unavailable id ∈ entries

variable {s : Snapshot} {entries : List Entry}

theorem pools_add_of_none {e : Entry} (h : e.pool? = none) : (s.add e).pools = s.pools := by
  cases e with
  | pool p => simp [Entry.pool?] at h
  | price id price => rfl
  | spotPrice pool coinIn coinOut price => rfl
  | unavailable id => rfl

theorem mem_unavailable_add (s : Snapshot) (e : Entry) (id : String) :
    id ∈ (s.add e).unavailable ↔ id ∈ s.unavailable ∨ .unavailable id = e := by
  cases e with
  | unavailable other =>
    change id ∈ other :: s.unavailable ↔ _
    simp [or_comm]
  | price other price => simp [add, withPrice]
  | pool p => simp [add, withPool]
  | spotPrice pool coinIn coinOut price => simp [add, withSpotPrice]

theorem Shows.add (h : Shows entries s) (e : Entry) : Shows (entries ++ [e]) (s.add e) where
  pools := by
    rw [addedPools, List.filterMap_append]
    cases hpool : e.pool? with
    | none => simpa [addedPools, hpool, pools_add_of_none hpool] using h.pools
    | some p =>
      obtain rfl : e = .pool p := by
        cases e <;> simp_all [Entry.pool?]
      change s.pools.filter (fun q => q.id ≠ p.id) ++ [p] = Repeated.lasts Pool.id (_ ++ [p])
      rw [Repeated.lasts_concat, h.pools]
      rfl
  unavailable id := by rw [mem_unavailable_add, h.unavailable, List.mem_append, List.mem_singleton]

theorem others_withPool (s : Snapshot) (p : Pool) :
    (s.withPool p).pools.filter (fun q => q.id ≠ p.id) = s.pools.filter fun q => q.id ≠ p.id := by
  simp [withPool]

theorem shows_ofEntries (entries : List Entry) : Shows entries (ofEntries entries) := by
  induction entries using List.reverseRecOn with
  | nil => exact ⟨rfl, by simp [ofEntries]⟩
  | append_singleton before e ih =>
    have hstep : ofEntries (before ++ [e]) = (ofEntries before).add e := List.foldl_concat ..
    rw [hstep]
    exact ih.add e

theorem Shows.distinct (h : Shows entries s) : (s.pools.map Pool.id).Nodup := by
  rw [h.pools]
  exact Repeated.nodup_lasts _

theorem findPool_eq_some_iff (hdistinct : (s.pools.map Pool.id).Nodup) {id : String} {p : Pool} :
    s.findPool id = some p ↔ p ∈ s.pools ∧ p.id = id := by
  constructor
  · intro h
    exact ⟨List.mem_of_find?_eq_some h, by simpa using List.find?_some h⟩
  · rintro ⟨hmem, rfl⟩
    obtain ⟨q, hq⟩ : ∃ q, s.findPool p.id = some q := by
      rw [← Option.isSome_iff_exists, findPool, List.find?_isSome]
      exact ⟨p, hmem, by simp⟩
    have hid : q.id = p.id := by simpa using List.find?_some hq
    rw [hq, List.inj_on_of_nodup_map hdistinct (List.mem_of_find?_eq_some hq) hmem hid]

theorem Shows.findPool_eq_some_iff (h : Shows entries s) {id : String} {p : Pool} :
    s.findPool id = some p ↔ ∃ before after,
      addedPools entries = before ++ p :: after ∧ p.id = id ∧ ∀ q ∈ after, q.id ≠ id := by
  rw [Snapshot.findPool_eq_some_iff h.distinct, h.pools, Repeated.mem_lasts_iff]
  constructor
  · rintro ⟨⟨before, after, heq, hafter⟩, rfl⟩
    exact ⟨before, after, heq, rfl, hafter⟩
  · rintro ⟨before, after, heq, rfl, hafter⟩
    exact ⟨⟨before, after, heq, hafter⟩, rfl⟩

theorem Shows.findPool_eq_none_iff (h : Shows entries s) {id : String} :
    s.findPool id = none ↔ ∀ p ∈ addedPools entries, p.id ≠ id := by
  rw [findPool, List.find?_eq_none, h.pools]
  simp only [decide_eq_true_eq]
  constructor
  · rintro hnone p hp rfl
    obtain ⟨q, hq, hid⟩ : ∃ q ∈ Repeated.lasts Pool.id (addedPools entries), q.id = p.id :=
      Repeated.exists_mem_lasts hp
    exact hnone q hq hid
  · intro hnone p hp
    exact hnone p (Repeated.mem_of_mem_lasts hp)

/-- However a snapshot is built up, no two of its pools have one id. The list of all pools has the
last version of each id, in the order in which these were added, and asking for one pool gives the
same version, or none exactly if no pool of this id was added, unless the id is unavailable. One more
pool leaves all others as they are. -/
theorem current_pools (entries : List Entry) {τ : Type} (t : τ) :
    let s := ofEntries entries
    let added := addedPools entries
    (s.pools.map Pool.id).Nodup ∧
      (s.provider τ).allPools.run.run t = (.ok (Repeated.lasts Pool.id added), t) ∧
      (∀ id, .unavailable id ∉ entries →
        ∃ found, ((s.provider τ).pool id).run.run t = (.ok found, t) ∧
          (found = none ↔ ∀ p ∈ added, p.id ≠ id) ∧
          ∀ p, found = some p ↔
            ∃ before after, added = before ++ p :: after ∧ p.id = id ∧ ∀ q ∈ after, q.id ≠ id) ∧
      ∀ p, (s.withPool p).pools.filter (fun q => q.id ≠ p.id) =
        s.pools.filter fun q => q.id ≠ p.id := by
  intro s added
  have hshows : Shows entries s := shows_ofEntries entries
  refine ⟨hshows.distinct, ?_, ?_, others_withPool s⟩
  · rw [← hshows.pools]
    rfl
  · intro id hid
    have havailable : s.requireAvailable id = .ok () := by
      simp [requireAvailable, hshows.unavailable, hid]
    have hpool : s.pool id = .ok (s.findPool id) := by
      rw [pool, havailable]
      rfl
    refine ⟨s.findPool id, ?_, hshows.findPool_eq_none_iff, fun p => hshows.findPool_eq_some_iff⟩
    change (s.pool id, t) = _
    rw [hpool]

end MarketQuery.Snapshot
