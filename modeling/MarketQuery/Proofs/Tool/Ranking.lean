import MarketQuery.Market.Snapshot
import MarketQuery.Proofs.Decimal.TotalOrder
import MarketQuery.Proofs.Text.LowerCase
import MarketQuery.Proofs.Tool.Reports

/-!
The ranking of pools. Pools that hold the same data are still told apart by their places in the
list that the source answers with, so a ranking is a list of places here. Every insertion keeps the
places in order, larger keys first and, among equal keys, smaller places first; so does the sort,
and the tool puts out the pools at the first of these places.
-/
namespace MarketQuery

namespace RankingKey

def word : RankingKey → String
  | tvl => "tvl"
  | apr => "apr"

/-- The name spells the key, in small or capital letters. -/
def IsNamed (key : RankingKey) (name : String) : Prop :=
  name.toList.map Char.toLower = key.word.toList

instance (key : RankingKey) : DecidablePred key.IsNamed :=
  fun _ => inferInstanceAs (Decidable (_ = _))

theorem isNamed_iff {key : RankingKey} {name : String} :
    key.IsNamed name ↔ Text.lower name = key.word := by
  have hplain : ∀ c ∈ key.word.toList, Text.IsPlain c := by
    cases key <;> simp [word] <;> decide
  exact (Text.lower_eq_iff hplain).symm

theorem ofName_eq_ok_iff {name : String} {key : RankingKey} :
    ofName name = .ok key ↔ key.IsNamed name := by
  rw [isNamed_iff, ofName]
  split
  · next htvl => cases key <;> simp [htvl, word]
  · split
    · next happr => cases key <;> simp [happr, word]
    · next htvl happr => cases key <;> simp [htvl, happr, word]

section Places

variable {n : Nat} {key : RankingKey} {f : Fin n → Pool} {places : List (Fin n)}

def Precedes (key : RankingKey) (f : Fin n → Pool) (i j : Fin n) : Prop :=
  (key.figure (f j)).orderKey < (key.figure (f i)).orderKey ∨
    key.figure (f j) = key.figure (f i) ∧ i < j

theorem Precedes.key_le {i j : Fin n} (h : key.Precedes f i j) :
    (key.figure (f j)).orderKey ≤ (key.figure (f i)).orderKey := by
  rcases h with hlt | ⟨heq, -⟩
  · exact hlt.le
  · rw [heq]

/-- One insertion puts one more place among places in order, none of which comes later in the list
that is ranked. -/
theorem exists_insert (h : places.Pairwise (key.Precedes f)) {i : Fin n}
    (hi : ∀ j ∈ places, j < i) :
    ∃ placed : List (Fin n), placed.Perm (i :: places) ∧ placed.Pairwise (key.Precedes f) ∧
      placed.map f = key.insert (f i) (places.map f) := by
  induction places with
  | nil => exact ⟨[i], .refl _, List.pairwise_singleton _ i, rfl⟩
  | cons j rest ih =>
    obtain ⟨hj, hrest⟩ := List.pairwise_cons.mp h
    rw [List.map_cons, insert]
    split
    · next hlarger =>
      refine ⟨i :: j :: rest, .refl _, List.pairwise_cons.mpr ⟨?_, h⟩, rfl⟩
      intro k hk
      rcases List.mem_cons.mp hk with rfl | hk
      · exact .inl hlarger
      · exact .inl ((hj k hk).key_le.trans_lt hlarger)
    · next hnot =>
      obtain ⟨placed, hperm, hordered, hmap⟩ :=
        ih hrest fun k hk => hi k (List.mem_cons_of_mem j hk)
      refine ⟨j :: placed, (hperm.cons j).trans (.swap i j rest), ?_, ?_⟩
      · refine List.pairwise_cons.mpr ⟨?_, hordered⟩
        intro k hk
        rcases List.mem_cons.mp (hperm.mem_iff.mp hk) with rfl | hk
        · -- The new place goes behind an equal key, and it is the later one.
          rcases (not_lt.mp hnot).lt_or_eq with hlt | heq
          · exact .inl hlt
          · exact .inr ⟨Decimal.Double.orderKey_injective heq, hi j List.mem_cons_self⟩
        · exact hj k hk
      · rw [List.map_cons, hmap]

/-- The same for all places that are still to come, in their order. -/
theorem exists_foldl (h : places.Pairwise (key.Precedes f)) {coming : List (Fin n)}
    (hcoming : coming.Pairwise (· < ·)) (hlater : ∀ i ∈ coming, ∀ j ∈ places, j < i) :
    ∃ placed : List (Fin n), placed.Perm (places ++ coming) ∧ placed.Pairwise (key.Precedes f) ∧
      placed.map f =
        (coming.map f).foldl (fun ranked p => key.insert p ranked) (places.map f) := by
  induction coming generalizing places with
  | nil => exact ⟨places, by simp, h, rfl⟩
  | cons i coming ih =>
    obtain ⟨hfirst, hcoming⟩ := List.pairwise_cons.mp hcoming
    obtain ⟨placed, hperm, hordered, hmap⟩ := exists_insert h (hlater i List.mem_cons_self)
    have hstep : ∀ k ∈ coming, ∀ j ∈ placed, j < k := by
      intro k hk j hj
      rcases List.mem_cons.mp (hperm.mem_iff.mp hj) with rfl | hj
      · exact hfirst k hk
      · exact hlater k (List.mem_cons_of_mem i hk) j hj
    obtain ⟨all, hall, hsorted, hfold⟩ := ih hordered hcoming hstep
    refine ⟨all, hall.trans ?_, hsorted, ?_⟩
    · exact (hperm.append_right coming).trans List.perm_middle.symm
    · rw [hfold, hmap, List.map_cons, List.foldl_cons]

end Places

/-- The first pool's key is larger in the total order on floats. -/
def Above (key : RankingKey) (p q : Pool) : Prop :=
  Decimal.Below (key.figure q).binary (key.figure p).binary

theorem above_iff {key : RankingKey} {p q : Pool} :
    key.Above p q ↔ (key.figure q).orderKey < (key.figure p).orderKey :=
  Decimal.Double.orderKey_lt_iff.symm

/-- The places of all pools, with keys that never increase. Pools with one key keep the order in
which they were listed. -/
structure Ranks (key : RankingKey) (pools : List Pool) (places : List (Fin pools.length)) :
    Prop where
  complete : places.Perm (List.finRange pools.length)
  descending : places.Pairwise fun i j => ¬ key.Above pools[j] pools[i]
  stable : places.Pairwise fun i j => key.figure pools[i] = key.figure pools[j] → i < j

/-- As many places as the limit allows, none twice, and the keys at the other places are at most
the keys at these. -/
structure Keeps (key : RankingKey) (pools : List Pool) (limit : Nat)
    (kept : List (Fin pools.length)) : Prop where
  length_eq : kept.length = min limit pools.length
  nodup : kept.Nodup
  omitted : ∀ i ∈ kept, ∀ j, j ∉ kept → ¬ key.Above pools[j] pools[i]

variable {key : RankingKey} {pools : List Pool} {places : List (Fin pools.length)}

theorem Ranks.keeps (h : key.Ranks pools places) (limit : Nat) :
    key.Keeps pools limit (places.take limit) where
  length_eq := by rw [List.length_take, h.complete.length_eq, List.length_finRange]
  nodup := (h.complete.nodup_iff.mpr (List.nodup_finRange _)).sublist (List.take_sublist _ _)
  omitted := by
    intro i hi j hj
    have hall : j ∈ places.take limit ++ places.drop limit := by
      rw [List.take_append_drop]
      exact h.complete.mem_iff.mpr (List.mem_finRange j)
    have hdropped := (List.mem_append.mp hall).resolve_left hj
    have hsplit := h.descending
    rw [← List.take_append_drop limit places] at hsplit
    exact (List.pairwise_append.mp hsplit).2.2 i hi j hdropped

/-- The sort leaves the pools in the order of a ranking. -/
theorem exists_ranks (key : RankingKey) (pools : List Pool) :
    ∃ places : List (Fin pools.length), key.Ranks pools places ∧
      places.map (fun i => pools[i]) = key.sort pools := by
  have hempty : ([] : List (Fin pools.length)).Pairwise (key.Precedes fun i => pools[i]) := .nil
  obtain ⟨places, hperm, hordered, hmap⟩ :=
    exists_foldl hempty (List.pairwise_lt_finRange pools.length) (by simp)
  refine ⟨places, ⟨by simpa using hperm, ?_, ?_⟩, ?_⟩
  · refine hordered.imp fun hprecedes => ?_
    rw [above_iff, not_lt]
    exact hprecedes.key_le
  · refine hordered.imp fun hprecedes heq => ?_
    rcases hprecedes with hlt | ⟨-, hless⟩
    · rw [heq] at hlt
      exact absurd hlt (lt_irrefl _)
    · exact hless
  · rw [hmap, sort]
    simp

end RankingKey

namespace MarketTool

variable {σ : Type} {source : Provider σ} {args : Arguments}

theorem rankingLimit_of_le {limit : Int} (hlimit : args.integer "limit" = .ok limit)
    (hone : 1 ≤ limit) : rankingLimit args = .ok limit.toNat := by
  rw [rankingLimit, hlimit]
  exact if_neg (by omega)

theorem run_topPools {s s' : σ} {pools : List Pool} {key : RankingKey} {limit : Nat} {name : String}
    (hpools : source.allPools.run.run s = (.ok pools, s')) (hlimit : rankingLimit args = .ok limit)
    (hname : args.string "sort_by" = .ok name) (hkey : key.IsNamed name) :
    ((topPools source).invoke args).run.run s =
      (.ok (.array ((key.top limit pools).map Pool.json)), s') := by
  refine run_bind_eq_ok_iff.mpr ⟨limit, s, Working.run_argument_eq_ok_iff.mpr ⟨hlimit, rfl⟩, ?_⟩
  refine run_bind_eq_ok_iff.mpr ⟨name, s, Working.run_argument_eq_ok_iff.mpr ⟨hname, rfl⟩, ?_⟩
  refine run_bind_eq_ok_iff.mpr ⟨pools, s', Working.run_market_eq_ok_iff.mpr hpools, ?_⟩
  exact run_bind_eq_ok_iff.mpr
    ⟨key, s', Working.run_argument_eq_ok_iff.mpr ⟨RankingKey.ofName_eq_ok_iff.mpr hkey, rfl⟩, rfl⟩

theorem exists_isNamed_of_run_topPools {s s' : σ} {output : Json}
    (hrun : ((topPools source).invoke args).run.run s = (.ok output, s')) :
    ∃ name, args.string "sort_by" = .ok name ∧ ∃ key : RankingKey, key.IsNamed name := by
  obtain ⟨limit, s₁, hlimit, hrun⟩ := run_bind_eq_ok_iff.mp hrun
  obtain ⟨name, s₂, hname, hrun⟩ := run_bind_eq_ok_iff.mp hrun
  obtain ⟨pools, s₃, hpools, hrun⟩ := run_bind_eq_ok_iff.mp hrun
  obtain ⟨key, s₄, hkey, hrun⟩ := run_bind_eq_ok_iff.mp hrun
  exact ⟨name, (Working.run_argument_eq_ok_iff.mp hname).1, key,
    RankingKey.ofName_eq_ok_iff.mp (Working.run_argument_eq_ok_iff.mp hkey).1⟩

/-- What is not a number comes first without a sign and last with one. The positive zeros follow as
they are listed, and the negative zero comes after them. -/
example :
    let pool (id : String) (word : UInt64) : Pool := ⟨id, [], [], 0.25, ⟨word⟩, 18.5⟩
    let negativeNan := pool "a" 0xFFF8000000000000
    let negativeZero := pool "b" 0x8000000000000000
    let nan := pool "d" 0x7FF8000000000000
    RankingKey.tvl.top 5 [negativeNan, negativeZero, pool "c" 0, nan, pool "e" 0] =
      [nan, pool "c" 0, pool "e" 0, negativeZero, negativeNan] := by
  rfl

end MarketTool

end MarketQuery
