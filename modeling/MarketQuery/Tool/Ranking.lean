import MarketQuery.Market.Basic
import MarketQuery.Decimal.Binary
import MarketQuery.Text.LetterCase
import MarketQuery.Tool.Argument

/-!
Ranking pools. The largest key comes first in the total order on floats, and pools with equal keys
keep their order.
-/
namespace MarketQuery

inductive RankingKey where
  | tvl
  | apr
  deriving DecidableEq

namespace RankingKey

def figure : RankingKey → Pool → Decimal.Double
  | tvl, p => p.tvl
  | apr, p => p.apr

/-- The key of a name in any letter case. -/
def ofName (name : String) : Except ArgumentFault RankingKey :=
  let word := Text.lower name
  if word = "tvl" then .ok tvl
  else if word = "apr" then .ok apr
  else .error (.unsupportedRanking word)

/-- Places a pool among ranked pools, before the first whose key is smaller. -/
def insert (key : RankingKey) (p : Pool) : List Pool → List Pool
  | [] => [p]
  | q :: rest =>
    if (key.figure q).orderKey < (key.figure p).orderKey then p :: q :: rest
    else q :: insert key p rest

def sort (key : RankingKey) (pools : List Pool) : List Pool :=
  pools.foldl (fun ranked p => key.insert p ranked) []

/-- The first `limit` pools of the ranking. -/
def top (key : RankingKey) (limit : Nat) (pools : List Pool) : List Pool :=
  (key.sort pools).take limit

theorem insert_perm (key : RankingKey) (p : Pool) (pools : List Pool) :
    (key.insert p pools).Perm (p :: pools) := by
  induction pools with
  | nil => exact .refl _
  | cons q rest ih =>
    rw [insert]
    split
    · exact .refl _
    · exact (ih.cons q).trans (.swap p q rest)

theorem sort_perm (key : RankingKey) (pools : List Pool) : (key.sort pools).Perm pools := by
  have hfold : ∀ ranked : List Pool,
      (pools.foldl (fun ranked p => key.insert p ranked) ranked).Perm (ranked ++ pools) := by
    induction pools with
    | nil =>
      intro ranked
      simp
    | cons p rest ih =>
      intro ranked
      have hinsert : (key.insert p ranked ++ rest).Perm (ranked ++ p :: rest) :=
        ((key.insert_perm p ranked).append_right rest).trans List.perm_middle.symm
      exact (ih (key.insert p ranked)).trans hinsert
  exact hfold []

theorem mem_of_mem_top {key : RankingKey} {limit : Nat} {p : Pool} {pools : List Pool}
    (h : p ∈ key.top limit pools) : p ∈ pools :=
  (key.sort_perm pools).mem_iff.mp (List.mem_of_mem_take h)

end RankingKey

end MarketQuery
