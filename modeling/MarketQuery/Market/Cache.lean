import MarketQuery.Json.Value

/-!
Answers kept for a while. An answer is good until it expires, and expired ones are dropped when
another is stored. Dropping them changes no look-up at the same time or later (`find?_prune`).
-/
namespace MarketQuery

structure KeptAnswer where
  body : Json
  /-- Milliseconds. -/
  expiresAt : Nat

/-- Answers by the names of their request paths. -/
abbrev AnswerCache := List (String × KeptAnswer)

namespace AnswerCache

/-- The kept answer that is still good. -/
def find? (c : AnswerCache) (now : Nat) (name : String) : Option Json :=
  ((Keyed.get? name c).filter (now < ·.expiresAt)).map KeptAnswer.body

def prune (c : AnswerCache) (now : Nat) : AnswerCache :=
  c.filter (now < ·.2.expiresAt)

/-- Keeps an answer for a lifetime; one without a lifetime is not kept. -/
def store (c : AnswerCache) (now lifetime : Nat) (name : String) (body : Json) : AnswerCache :=
  if lifetime = 0 then c else Keyed.insert name ⟨body, now + lifetime⟩ (c.prune now)

theorem find?_eq_some_iff {c : AnswerCache} {now : Nat} {name : String} {body : Json} :
    c.find? now name = some body ↔
      ∃ kept, Keyed.get? name c = some kept ∧ now < kept.expiresAt ∧ kept.body = body := by
  simp [find?, Option.filter_eq_some_iff, and_assoc]

/-- What has expired stays expired. -/
theorem find?_later {c : AnswerCache} {now later : Nat} {name : String} (hle : now ≤ later)
    (hnone : c.find? now name = none) : c.find? later name = none := by
  rw [Option.eq_none_iff_forall_ne_some] at hnone ⊢
  intro body hbody
  obtain ⟨kept, hkept, hgood, heq⟩ := find?_eq_some_iff.mp hbody
  exact hnone body (find?_eq_some_iff.mpr ⟨kept, hkept, Nat.lt_of_le_of_lt hle hgood, heq⟩)

theorem sorted_prune {c : AnswerCache} (hsorted : Keyed.Sorted c) (now : Nat) :
    Keyed.Sorted (c.prune now) :=
  hsorted.filter _

theorem sorted_store {c : AnswerCache} (hsorted : Keyed.Sorted c) (now lifetime : Nat)
    (name : String) (body : Json) : Keyed.Sorted (c.store now lifetime name body) := by
  unfold store
  split
  · exact hsorted
  · exact (sorted_prune hsorted now).insert name _

theorem find?_prune {c : AnswerCache} (hsorted : Keyed.Sorted c) {now later : Nat}
    (hle : now ≤ later) (name : String) : (c.prune now).find? later name = c.find? later name := by
  apply Option.ext
  intro body
  simp only [find?_eq_some_iff, prune, hsorted.get?_filter, Option.filter_eq_some_iff,
    decide_eq_true_eq]
  constructor
  · rintro ⟨kept, ⟨hkept, -⟩, hgood, heq⟩
    exact ⟨kept, hkept, hgood, heq⟩
  · rintro ⟨kept, hkept, hgood, heq⟩
    exact ⟨kept, ⟨hkept, Nat.lt_of_le_of_lt hle hgood⟩, hgood, heq⟩

theorem find?_insert (c : AnswerCache) (later : Nat) (name other : String) (kept : KeptAnswer) :
    AnswerCache.find? (Keyed.insert name kept c) later other =
      if other = name then (if later < kept.expiresAt then some kept.body else none)
      else c.find? later other := by
  by_cases hother : other = name
  · by_cases hgood : later < kept.expiresAt <;>
      simp [find?, Keyed.get?_insert, hother, hgood, Option.filter]
  · simp [find?, Keyed.get?_insert, hother]

/-- An answer that was not there is found until it expires, and every other one as before. -/
theorem find?_store {c : AnswerCache} (hsorted : Keyed.Sorted c) {now later : Nat}
    (hle : now ≤ later) {name : String} (hnone : c.find? now name = none) (lifetime : Nat)
    (body : Json) (other : String) :
    (c.store now lifetime name body).find? later other =
      if other = name then (if later < now + lifetime then some body else none)
      else c.find? later other := by
  unfold store
  split
  · next hzero =>
    by_cases hother : other = name
    · have hexpired : ¬ later < now + lifetime := by omega
      simp [hother, hexpired, find?_later hle hnone]
    · simp [hother]
  · rw [find?_insert, find?_prune hsorted hle]

end AnswerCache

end MarketQuery
