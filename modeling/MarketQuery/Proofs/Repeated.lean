import Mathlib.Data.List.Induction
import Mathlib.Data.List.Nodup
import Mathlib.Data.List.Pairwise

/-!
Lists in which keys repeat. The first entry of every key and the last one are kept, in the order in
which they stand. Read backwards, the last entries are the first ones.
-/
namespace MarketQuery.Repeated

variable {α : Type} (key : α → String)

/-- The first entry of every key. -/
def firsts : List α → List α
  | [] => []
  | x :: rest => x :: (firsts rest).filter fun y => key y ≠ key x

/-- The last entry of every key. -/
def lasts (l : List α) : List α :=
  l.pwFilter fun x y => key y ≠ key x

variable {key} {l : List α} {x : α}

/-- A key that no last entry has is a key of no entry. -/
theorem forall_mem_lasts_iff : (∀ y ∈ lasts key l, key y ≠ key x) ↔ ∀ y ∈ l, key y ≠ key x := by
  refine List.forall_mem_pwFilter ?_ x l
  intro first second third hne
  by_cases hsame : key second = key first
  · exact .inr (hsame ▸ hne)
  · exact .inl hsame

theorem lasts_cons_of_last (h : ∀ y ∈ l, key y ≠ key x) :
    lasts key (x :: l) = x :: lasts key l :=
  List.pwFilter_cons_of_pos (forall_mem_lasts_iff.mpr h)

theorem lasts_cons_of_later (h : ∃ y ∈ l, key y = key x) :
    lasts key (x :: l) = lasts key l := by
  refine List.pwFilter_cons_of_neg fun hlast => ?_
  obtain ⟨y, hy, heq⟩ := h
  exact forall_mem_lasts_iff.mp hlast y hy heq

/-- One more entry takes the place of the earlier one of its key. -/
theorem lasts_concat (l : List α) (x : α) :
    lasts key (l ++ [x]) = ((lasts key l).filter fun y => key y ≠ key x) ++ [x] := by
  induction l with
  | nil => exact lasts_cons_of_last (List.forall_mem_nil _)
  | cons first rest ih =>
    rw [List.cons_append]
    by_cases hlater : ∃ y ∈ rest, key y = key first
    · have hmore : ∃ y ∈ rest ++ [x], key y = key first :=
        hlater.imp fun y hy => ⟨List.mem_append_left _ hy.1, hy.2⟩
      rw [lasts_cons_of_later hlater, lasts_cons_of_later hmore, ih]
    · have hlast : ∀ y ∈ rest, key y ≠ key first := fun y hy heq => hlater ⟨y, hy, heq⟩
      rw [lasts_cons_of_last hlast]
      by_cases hx : key x = key first
      · rw [lasts_cons_of_later ⟨x, by simp, hx⟩, ih]
        simp [hx]
      · have hmore : ∀ y ∈ rest ++ [x], key y ≠ key first := by
          intro y hy
          rcases List.mem_append.mp hy with hy | hy
          · exact hlast y hy
          · rwa [List.mem_singleton.mp hy]
        rw [lasts_cons_of_last hmore, ih]
        simp [Ne.symm hx]

theorem nodup_lasts (l : List α) : ((lasts key l).map key).Nodup := by
  rw [List.Nodup, List.pairwise_map]
  exact (List.pairwise_pwFilter l).imp Ne.symm

/-- Behind a last entry there is none of its key. -/
theorem mem_lasts_iff {y : α} : y ∈ lasts key l ↔
    ∃ before after, l = before ++ y :: after ∧ ∀ z ∈ after, key z ≠ key y := by
  induction l with
  | nil => simp [lasts]
  | cons x rest ih =>
    have hsplit : (∃ before after, x :: rest = before ++ y :: after ∧ ∀ z ∈ after, key z ≠ key y) ↔
        (y = x ∧ ∀ z ∈ rest, key z ≠ key x) ∨ y ∈ lasts key rest := by
      rw [ih]
      constructor
      · rintro ⟨before, after, heq, hafter⟩
        rcases List.cons_eq_append_iff.mp heq with ⟨-, hhere⟩ | ⟨front, -, hrest⟩
        · obtain ⟨rfl, rfl⟩ := List.cons.inj hhere
          exact .inl ⟨rfl, hafter⟩
        · exact .inr ⟨front, after, hrest, hafter⟩
      · rintro (⟨rfl, hlast⟩ | ⟨before, after, rfl, hafter⟩)
        · exact ⟨[], rest, rfl, hlast⟩
        · exact ⟨x :: before, after, rfl, hafter⟩
    rw [hsplit]
    by_cases hlater : ∃ z ∈ rest, key z = key x
    · have hnot : ¬ ∀ z ∈ rest, key z ≠ key x := fun h => hlater.elim fun z hz => h z hz.1 hz.2
      rw [lasts_cons_of_later hlater]
      simp [hnot]
    · have hlast : ∀ z ∈ rest, key z ≠ key x := fun z hz heq => hlater ⟨z, hz, heq⟩
      rw [lasts_cons_of_last hlast, List.mem_cons, and_iff_left hlast]

theorem mem_of_mem_lasts {y : α} (h : y ∈ lasts key l) : y ∈ l :=
  List.pwFilter_subset l h

/-- Every key has a last entry. -/
theorem exists_mem_lasts {y : α} (h : y ∈ l) : ∃ z ∈ lasts key l, key z = key y := by
  by_contra hnone
  exact forall_mem_lasts_iff.mp (fun z hz heq => hnone ⟨z, hz, heq⟩) y h rfl

theorem reverse_lasts (l : List α) : (lasts key l.reverse).reverse = firsts key l := by
  induction l with
  | nil => rfl
  | cons x rest ih =>
    rw [List.reverse_cons, lasts_concat, List.reverse_append, ← List.filter_reverse, ih]
    rfl

theorem mem_firsts_iff {y : α} : y ∈ firsts key l ↔
    ∃ before after, l = before ++ y :: after ∧ ∀ z ∈ before, key z ≠ key y := by
  rw [← reverse_lasts, List.mem_reverse, mem_lasts_iff]
  constructor
  · rintro ⟨before, after, heq, hafter⟩
    refine ⟨after.reverse, before.reverse, ?_, fun z hz => hafter z (List.mem_reverse.mp hz)⟩
    simpa using congrArg List.reverse heq
  · rintro ⟨before, after, rfl, hbefore⟩
    exact ⟨after.reverse, before.reverse, by simp, fun z hz => hbefore z (List.mem_reverse.mp hz)⟩

theorem nodup_firsts (l : List α) : ((firsts key l).map key).Nodup := by
  rw [← reverse_lasts, List.map_reverse, List.nodup_reverse]
  exact nodup_lasts _

theorem firsts_concat_of_new (h : ∀ y ∈ l, key y ≠ key x) :
    firsts key (l ++ [x]) = firsts key l ++ [x] := by
  have hnew : ∀ y ∈ l.reverse, key y ≠ key x := fun y hy => h y (List.mem_reverse.mp hy)
  rw [← reverse_lasts, List.reverse_concat, lasts_cons_of_last hnew, List.reverse_cons, reverse_lasts]

theorem firsts_concat_of_known (h : ∃ y ∈ l, key y = key x) :
    firsts key (l ++ [x]) = firsts key l := by
  have hknown : ∃ y ∈ l.reverse, key y = key x := by simpa using h
  rw [← reverse_lasts, List.reverse_concat, lasts_cons_of_later hknown, reverse_lasts]

theorem mem_of_mem_firsts {y : α} (h : y ∈ firsts key l) : y ∈ l := by
  rw [← reverse_lasts, List.mem_reverse] at h
  exact List.mem_reverse.mp (mem_of_mem_lasts h)

/-- Every key has a first entry. -/
theorem exists_mem_firsts {y : α} (h : y ∈ l) : ∃ z ∈ firsts key l, key z = key y := by
  obtain ⟨z, hz, hkey⟩ := exists_mem_lasts (List.mem_reverse.mpr h)
  rw [← List.mem_reverse, reverse_lasts] at hz
  exact ⟨z, hz, hkey⟩

end MarketQuery.Repeated
