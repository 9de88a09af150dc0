/-!
Cutting a text: at the first place where a marker occurs, and where a run of characters of one
class ends.
-/
namespace MarketQuery.Text

/-- What stands before and after the first occurrence of a marker. -/
def cutAt (marker : List Char) : List Char → Option (List Char × List Char)
  | [] => if marker = [] then some ([], []) else none
  | c :: rest =>
    if marker.isPrefixOf (c :: rest) then some ([], (c :: rest).drop marker.length)
    else (cutAt marker rest).map fun parts => (c :: parts.1, parts.2)

theorem cutAt_eq_append {marker s before after : List Char}
    (h : cutAt marker s = some (before, after)) : s = before ++ marker ++ after := by
  induction s generalizing before with
  | nil =>
    by_cases hm : marker = []
    · simp [cutAt, hm] at h
      simp [h, hm]
    · simp [cutAt, hm] at h
  | cons c rest ih =>
    unfold cutAt at h
    split at h
    · next hp =>
      obtain ⟨t, ht⟩ := List.isPrefixOf_iff_prefix.mp hp
      simp only [Option.some.injEq, Prod.mk.injEq] at h
      rw [← h.1, ← h.2, ← ht]
      simp
    · obtain ⟨⟨front, tail⟩, hparts, heq⟩ := Option.map_eq_some_iff.mp h
      simp only [Prod.mk.injEq] at heq
      obtain ⟨rfl, rfl⟩ := heq
      rw [ih hparts]
      simp

theorem length_after_cutAt {marker s before after : List Char}
    (h : cutAt marker s = some (before, after)) :
    after.length + marker.length ≤ s.length := by
  rw [cutAt_eq_append h]
  simp only [List.length_append]
  omega

theorem cutAt_eq_none_iff (marker s : List Char) :
    cutAt marker s = none ↔ ¬ marker <:+: s := by
  induction s with
  | nil => simp [cutAt]
  | cons c rest ih =>
    rw [cutAt, List.infix_cons_iff, ← List.isPrefixOf_iff_prefix]
    split
    · next h => simp [h]
    · next h => simp [h, ih]

/-- A marker does not occur before its first occurrence. -/
theorem not_infix_before_cutAt {marker s before after : List Char} (hne : marker ≠ [])
    (h : cutAt marker s = some (before, after)) : ¬ marker <:+: before := by
  induction s generalizing before with
  | nil => simp [cutAt, hne] at h
  | cons c rest ih =>
    unfold cutAt at h
    split at h
    · simp only [Option.some.injEq, Prod.mk.injEq] at h
      simpa [← h.1] using hne
    · next hprefix =>
      obtain ⟨⟨front, tail⟩, hparts, heq⟩ := Option.map_eq_some_iff.mp h
      simp only [Prod.mk.injEq] at heq
      obtain ⟨rfl, rfl⟩ := heq
      rw [List.infix_cons_iff, not_or]
      refine ⟨fun hfront => hprefix (List.isPrefixOf_iff_prefix.mpr ?_), ih hparts⟩
      rw [cutAt_eq_append hparts]
      exact hfront.trans ⟨marker ++ tail, by simp⟩

/-- A character does not occur before its first occurrence. -/
theorem not_mem_before_cutAt {c : Char} {s before after : List Char}
    (h : cutAt [c] s = some (before, after)) : c ∉ before := by
  intro hmem
  obtain ⟨front, back, rfl⟩ := List.append_of_mem hmem
  exact not_infix_before_cutAt (by simp) h ⟨front, back, by simp⟩

/-- A text is cut at a character where this character comes first. -/
theorem cutAt_append_cons {c : Char} {before : List Char} (h : c ∉ before) (after : List Char) :
    cutAt [c] (before ++ c :: after) = some (before, after) := by
  induction before with
  | nil => simp [cutAt, List.isPrefixOf]
  | cons d rest ih =>
    simp only [List.mem_cons, not_or] at h
    have hd : [c].isPrefixOf (d :: (rest ++ c :: after)) = false := by
      simpa [List.isPrefixOf] using h.1
    rw [List.cons_append, cutAt, hd, ih h.2]
    simp

/-- A marker is not helped by characters before the text that it has not itself. -/
theorem infix_of_infix_append {marker front text : List Char} (h : ∀ c ∈ front, c ∉ marker)
    (hin : marker <:+: front ++ text) : marker <:+: text := by
  induction front with
  | nil => exact hin
  | cons c front ih =>
    simp only [List.mem_cons, forall_eq_or_imp] at h
    rw [List.cons_append, List.infix_cons_iff] at hin
    rcases hin with hprefix | hrest
    · cases marker with
      | nil => exact List.nil_infix
      | cons d marker =>
        obtain rfl := (List.cons_prefix_cons.mp hprefix).1
        exact absurd List.mem_cons_self h.1
    · exact ih h.2 hrest

theorem infix_of_append_infix {marker text back : List Char} (h : ∀ c ∈ back, c ∉ marker)
    (hin : marker <:+: text ++ back) : marker <:+: text := by
  rw [← List.reverse_infix, List.reverse_append] at hin
  rw [← List.reverse_infix]
  exact infix_of_infix_append (by simpa using h) hin

/-- A run of characters of one class ends where something else follows. -/
theorem takeWhile_run {p : Char → Bool} {run rest : List Char} (hrun : ∀ c ∈ run, p c = true)
    (hrest : ∀ c ∈ rest.head?, p c = false) : (run ++ rest).takeWhile p = run := by
  rw [List.takeWhile_append_of_pos hrun]
  cases rest with
  | nil => simp
  | cons c tail =>
    have hc : p c = false := hrest c rfl
    simp [hc]

theorem dropWhile_run {p : Char → Bool} {run rest : List Char} (hrun : ∀ c ∈ run, p c = true)
    (hrest : ∀ c ∈ rest.head?, p c = false) : (run ++ rest).dropWhile p = rest := by
  rw [List.dropWhile_append_of_pos hrun]
  cases rest with
  | nil => rfl
  | cons c tail =>
    have hc : p c = false := hrest c rfl
    simp [hc]

/-- A run does not go past a character that stops it. -/
theorem takeWhile_append_stop {p : Char → Bool} {c : Char} (hc : p c = false)
    (front rest : List Char) : (front ++ c :: rest).takeWhile p = front.takeWhile p := by
  induction front with
  | nil => simp [hc]
  | cons d front ih =>
    rw [List.cons_append, List.takeWhile_cons, List.takeWhile_cons, ih]

theorem dropWhile_append_stop {p : Char → Bool} {c : Char} (hc : p c = false)
    (front rest : List Char) :
    (front ++ c :: rest).dropWhile p = front.dropWhile p ++ c :: rest := by
  induction front with
  | nil => simp [hc]
  | cons d front ih =>
    rw [List.cons_append, List.dropWhile_cons, List.dropWhile_cons, ih]
    split <;> rfl

/-- A text is parted in one way into a run and something else. -/
theorem run_append_inj {p : Char → Bool} {run run' rest rest' : List Char}
    (hrun : ∀ c ∈ run, p c = true) (hrun' : ∀ c ∈ run', p c = true)
    (hrest : ∀ c ∈ rest.head?, p c = false) (hrest' : ∀ c ∈ rest'.head?, p c = false)
    (h : run ++ rest = run' ++ rest') : run = run' ∧ rest = rest' := by
  constructor
  · rw [← takeWhile_run hrun hrest, h, takeWhile_run hrun' hrest']
  · rw [← dropWhile_run hrun hrest, h, dropWhile_run hrun' hrest']

end MarketQuery.Text
