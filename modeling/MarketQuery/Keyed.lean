/-!
Lists of values under text keys, kept in key order. A key occurs once, and a later value takes the
place of an earlier one. The lookup laws hold for any list.
-/
namespace MarketQuery.Keyed

variable {α : Type _}

def get? (key : String) (entries : List (String × α)) : Option α :=
  entries.lookup key

def insert (key : String) (v : α) : List (String × α) → List (String × α)
  | [] => [(key, v)]
  | (k, w) :: rest =>
    if key < k then (key, v) :: (k, w) :: rest
    else if key = k then (key, v) :: rest
    else (k, w) :: insert key v rest

def erase (key : String) (entries : List (String × α)) : List (String × α) :=
  entries.filter fun e => e.1 ≠ key

def ofList (entries : List (String × α)) : List (String × α) :=
  entries.foldl (fun m e => insert e.1 e.2 m) []

/-- Keys ascend strictly. -/
def Sorted (entries : List (String × α)) : Prop :=
  entries.Pairwise fun a b => a.1 < b.1

theorem get?_nil (key : String) : get? key ([] : List (String × α)) = none := rfl

theorem get?_cons (key k : String) (v : α) (rest : List (String × α)) :
    get? key ((k, v) :: rest) = if key = k then some v else get? key rest := by
  change (match key == k with
    | true => some v
    | false => get? key rest) = _
  by_cases h : key = k
  · simp [h]
  · simp [h, beq_eq_false_iff_ne.mpr h]

theorem get?_insert (key other : String) (v : α) (entries : List (String × α)) :
    get? other (insert key v entries) = if other = key then some v else get? other entries := by
  induction entries with
  | nil => simp [insert, get?_cons, get?_nil]
  | cons e rest ih =>
    obtain ⟨k, w⟩ := e
    by_cases hlt : key < k
    · simp [insert, hlt, get?_cons]
    · by_cases heq : key = k
      · subst heq
        by_cases ho : other = key <;> simp [insert, get?_cons, ho]
      · simp only [insert, hlt, heq, if_false, get?_cons, ih]
        by_cases hk : other = k
        · subst hk
          simp [Ne.symm heq]
        · simp [hk]

theorem get?_erase (key other : String) (entries : List (String × α)) :
    get? other (erase key entries) = if other = key then none else get? other entries := by
  induction entries with
  | nil => simp [erase, get?_nil]
  | cons e rest ih =>
    obtain ⟨k, w⟩ := e
    by_cases hk : k = key
    · have hrest : erase key ((k, w) :: rest) = erase key rest := by simp [erase, hk]
      rw [hrest, ih, get?_cons]
      by_cases ho : other = key <;> simp [ho, hk]
    · have hrest : erase key ((k, w) :: rest) = (k, w) :: erase key rest := by simp [erase, hk]
      rw [hrest, get?_cons, get?_cons, ih]
      by_cases ho : other = k
      · simp [ho, hk]
      · simp [ho]

/-- Entries with all their values mapped. -/
theorem get?_map {β : Type _} (f : α → β) (key : String) (entries : List (String × α)) :
    get? key (entries.map (Prod.map id f)) = (get? key entries).map f := by
  induction entries with
  | nil => rfl
  | cons e rest ih =>
    obtain ⟨k, v⟩ := e
    rw [List.map_cons, Prod.map_apply, id_eq, get?_cons, get?_cons, ih]
    split <;> rfl

theorem insert_map {β : Type _} (f : α → β) (key : String) (v : α) (entries : List (String × α)) :
    insert key (f v) (entries.map (Prod.map id f)) =
      (insert key v entries).map (Prod.map id f) := by
  induction entries with
  | nil => rfl
  | cons e rest ih =>
    obtain ⟨k, w⟩ := e
    simp only [List.map_cons, Prod.map_apply, id_eq, insert, ih]
    split
    · rfl
    · split <;> rfl

theorem mem_of_get? {key : String} {v : α} {entries : List (String × α)}
    (h : get? key entries = some v) : (key, v) ∈ entries := by
  induction entries with
  | nil => simp [get?_nil] at h
  | cons e rest ih =>
    obtain ⟨k, w⟩ := e
    rw [get?_cons] at h
    by_cases hk : key = k
    · simp only [hk, if_true, Option.some.injEq] at h
      simp [hk, h]
    · simp only [hk, if_false] at h
      exact List.mem_cons_of_mem _ (ih h)

theorem isSome_get?_iff {key : String} {entries : List (String × α)} :
    (get? key entries).isSome = true ↔ key ∈ entries.map Prod.fst := by
  induction entries with
  | nil => simp [get?_nil]
  | cons e rest ih =>
    obtain ⟨k, v⟩ := e
    rw [get?_cons, List.map_cons, List.mem_cons, ← ih]
    by_cases hk : key = k <;> simp [hk]

/-- A look-up takes the first entry of its key. -/
theorem find?_of_get? {key : String} {v : α} {entries : List (String × α)}
    (h : get? key entries = some v) : entries.find? (fun e => e.1 = key) = some (key, v) := by
  induction entries with
  | nil => simp [get?_nil] at h
  | cons e rest ih =>
    obtain ⟨k, w⟩ := e
    rw [get?_cons] at h
    by_cases hk : key = k
    · obtain rfl : w = v := by simpa [hk] using h
      simp [hk]
    · rw [if_neg hk] at h
      rw [List.find?_cons_of_neg (by simpa using Ne.symm hk), ih h]

theorem Sorted.get?_of_mem {key : String} {v : α} {entries : List (String × α)}
    (hsorted : Sorted entries) (h : (key, v) ∈ entries) : get? key entries = some v := by
  induction entries with
  | nil => simp at h
  | cons e rest ih =>
    obtain ⟨k, w⟩ := e
    obtain ⟨hbelow, hrest⟩ := List.pairwise_cons.mp hsorted
    rw [get?_cons]
    rcases List.mem_cons.mp h with heq | hmem
    · obtain ⟨rfl, rfl⟩ := Prod.mk.inj heq
      simp
    · have hlt : k < key := hbelow _ hmem
      have hne : key ≠ k := fun heq => String.lt_irrefl k (heq ▸ hlt)
      simp [hne, ih hrest hmem]

theorem Sorted.get?_eq_some_iff {key : String} {v : α} {entries : List (String × α)}
    (hsorted : Sorted entries) : get? key entries = some v ↔ (key, v) ∈ entries :=
  ⟨mem_of_get?, hsorted.get?_of_mem⟩

theorem eq_or_mem_of_mem_insert {key : String} {v : α} {e : String × α}
    {entries : List (String × α)} (h : e ∈ insert key v entries) : e = (key, v) ∨ e ∈ entries := by
  induction entries with
  | nil => simpa [insert] using h
  | cons first rest ih =>
    obtain ⟨k, w⟩ := first
    unfold insert at h
    split at h
    · simpa using h
    · split at h
      · rcases List.mem_cons.mp h with rfl | hmem
        · exact .inl rfl
        · exact .inr (List.mem_cons_of_mem _ hmem)
      · rcases List.mem_cons.mp h with rfl | hmem
        · exact .inr List.mem_cons_self
        · exact (ih hmem).imp_right (List.mem_cons_of_mem _)

theorem Sorted.insert {entries : List (String × α)} (hsorted : Sorted entries) (key : String)
    (v : α) : Sorted (insert key v entries) := by
  induction entries with
  | nil => simp [Keyed.insert, Sorted]
  | cons e rest ih =>
    obtain ⟨k, w⟩ := e
    obtain ⟨hbelow, hrest⟩ := List.pairwise_cons.mp hsorted
    unfold Keyed.insert
    split
    · next hlt =>
      refine List.pairwise_cons.mpr ⟨?_, hsorted⟩
      intro other hmem
      rcases List.mem_cons.mp hmem with rfl | hmem
      · exact hlt
      · exact String.lt_trans hlt (hbelow other hmem)
    · next hnot =>
      split
      · next heq =>
        subst heq
        exact List.pairwise_cons.mpr ⟨hbelow, hrest⟩
      · next hne =>
        have hlt : k < key := Std.lt_of_le_of_ne (String.not_lt.mp hnot) (Ne.symm hne)
        refine List.pairwise_cons.mpr ⟨?_, ih hrest⟩
        intro other hmem
        rcases eq_or_mem_of_mem_insert hmem with rfl | hmem
        · exact hlt
        · exact hbelow other hmem

/-- An insertion takes the place of the entry of its key. -/
theorem Sorted.mem_insert_iff {entries : List (String × α)} (hsorted : Sorted entries)
    {key : String} {v : α} {e : String × α} :
    e ∈ Keyed.insert key v entries ↔ e = (key, v) ∨ (e.1 ≠ key ∧ e ∈ entries) := by
  obtain ⟨k, w⟩ := e
  rw [← (hsorted.insert key v).get?_eq_some_iff, get?_insert]
  by_cases hk : k = key
  · simp [hk, eq_comm]
  · simp [hk, hsorted.get?_eq_some_iff]

theorem Sorted.filter {entries : List (String × α)} (hsorted : Sorted entries)
    (p : String × α → Bool) : Sorted (entries.filter p) :=
  List.Pairwise.filter p hsorted

/-- An entry is found among those that are left exactly if it is left. -/
theorem Sorted.get?_filter {entries : List (String × α)} (hsorted : Sorted entries)
    (p : String × α → Bool) (key : String) :
    get? key (entries.filter p) = (get? key entries).filter fun v => p (key, v) := by
  apply Option.ext
  intro v
  rw [(hsorted.filter p).get?_eq_some_iff, List.mem_filter, Option.filter_eq_some_iff,
    hsorted.get?_eq_some_iff]

theorem Sorted.erase {entries : List (String × α)} (hsorted : Sorted entries) (key : String) :
    Sorted (erase key entries) :=
  hsorted.filter _

theorem Sorted.nodup {entries : List (String × α)} (hsorted : Sorted entries) : entries.Nodup := by
  refine List.Pairwise.imp ?_ hsorted
  rintro a b hlt rfl
  exact String.lt_irrefl a.1 hlt

/-- Entries in key order are told apart by their look-ups. -/
theorem Sorted.eq_of_get?_eq {front back : List (String × α)} (hfront : Sorted front)
    (hback : Sorted back) (h : ∀ key, get? key front = get? key back) : front = back := by
  have hmem : ∀ e, e ∈ front ↔ e ∈ back := by
    rintro ⟨key, v⟩
    rw [← hfront.get?_eq_some_iff, ← hback.get?_eq_some_iff, h]
  have hperm : front.Perm back :=
    (List.perm_ext_iff_of_nodup hfront.nodup hback.nodup).mpr hmem
  exact hperm.eq_of_pairwise (fun _ _ _ _ hlt hgt => absurd hgt (String.lt_asymm hlt)) hfront hback

theorem Sorted.insert_eq_self {key : String} {v : α} {entries : List (String × α)}
    (hsorted : Sorted entries) (h : get? key entries = some v) :
    Keyed.insert key v entries = entries := by
  refine (hsorted.insert key v).eq_of_get?_eq hsorted fun other => ?_
  rw [get?_insert]
  by_cases hother : other = key
  · rw [if_pos hother, hother, h]
  · rw [if_neg hother]

theorem sorted_ofList (entries : List (String × α)) : Sorted (ofList entries) := by
  have hfold : ∀ m : List (String × α), Sorted m →
      Sorted (entries.foldl (fun m e => Keyed.insert e.1 e.2 m) m) := by
    induction entries with
    | nil => exact fun m hm => hm
    | cons e rest ih => exact fun m hm => ih _ (hm.insert e.1 e.2)
  exact hfold [] List.Pairwise.nil

/-- Where no key is repeated, the order of the entries does not matter to a look-up. -/
theorem get?_ofList {entries : List (String × α)} (hnodup : (entries.map Prod.fst).Nodup)
    (key : String) : get? key (ofList entries) = get? key entries := by
  have hfold : ∀ m : List (String × α),
      get? key (entries.foldl (fun m e => Keyed.insert e.1 e.2 m) m) =
        (get? key entries).or (get? key m) := by
    induction entries with
    | nil => exact fun m => rfl
    | cons e rest ih =>
      obtain ⟨k, v⟩ := e
      obtain ⟨hnew, hrest⟩ := List.nodup_cons.mp hnodup
      intro m
      rw [List.foldl_cons, ih hrest, get?_insert, get?_cons]
      by_cases hk : key = k
      · have hnone : get? key rest = none := by
          rw [← Option.not_isSome_iff_eq_none, isSome_get?_iff, hk]
          exact hnew
        simp [hk, hk ▸ hnone]
      · simp [hk]
  simpa [ofList, get?_nil] using hfold []

end MarketQuery.Keyed
