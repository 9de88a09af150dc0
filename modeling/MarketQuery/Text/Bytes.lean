/-!
Offsets into a text, counted in the bytes of its characters. A text can be parted where a
character begins, and nowhere else.
-/
namespace MarketQuery.Text

def byteLength (s : List Char) : Nat :=
  s.foldl (fun n c => n + c.utf8Size) 0

@[simp] theorem byteLength_nil : byteLength [] = 0 := rfl

@[simp] theorem byteLength_cons (c : Char) (rest : List Char) :
    byteLength (c :: rest) = c.utf8Size + byteLength rest := by
  have hfold : ∀ n, rest.foldl (fun n c => n + c.utf8Size) n = n + byteLength rest := by
    unfold byteLength
    induction rest with
    | nil => intro n; rfl
    | cons d rest ih =>
      intro n
      rw [List.foldl_cons, List.foldl_cons, ih, ih (0 + d.utf8Size)]
      omega
  simpa [byteLength] using hfold c.utf8Size

@[simp] theorem byteLength_append (front back : List Char) :
    byteLength (front ++ back) = byteLength front + byteLength back := by
  induction front with
  | nil => simp
  | cons c front ih => simp [ih, Nat.add_assoc]

theorem byteLength_eq (s : List Char) : byteLength s = (String.ofList s).utf8ByteSize := by
  induction s with
  | nil => rfl
  | cons c rest ih => simp [ih]

theorem byteLength_pos {s : List Char} (h : s ≠ []) : 0 < byteLength s := by
  cases s with
  | nil => exact absurd rfl h
  | cons c rest =>
    have hc := c.utf8Size_pos
    rw [byteLength_cons]
    omega

theorem append_eq_append_of_byteLength_le {front front' back back' : List Char}
    (h : front ++ back = front' ++ back') (hle : byteLength front ≤ byteLength front') :
    ∃ between, front' = front ++ between ∧ back = between ++ back' := by
  rcases List.append_eq_append_iff.mp h with hafter | ⟨between, rfl, hback⟩
  · exact hafter
  · by_cases hnil : between = []
    · subst hnil
      exact ⟨[], by simp, by simpa using hback.symm⟩
    · have hpos := byteLength_pos hnil
      rw [byteLength_append] at hle
      omega

/-- A text is parted in one way at an offset. -/
theorem append_inj_of_byteLength {front front' back back' : List Char}
    (h : front ++ back = front' ++ back') (heq : byteLength front = byteLength front') :
    front = front' ∧ back = back' := by
  obtain ⟨between, rfl, rfl⟩ := append_eq_append_of_byteLength_le h (Nat.le_of_eq heq)
  have hnil : between = [] := by
    apply Decidable.byContradiction
    intro hne
    have hpos := byteLength_pos hne
    rw [byteLength_append] at heq
    omega
  simp [hnil]

/-- Parts a text at an offset, unless the offset is in a character or past the end. -/
def splitAt? : Nat → List Char → Option (List Char × List Char)
  | 0, s => some ([], s)
  | _ + 1, [] => none
  | n + 1, c :: rest =>
    if c.utf8Size ≤ n + 1 then
      (splitAt? (n + 1 - c.utf8Size) rest).map fun parts => (c :: parts.1, parts.2)
    else none

theorem splitAt?_append (front text : List Char) (n : Nat) :
    splitAt? (byteLength front + n) (front ++ text) =
      (splitAt? n text).map fun parts => (front ++ parts.1, parts.2) := by
  induction front with
  | nil => simp
  | cons c front ih =>
    have hpos : 0 < byteLength (c :: front) + n := Nat.add_pos_left (byteLength_pos (by simp)) n
    obtain ⟨m, hm⟩ := Nat.exists_eq_add_one.mpr hpos
    rw [byteLength_cons] at hm
    have hfits : c.utf8Size ≤ m + 1 := by omega
    have hrest : m + 1 - c.utf8Size = byteLength front + n := by omega
    rw [byteLength_cons, hm, List.cons_append, splitAt?, if_pos hfits, hrest, ih, Option.map_map]
    rfl

theorem splitAt?_byteLength (front back : List Char) :
    splitAt? (byteLength front) (front ++ back) = some (front, back) := by
  have h := splitAt?_append front back 0
  simpa [splitAt?] using h

theorem splitAt?_eq_some_iff {n : Nat} {s front back : List Char} :
    splitAt? n s = some (front, back) ↔ s = front ++ back ∧ n = byteLength front := by
  constructor
  · intro h
    induction s generalizing n front with
    | nil =>
      cases n with
      | zero =>
        obtain ⟨rfl, rfl⟩ : [] = front ∧ [] = back := by simpa [splitAt?] using h
        exact ⟨rfl, rfl⟩
      | succ n => simp [splitAt?] at h
    | cons c rest ih =>
      cases n with
      | zero =>
        obtain ⟨rfl, rfl⟩ : [] = front ∧ c :: rest = back := by simpa [splitAt?] using h
        exact ⟨rfl, rfl⟩
      | succ n =>
        rw [splitAt?] at h
        split at h
        · next hfits =>
          obtain ⟨⟨head, tail⟩, hparts, heq⟩ := Option.map_eq_some_iff.mp h
          obtain ⟨rfl, rfl⟩ : c :: head = front ∧ tail = back := by simpa using heq
          obtain ⟨rfl, hn⟩ := ih hparts
          refine ⟨rfl, ?_⟩
          rw [byteLength_cons]
          omega
        · simp at h
  · rintro ⟨rfl, rfl⟩
    exact splitAt?_byteLength front back

/-- The text before an offset at which it can be parted. -/
def before (n : Nat) (s : List Char) (h : (splitAt? n s).isSome = true) : List Char :=
  ((splitAt? n s).get h).1

theorem before_eq {n : Nat} {s front back : List Char} (hs : s = front ++ back)
    (hn : n = byteLength front) (h : (splitAt? n s).isSome = true) : before n s h = front := by
  have hparts : splitAt? n s = some (front, back) := splitAt?_eq_some_iff.mpr ⟨hs, hn⟩
  rw [before, Option.get_of_eq_some h hparts]

/-- The offsets at which characters begin, the first of them at `start`. -/
def offsetsFrom (start : Nat) : List Char → List Nat
  | [] => []
  | c :: rest => start :: offsetsFrom (start + c.utf8Size) rest

/-- The offset at which each character of a text begins. -/
def offsets (s : List Char) : List Nat :=
  offsetsFrom 0 s

theorem getElem?_offsetsFrom (start : Nat) (s : List Char) (n : Nat) :
    (offsetsFrom start s)[n]? =
      if n < s.length then some (start + byteLength (s.take n)) else none := by
  induction s generalizing start n with
  | nil => rfl
  | cons c rest ih =>
    cases n with
    | zero => simp [offsetsFrom]
    | succ n => simp [offsetsFrom, ih, Nat.add_assoc]

/-- Before the offset of a number stand so many characters. -/
theorem getElem?_offsets (s : List Char) (n : Nat) :
    (offsets s)[n]? = if n < s.length then some (byteLength (s.take n)) else none := by
  simp [offsets, getElem?_offsetsFrom]

theorem getElem?_offsets_eq_some_iff {s : List Char} {n offset : Nat} :
    (offsets s)[n]? = some offset ↔ n < s.length ∧ byteLength (s.take n) = offset := by
  rw [getElem?_offsets, Option.ite_none_right_eq_some, Option.some.injEq]

/-- A text can be parted where a character begins. -/
theorem isSome_splitAt?_of_offset {s : List Char} {n offset : Nat}
    (h : (offsets s)[n]? = some offset) : (splitAt? offset s).isSome = true := by
  obtain ⟨-, hoffset⟩ := getElem?_offsets_eq_some_iff.mp h
  have hparts : splitAt? offset s = some (s.take n, s.drop n) :=
    splitAt?_eq_some_iff.mpr ⟨(List.take_append_drop n s).symm, hoffset.symm⟩
  exact Option.isSome_of_eq_some hparts

/-- A stretch of a text, from the offset `start` up to the offset `stop`. -/
structure Span where
  start : Nat
  stop : Nat
  deriving DecidableEq

namespace Span

/-- The characters of a stretch, if it begins and ends between characters. -/
def slice? (span : Span) (text : List Char) : Option (List Char) :=
  (splitAt? span.stop text).bind fun parts =>
    (splitAt? span.start parts.1).map fun inner => inner.2

theorem slice?_eq_some_iff {span : Span} {text group : List Char} :
    span.slice? text = some group ↔ ∃ front back, text = front ++ group ++ back ∧
      span.start = byteLength front ∧ span.stop = byteLength (front ++ group) := by
  constructor
  · intro h
    obtain ⟨⟨upTo, back⟩, houter, hrest⟩ := Option.bind_eq_some_iff.mp h
    obtain ⟨⟨front, inside⟩, hinner, hgroup⟩ := Option.map_eq_some_iff.mp hrest
    obtain rfl : inside = group := hgroup
    obtain ⟨rfl, hstop⟩ := splitAt?_eq_some_iff.mp houter
    obtain ⟨hupTo, hstart⟩ := splitAt?_eq_some_iff.mp hinner
    simp only at hupTo
    rw [hupTo] at hstop ⊢
    exact ⟨front, back, rfl, hstart, hstop⟩
  · rintro ⟨front, back, rfl, hstart, hstop⟩
    rw [slice?, hstop, hstart, splitAt?_byteLength, Option.bind_some, splitAt?_byteLength]
    rfl

/-- More text behind a stretch does not change it. -/
theorem slice?_append {span : Span} {text group : List Char} (h : span.slice? text = some group)
    (more : List Char) : span.slice? (text ++ more) = some group := by
  obtain ⟨front, back, rfl, hstart, hstop⟩ := slice?_eq_some_iff.mp h
  exact slice?_eq_some_iff.mpr ⟨front, back ++ more, by simp, hstart, hstop⟩

/-- The same stretch behind `bytes` more. -/
def shift (bytes : Nat) (span : Span) : Span :=
  ⟨bytes + span.start, bytes + span.stop⟩

theorem slice?_shift (span : Span) (front text : List Char) :
    (span.shift (byteLength front)).slice? (front ++ text) = span.slice? text := by
  simp [slice?, shift, splitAt?_append, Option.bind_map, Function.comp_def]

end Span

end MarketQuery.Text
