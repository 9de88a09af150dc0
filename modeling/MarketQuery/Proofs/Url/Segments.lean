import MarketQuery.Proofs.Text.Ascii
import MarketQuery.Proofs.Url.FormEncoding
import MarketQuery.Url.Path

/-!
Segments below a base path. The reader of a path takes the spelling of a text as it stands, unless
the text is one dot or two: these are steps of the path itself. So where the spelling of an id
stands between fixed segments, the path that is read is known for every id.
-/
namespace MarketQuery

theorem Text.mem_intercalate {sep c : Char} {parts : List (List Char)}
    (h : c ∈ [sep].intercalate parts) : c = sep ∨ ∃ part ∈ parts, c ∈ part := by
  induction parts with
  | nil => simp at h
  | cons part rest ih =>
    cases rest with
    | nil => exact .inr ⟨part, by simp, by simpa using h⟩
    | cons next rest =>
      rw [List.intercalate_cons_cons, List.append_assoc, List.mem_append] at h
      rcases h with hpart | hrest
      · exact .inr ⟨part, List.mem_cons_self, hpart⟩
      · rcases List.mem_cons.mp hrest with rfl | hrest
        · exact .inl rfl
        · rcases ih hrest with rfl | ⟨other, hother, hc⟩
          · exact .inl rfl
          · exact .inr ⟨other, List.mem_cons_of_mem _ hother, hc⟩

theorem Text.mem_intercalate_of_mem {sep c : Char} {parts : List (List Char)} {part : List Char}
    (h : part ∈ parts) (hc : c ∈ part) : c ∈ [sep].intercalate parts := by
  induction parts with
  | nil => simp at h
  | cons first rest ih =>
    cases rest with
    | nil =>
      obtain rfl := List.mem_singleton.mp h
      simpa using hc
    | cons next rest =>
      rw [List.intercalate_cons_cons, List.append_assoc, List.mem_append]
      rcases List.mem_cons.mp h with rfl | hrest
      · exact .inl hc
      · exact .inr (List.mem_cons_of_mem _ (ih hrest))

namespace Url

open Percent (isFormChar formEncode)

theorem toNat_lt_of_isFormChar {c : Char} (h : isFormChar c = true) : c.toNat < 0x80 := by
  simp only [isFormChar, Percent.isFormSafe, Bool.or_eq_true, beq_iff_eq] at h
  rcases h with (((((halphanum | rfl) | rfl) | rfl) | rfl) | rfl) | rfl
  · have hcases := Text.toNat_of_isAlphanum halphanum
    omega
  all_goals decide

/-- What holds of the ASCII characters of forms holds of all of them. -/
theorem forall_formChar {p : Char → Prop}
    (h : ∀ n < 0x80, isFormChar (Char.ofNat n) = true → p (Char.ofNat n)) :
    ∀ c, isFormChar c = true → p c := by
  intro c hc
  have hascii : ∀ c : Char, c.toNat < 0x80 → isFormChar c = true → p c := Text.forall_ascii h
  exact hascii c (toNat_lt_of_isFormChar hc) hc

theorem encode_eq_self {escaped : Char → Bool} {s : List Char}
    (h : ∀ c ∈ s, c.toNat < 0x80 ∧ escaped c = false) : Percent.encode escaped s = s := by
  induction s with
  | nil => rfl
  | cons c rest ih =>
    obtain ⟨hascii, hkept⟩ := h c List.mem_cons_self
    have hrest := ih fun d hd => h d (List.mem_cons_of_mem _ hd)
    rw [Percent.encode, List.flatMap_cons, ← Percent.encode, hrest]
    simp [hascii, hkept]

theorem counted_eq_self {s : List Char} (h : ∀ c ∈ s, isIgnored c = false) : counted s = s := by
  refine List.filter_eq_self.mpr ?_
  intro c hc
  rw [h c hc]
  rfl

/-- A segment that is written in the characters of a form, with no dot escaped. -/
structure Plain (s : List Char) : Prop where
  form : ∀ c ∈ s, isFormChar c = true
  undotted : undotted s = s

theorem plain_formEncode (s : String) : Plain (formEncode s).toList where
  form := fun _ hc => Percent.isFormChar_of_mem_formEncode hc
  undotted := undotted_formEncode s

variable {p : PathReader} {s : List Char}

theorem Plain.read (h : Plain s) (p : PathReader) (slash : Bool) :
    p.read .web s slash =
      if s = ['.', '.'] then p.back else if s = ['.'] then p else p.put s slash := by
  have hform : ∀ c, isFormChar c = true → isIgnored c = false ∧ inPath c = false :=
    forall_formChar (by decide +kernel)
  have hcounted : counted s = s := counted_eq_self fun c hc => (hform c (h.form c hc)).1
  have hencode : Percent.encode inPath s = s := encode_eq_self fun c hc =>
    ⟨toNat_lt_of_isFormChar (h.form c hc), (hform c (h.form c hc)).2⟩
  simp [PathReader.read, hcounted, hencode, h.undotted]

theorem formEncode_toList_eq_iff {s t : String} (h : formEncode t = t) :
    (formEncode s).toList = t.toList ↔ s = t := by
  rw [String.toList_inj]
  constructor
  · intro heq
    exact Percent.formEncode_injective (heq.trans h.symm)
  · rintro rfl
    exact h

/-- The spelling of an id is read as it stands, unless the id is a step of the path. -/
theorem read_formEncode (p : PathReader) (id : String) (slash : Bool) :
    p.read .web (formEncode id).toList slash =
      if id = ".." then p.back else if id = "." then p else p.put (formEncode id).toList slash := by
  have hback : (formEncode id).toList = ['.', '.'] ↔ id = ".." :=
    formEncode_toList_eq_iff (t := "..") (by decide)
  have hstay : (formEncode id).toList = ['.'] ↔ id = "." :=
    formEncode_toList_eq_iff (t := ".") (by decide)
  rw [(plain_formEncode id).read]
  simp only [hback, hstay]

theorem toList_text (p : PathReader) :
    (p.text .web).toList = '/' :: (p.closed.reverse.flatMap (· ++ ['/']) ++ p.rest) := by
  simp [PathReader.text]

theorem toList_text_put (hp : p.rest = []) (s : List Char) (slash : Bool) :
    ((p.put s slash).text .web).toList =
      (p.text .web).toList ++ (s ++ if slash then ['/'] else []) := by
  cases slash <;> simp [toList_text, PathReader.put, hp]

/-- A segment that is no step of the path. -/
structure Ordinary (s : List Char) : Prop extends Plain s where
  ne_back : s ≠ ['.', '.']
  ne_stay : s ≠ ['.']

theorem Ordinary.read (h : Ordinary s) (p : PathReader) (slash : Bool) :
    p.read .web s slash = p.put s slash := by
  rw [h.toPlain.read, if_neg h.ne_back, if_neg h.ne_stay]

theorem toList_text_ordinary (hp : p.rest = []) {segments : List (List Char)}
    (hne : segments ≠ []) (hsegments : ∀ s ∈ segments, Ordinary s) :
    ((p.readAll .web segments).text .web).toList =
      (p.text .web).toList ++ ['/'].intercalate segments := by
  induction segments generalizing p with
  | nil => exact absurd rfl hne
  | cons s rest ih =>
    have hs : Ordinary s := hsegments s List.mem_cons_self
    cases rest with
    | nil =>
      rw [PathReader.readAll, hs.read, toList_text_put hp]
      simp
    | cons t rest =>
      have hrest : ∀ u ∈ t :: rest, Ordinary u := fun u hu =>
        hsegments u (List.mem_cons_of_mem _ hu)
      have hput : (p.put s true).rest = [] := hp
      rw [PathReader.readAll, hs.read, ih hput (by simp) hrest, toList_text_put hp]
      · simp
      · simp

/-- What a path has below its base where an id stands between a fixed segment and others. Two dots
take the fixed segment back, and one dot adds nothing. -/
def below (place : List Char) (id : String) (others : List (List Char)) : List (List Char) :=
  if id = ".." then (if others = [] then [[]] else others)
  else if id = "." then place :: (if others = [] then [[]] else others)
  else place :: (formEncode id).toList :: others

theorem mem_below {place : List Char} {id : String} {others : List (List Char)}
    (h : s ∈ below place id others) : s = [] ∨ s ∈ place :: (formEncode id).toList :: others := by
  have hempty : s ∈ (if others = [] then [[]] else others) → s = [] ∨ s ∈ others := by
    intro hs
    split at hs
    · exact .inl (List.mem_singleton.mp hs)
    · exact .inr hs
  unfold below at h
  split at h
  · rcases hempty h with hnil | hs
    · exact .inl hnil
    · exact .inr (List.mem_cons_of_mem _ (List.mem_cons_of_mem _ hs))
  · split at h
    · rcases List.mem_cons.mp h with rfl | h
      · exact .inr List.mem_cons_self
      · rcases hempty h with hnil | hs
        · exact .inl hnil
        · exact .inr (List.mem_cons_of_mem _ (List.mem_cons_of_mem _ hs))
    · exact .inr h

theorem below_ne_nil (place : List Char) (id : String) (others : List (List Char)) :
    below place id others ≠ [] := by
  unfold below
  split
  · split
    · simp
    · assumption
  · split <;> simp

theorem ordinary_formEncode {id : String} (hback : id ≠ "..") (hstay : id ≠ ".") :
    Ordinary (formEncode id).toList where
  toPlain := plain_formEncode id
  ne_back := mt (formEncode_toList_eq_iff (t := "..") (by decide)).mp hback
  ne_stay := mt (formEncode_toList_eq_iff (t := ".") (by decide)).mp hstay

theorem back_put (h : startsWithDrive s = false) (p : PathReader) : (p.put s true).back = p := by
  simp [PathReader.back, PathReader.put, h]

theorem toList_text_below (hp : p.rest = []) {place : List Char} (hplace : Ordinary place)
    (hdrive : startsWithDrive place = false) (id : String) {others : List (List Char)}
    (hothers : ∀ s ∈ others, Ordinary s) :
    ((p.readAll .web (place :: (formEncode id).toList :: others)).text .web).toList =
      (p.text .web).toList ++ ['/'].intercalate (below place id others) := by
  have hput : (p.put place true).rest = [] := hp
  have hfirst : p.readAll .web (place :: (formEncode id).toList :: others) =
      (p.put place true).readAll .web ((formEncode id).toList :: others) := by
    rw [PathReader.readAll, hplace.read]
    simp
  unfold below
  by_cases hback : id = ".."
  · subst hback
    rw [hfirst]
    cases others with
    | nil =>
      rw [PathReader.readAll, read_formEncode]
      simp [back_put hdrive]
    | cons s rest =>
      rw [PathReader.readAll, read_formEncode]
      · simp [back_put hdrive, toList_text_ordinary hp _ hothers]
      · simp
  · by_cases hstay : id = "."
    · subst hstay
      rw [hfirst]
      cases others with
      | nil =>
        rw [PathReader.readAll, read_formEncode]
        simp [toList_text_put hp]
      | cons s rest =>
        rw [PathReader.readAll, read_formEncode]
        · simp [toList_text_ordinary hput _ hothers, toList_text_put hp]
        · simp
    · rw [if_neg hback, if_neg hstay, toList_text_ordinary hp (by simp)]
      intro s hs
      rcases List.mem_cons.mp hs with rfl | hs
      · exact hplace
      · rcases List.mem_cons.mp hs with rfl | hs
        · exact ordinary_formEncode hback hstay
        · exact hothers s hs

/-- A path that ends with a slash. None of its segments has a question mark. -/
structure PathReader.IsBase (p : PathReader) : Prop where
  rest_nil : p.rest = []
  unmarked : ∀ s ∈ p.closed, '?' ∉ s

theorem PathReader.IsBase.not_mem_text (h : p.IsBase) : '?' ∉ (p.text .web).toList := by
  rw [toList_text, h.rest_nil, List.append_nil]
  intro hmem
  rcases List.mem_cons.mp hmem with hslash | hmem
  · exact absurd hslash (by decide)
  · obtain ⟨s, hs, hmem⟩ := List.mem_flatMap.mp hmem
    rcases List.mem_append.mp hmem with hmem | hmem
    · exact h.unmarked s (List.mem_reverse.mp hs) hmem
    · exact absurd (List.mem_singleton.mp hmem) (by decide)

theorem PathReader.IsBase.exists_root (h : p.IsBase) :
    ∃ root, (p.text .web).toList = root ++ ['/'] := by
  rw [toList_text, h.rest_nil, List.append_nil]
  cases p.closed with
  | nil => exact ⟨[], rfl⟩
  | cons s rest => exact ⟨'/' :: (rest.reverse.flatMap (· ++ ['/']) ++ s), by simp⟩

/-- Behind the slash at the end of a base, the segments of a path go on. -/
theorem PathReader.IsBase.splitOn_text (h : p.IsBase) (rest : List Char) :
    (((p.text .web).toList ++ rest).drop 1).splitOn '/' =
      (((p.text .web).toList.drop 1).splitOn '/').dropLast ++ rest.splitOn '/' := by
  have hclosed : ∀ segments : List (List Char),
      (segments.flatMap (· ++ ['/']) ++ rest).splitOn '/' =
        ((segments.flatMap (· ++ ['/'])).splitOn '/').dropLast ++ rest.splitOn '/' := by
    intro segments
    induction segments with
    | nil => simp
    | cons s segments ih =>
      have hne : (segments.flatMap (· ++ ['/'])).splitOn '/' ≠ [] :=
        List.splitOnP_ne_nil _ _
      have hcons : ∀ tail, s ++ ['/'] ++ tail = s ++ '/' :: tail := fun tail => by simp
      rw [List.flatMap_cons, List.append_assoc, hcons, hcons, List.splitOn_append_cons_self,
        List.splitOn_append_cons_self, ih, List.dropLast_append_of_ne_nil hne, List.append_assoc]
  rw [toList_text, h.rest_nil, List.append_nil, List.cons_append, List.drop_one, List.tail_cons,
    List.drop_one, List.tail_cons, hclosed]

theorem not_mem_encode_inPath (s : List Char) : '?' ∉ Percent.encode inPath s := by
  have hdigit : ∀ n < 16, Text.upperHexDigit n ≠ '?' := by decide
  intro hmem
  obtain ⟨c, -, hc⟩ := List.mem_flatMap.mp hmem
  split at hc
  · next hkept =>
    obtain rfl := List.mem_singleton.mp hc
    exact absurd hkept (by decide)
  · obtain ⟨b, -, hb⟩ := List.mem_flatMap.mp hc
    have hlt : b.toNat < 256 := b.toNat_lt
    simp only [Percent.escape, List.mem_cons, List.not_mem_nil, or_false] at hb
    rcases hb with hb | hb | hb
    · exact absurd hb (by decide)
    · exact hdigit _ (by omega) hb.symm
    · exact hdigit _ (by omega) hb.symm

/-- On the web a segment is read in one of three ways. -/
theorem read_cases (p : PathReader) (s : List Char) (slash : Bool) :
    p.read .web s slash = p.back ∨ p.read .web s slash = p ∨
      ∃ t, '?' ∉ t ∧ p.read .web s slash = p.put t slash := by
  have hread : p.read .web s slash =
      if undotted (Percent.encode inPath (counted s)) = ['.', '.'] then p.back
      else if undotted (Percent.encode inPath (counted s)) = ['.'] then p
      else p.put (Percent.encode inPath (counted s)) slash := by
    simp [PathReader.read]
  rw [hread]
  split
  · exact .inl rfl
  · split
    · exact .inr (.inl rfl)
    · exact .inr (.inr ⟨_, not_mem_encode_inPath _, rfl⟩)

theorem PathReader.IsBase.back (h : p.IsBase) : p.back.IsBase := by
  unfold PathReader.back
  split
  · exact h
  · next segment closed heq =>
    split
    · exact h
    · exact ⟨h.rest_nil, fun s hs => h.unmarked s (heq ▸ List.mem_cons_of_mem _ hs)⟩

theorem PathReader.IsBase.read (h : p.IsBase) (s : List Char) : (p.read .web s true).IsBase := by
  rcases read_cases p s true with heq | heq | ⟨t, ht, heq⟩
  · rw [heq]
    exact h.back
  · rw [heq]
    exact h
  · rw [heq]
    exact ⟨h.rest_nil, List.forall_mem_cons.mpr ⟨ht, h.unmarked⟩⟩

theorem isBase_root : PathReader.root.IsBase :=
  ⟨rfl, by simp [PathReader.root]⟩

/-- Behind segments with a slash after each, the rest is read from a base. -/
theorem PathReader.IsBase.exists_readAll (h : p.IsBase) (front : List (List Char)) :
    ∃ base : PathReader, base.IsBase ∧ ∀ back, back ≠ [] →
      p.readAll .web (front ++ back) = base.readAll .web back := by
  induction front generalizing p with
  | nil => exact ⟨p, h, fun back _ => rfl⟩
  | cons s front ih =>
    obtain ⟨base, hbase, hread⟩ := ih (h.read s)
    refine ⟨base, hbase, ?_⟩
    intro back hback
    have hne : front ++ back ≠ [] := List.append_ne_nil_of_right_ne_nil _ hback
    rw [List.cons_append, PathReader.readAll, hread back hback]
    exact hne

/-- The empty segment behind the last slash adds nothing. -/
theorem PathReader.IsBase.readAll_nil (h : p.IsBase) : p.readAll .web [[]] = p := by
  have hplain : Ordinary [] := ⟨⟨by simp, rfl⟩, by simp, by simp⟩
  rw [PathReader.readAll, hplain.read, PathReader.put, if_neg (by simp), ← h.rest_nil]

end Url

end MarketQuery
