import MarketQuery.Proofs.Answer.PathSpelling
import MarketQuery.Proofs.Text.Ascii

/-!
Reading the spellings of paths. A word is read as long as possible, and a segment ends where its
spelling ends, because what follows it begins with a point or a bracket. So every spelling is read
as the path that it spells, no text spells two paths, and every path whose keys can be quoted has a
spelling.
-/
namespace MarketQuery.Path

theorem word_append {w rest : List Char} (hne : w ≠ []) (hw : ∀ c ∈ w, isWordChar c = true)
    (hrest : ∀ c ∈ rest.head?, isWordChar c = false) : word (w ++ rest) = .ok (w, rest) := by
  rw [word, Text.takeWhile_run hw hrest, Text.dropWhile_run hw hrest, if_neg hne]

theorem closeBracket_append (segment : Segment) {after : List Char} (hafter : Blanks after)
    (rest : List Char) : closeBracket segment (after ++ ']' :: rest) = .ok (segment, rest) := by
  have htrim : Text.trimStart (after ++ ']' :: rest) = ']' :: rest :=
    Text.trimStart_blanks_append hafter (by decide)
  simp [closeBracket, htrim]

/-- A quoted key ends at its quote. -/
theorem bracketed_quote {quote : Char} {before key : List Char} (hquote : IsQuote quote)
    (hbefore : Blanks before) (hkey : quote ∉ key) (rest : List Char) :
    bracketed (before ++ quote :: (key ++ quote :: rest)) =
      closeBracket (.key (String.ofList key)) rest := by
  rw [bracketed, Text.trimStart_blanks_append hbefore (isBlank_of_isQuote hquote)]
  have hopen : quote = '\'' ∨ quote = '"' := hquote
  simp only [hopen, if_true]
  rw [Text.cutAt_append_cons hkey]

theorem bracketed_quoted {quote : Char} {before key after : List Char} (hquote : IsQuote quote)
    (hbefore : Blanks before) (hafter : Blanks after) (hkey : quote ∉ key) (rest : List Char) :
    bracketed (before ++ quote :: (key ++ quote :: (after ++ ']' :: rest))) =
      .ok (.key (String.ofList key), rest) := by
  rw [bracketed_quote hquote hbefore hkey]
  exact closeBracket_append _ hafter rest

theorem naturalBelow_of_digits {bound : Nat} {ds : List Char} (hne : ds ≠ [])
    (hds : ∀ c ∈ ds, c.isDigit = true) (hlimit : Decimal.value ds < bound) :
    Decimal.naturalBelow? bound ds = some (Decimal.value ds) := by
  unfold Decimal.naturalBelow?
  split
  · exact absurd (hds '+' (by simp)) (by decide)
  · have hall : ds.all Char.isDigit = true := List.all_eq_true.mpr hds
    simp [Decimal.natural?, hne, hall, hlimit]

theorem not_isDigit_of_isBlank {c : Char} (h : Text.isBlank c = true) : c.isDigit = false := by
  by_contra hdigit
  rw [Text.isBlank_of_isDigit (by simpa using hdigit)] at h
  simp at h

/-- A number ends at a blank or at the closing bracket. -/
theorem not_isDigit_head_close {after : List Char} (hafter : Blanks after) (rest : List Char) :
    ∀ c ∈ (after ++ ']' :: rest).head?, c.isDigit = false := by
  intro c hc
  cases after with
  | nil =>
    obtain rfl : ']' = c := by simpa using hc
    decide
  | cons b tail =>
    obtain rfl : b = c := by simpa using hc
    exact not_isDigit_of_isBlank (hafter b (by simp))

/-- A digit opens an index, and the index goes on as long as there are digits. -/
theorem bracketed_digits {before digits : List Char} (hne : digits ≠ [])
    (hdigits : ∀ c ∈ digits, c.isDigit = true) (hbefore : Blanks before) {rest : List Char}
    (hend : ∀ c ∈ rest.head?, c.isDigit = false) :
    bracketed (before ++ (digits ++ rest)) =
      match Decimal.naturalBelow? Decimal.wordLimit digits with
      | none => .error (.before (digits ++ rest))
      | some n => closeBracket (.index n) rest := by
  have htake := Text.takeWhile_run hdigits hend
  have hdrop := Text.dropWhile_run hdigits hend
  obtain ⟨d, ds, rfl⟩ := List.exists_cons_of_ne_nil hne
  have hd : d.isDigit = true := hdigits d (by simp)
  have hquote : ¬ (d = '\'' ∨ d = '"') := by
    rintro (rfl | rfl) <;> exact absurd hd (by decide)
  rw [List.cons_append] at htake hdrop ⊢
  rw [bracketed, Text.trimStart_blanks_append hbefore (Text.isBlank_of_isDigit hd)]
  cases hread : Decimal.naturalBelow? Decimal.wordLimit (d :: ds) with
  | none => simp only [hquote, hd, if_false, if_true, htake, hread]
  | some n => simp only [hquote, hd, if_false, if_true, htake, hdrop, hread]

theorem bracketed_index {before digits after : List Char} (hne : digits ≠ [])
    (hdigits : ∀ c ∈ digits, c.isDigit = true) (hbefore : Blanks before) (hafter : Blanks after)
    (hlimit : Decimal.value digits < Decimal.wordLimit) (rest : List Char) :
    bracketed (before ++ (digits ++ (after ++ ']' :: rest))) =
      .ok (.index (Decimal.value digits), rest) := by
  rw [bracketed_digits hne hdigits hbefore (not_isDigit_head_close hafter rest),
    naturalBelow_of_digits hne hdigits hlimit]
  exact closeBracket_append _ hafter rest

/-- What follows a segment begins with a point or a bracket. -/
theorem Spelling.head_not_isWordChar {s : List Char} {segments : List Segment}
    (h : Spelling s segments) : ∀ c ∈ s.head?, isWordChar c = false := by
  cases h with
  | nil => simp
  | cons hs hrest =>
    intro c hc
    cases hs with
    | word w hne hw =>
      obtain rfl : '.' = c := by simpa using hc
      decide
    | quoted quote before key after hquote hbefore hafter hkey =>
      obtain rfl : '[' = c := by simpa using hc
      decide
    | index before digits after hne hdigits hbefore hafter hlimit =>
      obtain rfl : '[' = c := by simpa using hc
      decide

theorem readSegments_word {w rest : List Char} (h : word (w ++ rest) = .ok (w, rest)) :
    readSegments ('.' :: (w ++ rest)) =
      (readSegments rest).map (.key (String.ofList w) :: ·) := by
  rw [readSegments]
  split
  · next halt hword => simp [h] at hword
  · next w' rest' hword =>
    obtain ⟨rfl, rfl⟩ : w = w' ∧ rest = rest' := by simpa [h] using hword
    rfl

theorem readSegments_bracketed {s rest : List Char} {segment : Segment}
    (h : bracketed s = .ok (segment, rest)) :
    readSegments ('[' :: s) = (readSegments rest).map (segment :: ·) := by
  rw [readSegments]
  split
  · next halt hbracket => simp [h] at hbracket
  · next segment' rest' hbracket =>
    obtain ⟨rfl, rfl⟩ : segment = segment' ∧ rest = rest' := by simpa [h] using hbracket
    rfl

/-- One segment is read up to the end of its spelling, and reading goes on behind it. -/
theorem readSegments_append {text rest : List Char} {segment : Segment}
    (h : SegmentSpelling text segment) (hrest : ∀ c ∈ rest.head?, isWordChar c = false) :
    readSegments (text ++ rest) = (readSegments rest).map (segment :: ·) := by
  cases h with
  | word w hne hw => exact readSegments_word (word_append hne hw hrest)
  | quoted quote before key after hquote hbefore hafter hkey =>
    have hread := readSegments_bracketed (bracketed_quoted hquote hbefore hafter hkey rest)
    simpa using hread
  | index before digits after hne hdigits hbefore hafter hlimit =>
    have hread := readSegments_bracketed
      (bracketed_index hne hdigits hbefore hafter hlimit rest)
    simpa using hread

theorem readSegments_of_spelling {s : List Char} {segments : List Segment}
    (h : Spelling s segments) : readSegments s = .ok segments := by
  induction h with
  | nil => rw [readSegments]
  | cons hs hrest ih =>
    rw [readSegments_append hs hrest.head_not_isWordChar, ih]
    rfl

theorem root?_word (root : Root) : root? root.word = some root := by
  cases root <;> rfl

theorem Root.word_ne_nil (root : Root) : root.word ≠ [] := by
  cases root <;> decide

theorem read_of_spelled {s : List Char} {path : Path} (h : Spelled s path) :
    read s = .ok path := by
  obtain ⟨rest, rfl, hrest⟩ := h
  have hword : word (path.root.word ++ rest) = .ok (path.root.word, rest) :=
    word_append path.root.word_ne_nil path.root.isWordChar_of_mem_word hrest.head_not_isWordChar
  simp only [read, hword, root?_word, readSegments_of_spelling hrest]
  rfl

theorem parse_eq_ok_iff_spelled {text : String} {path : Path} :
    parse text = .ok path ↔ Spelled (Text.trim text.toList) path := by
  constructor
  · exact spelled_of_parse
  · intro h
    simp [parse, read_of_spelled h]

/-- A spelling spells one path. -/
theorem Spelled.unique {s : List Char} {p q : Path} (hp : Spelled s p) (hq : Spelled s q) :
    p = q := by
  have h := (read_of_spelled hp).symm.trans (read_of_spelled hq)
  exact Except.ok.inj h

theorem isBlank_of_isWordChar {c : Char} (h : isWordChar c = true) : Text.isBlank c = false := by
  have hrange : 48 ≤ c.toNat ∧ c.toNat ≤ 122 := by
    rcases Bool.or_eq_true_iff.mp h with halphanum | hline
    · have hcases := Text.toNat_of_isAlphanum halphanum
      omega
    · obtain rfl := eq_of_beq hline
      decide
  simp only [Text.isBlank, Bool.or_eq_false_iff, Bool.and_eq_false_iff, decide_eq_false_iff_not,
    beq_eq_false_iff_ne]
  omega

def EndsSolid (s : List Char) : Prop :=
  ∃ front last, s = front ++ [last] ∧ Text.isBlank last = false

theorem EndsSolid.append (front : List Char) {s : List Char} (h : EndsSolid s) :
    EndsSolid (front ++ s) := by
  obtain ⟨middle, last, rfl, hlast⟩ := h
  exact ⟨front ++ middle, last, by simp, hlast⟩

theorem SegmentSpelling.endsSolid {text : List Char} {segment : Segment}
    (h : SegmentSpelling text segment) : EndsSolid text := by
  have hclose (front : List Char) : EndsSolid (front ++ [']']) := ⟨front, ']', rfl, by decide⟩
  cases h with
  | word w hne hw =>
    refine ⟨'.' :: w.dropLast, w.getLast hne, ?_, ?_⟩
    · rw [List.cons_append, List.dropLast_concat_getLast hne]
    · exact isBlank_of_isWordChar (hw _ (List.getLast_mem hne))
  | quoted quote before key after hquote hbefore hafter hkey =>
    simpa using hclose ('[' :: (before ++ quote :: (key ++ quote :: after)))
  | index before digits after hne hdigits hbefore hafter hlimit =>
    simpa using hclose ('[' :: (before ++ (digits ++ after)))

theorem Spelling.endsSolid {front s : List Char} {segments : List Segment} (h : Spelling s segments)
    (hfront : EndsSolid front) : EndsSolid (front ++ s) := by
  induction h generalizing front with
  | nil => simpa using hfront
  | cons hs hrest ih =>
    rw [← List.append_assoc]
    exact ih (hs.endsSolid.append front)

theorem Root.endsSolid_word (root : Root) : EndsSolid root.word := by
  cases root with
  | result => exact ⟨"resul".toList, 't', rfl, by decide⟩
  | results => exact ⟨"result".toList, 's', rfl, by decide⟩

/-- A spelling has no blanks at its ends. -/
theorem Spelled.trim_eq_self {s : List Char} {path : Path} (h : Spelled s path) :
    Text.trim s = s := by
  obtain ⟨rest, rfl, hrest⟩ := h
  obtain ⟨front, last, hend, hlast⟩ := hrest.endsSolid path.root.endsSolid_word
  have hhead : (path.root.word ++ rest).head? = some 'r' := by
    cases path.root <;> rfl
  have hgetLast : (path.root.word ++ rest).getLast? = some last := by simp [hend]
  exact Text.trim_eq_self hhead hgetLast (by decide) hlast

theorem parse_of_spelled {s : List Char} {path : Path} (h : Spelled s path) :
    parse (String.ofList s) = .ok path := by
  rw [parse_eq_ok_iff_spelled, String.toList_ofList, h.trim_eq_self]
  exact h

/-- A key can be written if it lacks one of the two quotes, an index if it has 64 bits. -/
def Segment.Writable : Segment → Prop
  | .key k => '\'' ∉ k.toList ∨ '"' ∉ k.toList
  | .index n => n < Decimal.wordLimit

def Writable (path : Path) : Prop := ∀ segment ∈ path.segments, segment.Writable

instance (segment : Segment) : Decidable segment.Writable :=
  match segment with
  | .key k => inferInstanceAs (Decidable ('\'' ∉ k.toList ∨ '"' ∉ k.toList))
  | .index n => inferInstanceAs (Decidable (n < Decimal.wordLimit))

instance (path : Path) : Decidable path.Writable :=
  inferInstanceAs (Decidable (∀ segment ∈ path.segments, segment.Writable))

theorem quoted_spelling {quote : Char} {k : String} (hquote : IsQuote quote)
    (hkey : quote ∉ k.toList) : ∃ text, SegmentSpelling text (.key k) := by
  have hnone : Blanks [] := by simp [Blanks]
  have h := SegmentSpelling.quoted quote [] k.toList [] hquote hnone hnone hkey
  rw [String.ofList_toList] at h
  exact ⟨_, h⟩

theorem Segment.Writable.exists_spelling {segment : Segment} (h : segment.Writable) :
    ∃ text, SegmentSpelling text segment := by
  cases segment with
  | key k =>
    rcases h with hsingle | hdouble
    · exact quoted_spelling (.inl rfl) hsingle
    · exact quoted_spelling (.inr rfl) hdouble
  | index n =>
    have hnone : Blanks [] := by simp [Blanks]
    have hne : Decimal.digits n ≠ [] := Nat.toDigits_ne_nil
    have hdigits : ∀ c ∈ Decimal.digits n, c.isDigit = true := fun _ hc =>
      Nat.isDigit_of_mem_toDigits (by decide) (by decide) hc
    have hlimit : Decimal.value (Decimal.digits n) < Decimal.wordLimit := by
      rw [Decimal.value_digits]
      exact h
    have hspelling := SegmentSpelling.index [] (Decimal.digits n) [] hne hdigits hnone hnone hlimit
    rw [Decimal.value_digits] at hspelling
    exact ⟨_, hspelling⟩

theorem SegmentSpelling.writable {text : List Char} {segment : Segment}
    (h : SegmentSpelling text segment) : segment.Writable := by
  cases h with
  | word w hne hw =>
    refine .inl fun hmem => ?_
    rw [String.toList_ofList] at hmem
    exact absurd (hw _ hmem) (by decide)
  | quoted quote before key after hquote hbefore hafter hkey =>
    rcases hquote with rfl | rfl
    · exact .inl (by simpa using hkey)
    · exact .inr (by simpa using hkey)
  | index before digits after hne hdigits hbefore hafter hlimit => exact hlimit

theorem exists_spelling {segments : List Segment} (h : ∀ segment ∈ segments, segment.Writable) :
    ∃ text, Spelling text segments := by
  induction segments with
  | nil => exact ⟨[], .nil⟩
  | cons segment rest ih =>
    obtain ⟨text, htext⟩ := (h segment (by simp)).exists_spelling
    obtain ⟨more, hmore⟩ := ih fun other hmem => h other (by simp [hmem])
    exact ⟨text ++ more, .cons htext hmore⟩

theorem Spelling.writable {s : List Char} {segments : List Segment} (h : Spelling s segments) :
    ∀ segment ∈ segments, segment.Writable := by
  induction h with
  | nil => simp
  | cons hs hrest ih =>
    intro segment hmem
    rcases List.mem_cons.mp hmem with rfl | hmem
    · exact hs.writable
    · exact ih segment hmem

/-- A path is read from some text exactly if it can be written, and then from one of its
spellings. -/
theorem writable_iff_exists_text {path : Path} :
    path.Writable ↔ ∃ text : String, Spelled text.toList path ∧ parse text = .ok path := by
  constructor
  · intro h
    obtain ⟨rest, hrest⟩ := exists_spelling h
    have hspelled : Spelled (path.root.word ++ rest) path := ⟨rest, rfl, hrest⟩
    exact ⟨String.ofList (path.root.word ++ rest), by simpa using hspelled,
      parse_of_spelled hspelled⟩
  · rintro ⟨text, ⟨rest, -, hrest⟩, -⟩
    exact hrest.writable

/-- Reading accepts exactly the spellings of paths, with blanks around them, and gives the path
that is spelled. Every path that can be written has a spelling, and no text spells two paths. -/
theorem parse_accepts_spellings :
    (∀ (text : String) (path : Path),
      parse text = .ok path ↔ Spelled (Text.trim text.toList) path) ∧
    (∀ path : Path,
      path.Writable ↔ ∃ text : String, Spelled text.toList path ∧ parse text = .ok path) ∧
    ∀ (s : List Char) (p q : Path), Spelled s p → Spelled s q → p = q := by
  refine ⟨fun text path => parse_eq_ok_iff_spelled, fun path => writable_iff_exists_text, ?_⟩
  intro s p q hp hq
  exact hp.unique hq

/-- Blanks in and around a path, a key with a quote in it, and an index with leading zeros. -/
theorem parse_accepts_spellings_mixed :
    let path : Path := ⟨.results, [.key "it's", .key "b_1", .index 7]⟩
    (parse " results[ \"it's\" ].b_1[007\t] " = .ok path ∧
      Spelled (Text.trim " results[ \"it's\" ].b_1[007\t] ".toList) path) ∧
    path.Writable ∧ ∃ other : String, Spelled other.toList path ∧ parse other = .ok path := by
  intro path
  have hparse : parse " results[ \"it's\" ].b_1[007\t] " =
      .ok ⟨.results, [.key "it's", .key "b_1", .index 7]⟩ := by decide +kernel
  have hwritable : Writable ⟨.results, [.key "it's", .key "b_1", .index 7]⟩ := by decide
  exact ⟨⟨hparse, (parse_accepts_spellings.1 _ path).mp hparse⟩, hwritable,
    (parse_accepts_spellings.2.1 path).mp hwritable⟩

end MarketQuery.Path
