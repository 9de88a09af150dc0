import Mathlib.Data.List.TakeWhile
import MarketQuery.Answer.Path
import MarketQuery.Proofs.Outcome

/-!
The spelling of paths: a root word, then one spelling for each segment. What the reader of paths
accepts is spelled in this way, and the path that it gives is the one that is spelled.
-/
namespace MarketQuery.Path

def Root.word : Root → List Char
  | .result => "result".toList
  | .results => "results".toList

theorem Root.isWordChar_of_mem_word (root : Root) : ∀ c ∈ root.word, isWordChar c = true := by
  rw [← List.all_eq_true]
  cases root <;> rfl

def IsQuote (c : Char) : Prop := c = '\'' ∨ c = '"'

theorem isBlank_of_isQuote {quote : Char} (h : IsQuote quote) : Text.isBlank quote = false := by
  rcases h with rfl | rfl <;> decide

def Blanks (s : List Char) : Prop := ∀ c ∈ s, Text.isBlank c = true

/-- The spellings of one segment. A quoted key may hold anything but its own quote. -/
inductive SegmentSpelling : List Char → Segment → Prop
  | word (w : List Char) (hne : w ≠ []) (hw : ∀ c ∈ w, isWordChar c = true) :
      SegmentSpelling ('.' :: w) (.key (String.ofList w))
  | quoted (quote : Char) (before key after : List Char) (hquote : IsQuote quote)
      (hbefore : Blanks before) (hafter : Blanks after) (hkey : quote ∉ key) :
      SegmentSpelling ('[' :: (before ++ quote :: (key ++ quote :: (after ++ [']']))))
        (.key (String.ofList key))
  | index (before digits after : List Char) (hne : digits ≠ [])
      (hdigits : ∀ c ∈ digits, c.isDigit = true) (hbefore : Blanks before)
      (hafter : Blanks after) (hlimit : Decimal.value digits < Decimal.wordLimit) :
      SegmentSpelling ('[' :: (before ++ (digits ++ (after ++ [']']))))
        (.index (Decimal.value digits))

inductive Spelling : List Char → List Segment → Prop
  | nil : Spelling [] []
  | cons {s rest : List Char} {segment : Segment} {segments : List Segment}
      (hs : SegmentSpelling s segment) (hrest : Spelling rest segments) :
      Spelling (s ++ rest) (segment :: segments)

theorem word_eq_ok {s w rest : List Char} (h : word s = .ok (w, rest)) :
    s = w ++ rest ∧ w ≠ [] ∧ ∀ c ∈ w, isWordChar c = true := by
  unfold word at h
  split at h
  · simp at h
  · next hne =>
    simp only [Except.ok.injEq, Prod.mk.injEq] at h
    obtain ⟨rfl, rfl⟩ := h
    exact ⟨List.takeWhile_append_dropWhile.symm, hne, fun _ hc => List.mem_takeWhile_imp hc⟩

theorem closeBracket_eq_ok {segment found : Segment} {s rest : List Char}
    (h : closeBracket segment s = .ok (found, rest)) :
    found = segment ∧ ∃ after, s = after ++ ']' :: rest ∧ Blanks after := by
  obtain ⟨after, hs, hafter⟩ := Text.exists_blanks s
  unfold closeBracket at h
  split at h
  · next tail htail =>
    simp only [Except.ok.injEq, Prod.mk.injEq] at h
    obtain ⟨rfl, rfl⟩ := h
    rw [htail] at hs
    exact ⟨rfl, after, hs, hafter⟩
  · simp at h

/-- A run of digits is read as the number that it denotes. -/
theorem naturalBelow_digits {bound n : Nat} {ds : List Char}
    (hds : ∀ c ∈ ds, c.isDigit = true) (h : Decimal.naturalBelow? bound ds = some n) :
    ds ≠ [] ∧ n = Decimal.value ds ∧ Decimal.value ds < bound := by
  unfold Decimal.naturalBelow? at h
  split at h
  · exact absurd (hds '+' (by simp)) (by decide)
  · simp only [Decimal.natural?, Option.filter_eq_some_iff, Option.ite_none_right_eq_some,
      Option.some.injEq, decide_eq_true_eq] at h
    obtain ⟨⟨⟨hne, -⟩, rfl⟩, hlt⟩ := h
    exact ⟨hne, rfl, hlt⟩

theorem bracketed_eq_ok {s rest : List Char} {segment : Segment}
    (h : bracketed s = .ok (segment, rest)) :
    ∃ text, '[' :: s = text ++ rest ∧ SegmentSpelling text segment := by
  obtain ⟨before, hs, hbefore⟩ := Text.exists_blanks s
  unfold bracketed at h
  split at h
  · simp at h
  · next c tail htail =>
    rw [htail] at hs
    split at h
    · next hquote =>
      split at h
      · simp at h
      · next key behind hcut =>
        obtain ⟨rfl, after, hbehind, hafter⟩ := closeBracket_eq_ok h
        have hkey := Text.not_mem_before_cutAt hcut
        refine ⟨_, ?_, .quoted c before key after hquote hbefore hafter hkey⟩
        rw [hs, Text.cutAt_eq_append hcut, hbehind]
        simp
    · split at h
      · split at h
        · simp at h
        · next n hn =>
          obtain ⟨rfl, after, hbehind, hafter⟩ := closeBracket_eq_ok h
          have hdigits : ∀ d ∈ (c :: tail).takeWhile Char.isDigit, d.isDigit = true :=
            fun _ hd => List.mem_takeWhile_imp hd
          obtain ⟨hne, rfl, hlimit⟩ := naturalBelow_digits hdigits hn
          refine ⟨_, ?_, .index before _ after hne hdigits hbefore hafter hlimit⟩
          have hsplit : c :: tail =
              (c :: tail).takeWhile Char.isDigit ++ (after ++ ']' :: rest) := by
            rw [← hbehind]
            exact List.takeWhile_append_dropWhile.symm
          calc '[' :: s
              = '[' :: (before ++
                  ((c :: tail).takeWhile Char.isDigit ++ (after ++ ']' :: rest))) := by
                rw [hs, ← hsplit]
            _ = _ := by simp
      · simp at h

theorem spelling_of_readSegments {s : List Char} {segments : List Segment}
    (h : readSegments s = .ok segments) : Spelling s segments := by
  fun_induction readSegments s generalizing segments with
  | case1 =>
    obtain rfl : segments = [] := by simpa using h.symm
    exact .nil
  | case2 rest halt hword => simp at h
  | case3 rest w behind hword ih =>
    obtain ⟨tail, htail, rfl⟩ := Outcome.map_eq_ok_iff.mp h
    obtain ⟨rfl, hne, hw⟩ := word_eq_ok hword
    exact .cons (.word w hne hw) (ih htail)
  | case4 rest halt hbracket => simp at h
  | case5 rest segment behind hbracket ih =>
    obtain ⟨tail, htail, rfl⟩ := Outcome.map_eq_ok_iff.mp h
    obtain ⟨text, heq, hspelling⟩ := bracketed_eq_ok hbracket
    rw [heq]
    exact .cons hspelling (ih htail)
  | case6 => simp at h

def Spelled (text : List Char) (path : Path) : Prop :=
  ∃ rest, text = path.root.word ++ rest ∧ Spelling rest path.segments

theorem root?_eq_some {w : List Char} {root : Root} (h : root? w = some root) :
    w = root.word := by
  unfold root? at h
  split at h
  · next hw =>
    obtain rfl := Option.some.inj h
    exact hw
  · split at h
    · next hw =>
      obtain rfl := Option.some.inj h
      exact hw
    · simp at h

theorem spelled_of_read {s : List Char} {path : Path} (h : read s = .ok path) :
    Spelled s path := by
  unfold read at h
  split at h
  · simp at h
  · next w rest hword =>
    split at h
    · simp at h
    · next root hroot =>
      obtain ⟨segments, hsegments, rfl⟩ := Outcome.map_eq_ok_iff.mp h
      obtain ⟨rfl, -, -⟩ := word_eq_ok hword
      rw [root?_eq_some hroot]
      exact ⟨rest, rfl, spelling_of_readSegments hsegments⟩

theorem spelled_of_parse {text : String} {path : Path} (h : parse text = .ok path) :
    Spelled (Text.trim text.toList) path := by
  simp only [parse] at h
  split at h
  · next found hread =>
    obtain rfl := Except.ok.inj h
    exact spelled_of_read hread
  · simp at h

end MarketQuery.Path
