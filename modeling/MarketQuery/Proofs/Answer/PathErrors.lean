import Mathlib.Data.List.Infix
import MarketQuery.Proofs.Answer.PathReading
import MarketQuery.Proofs.Decimal.Numerals

/-!
Where the reading of a path stops. What each reader has gone over before it stops can still be
completed, and nothing that goes on with what stands there can: it stops at one character that is
out of place, at the digits of a number of more than 64 bits, or at the end. These facts are carried
from a segment in brackets over the segments before it to the root, and the error of an expression
is read off them.
-/
namespace MarketQuery.Path

/-- What a reader cannot get over: a character, or the digits of a number of more than 64 bits. -/
inductive Obstacle : List Char → Prop
  | char (c : Char) : Obstacle [c]
  | number {digits : List Char} (hne : digits ≠ []) (hdigits : ∀ c ∈ digits, c.isDigit = true)
      (hlimit : Decimal.wordLimit ≤ Decimal.value digits) : Obstacle digits

theorem Obstacle.ne_nil {obstacle : List Char} (h : Obstacle obstacle) : obstacle ≠ [] := by
  cases h with
  | char c => exact List.cons_ne_nil c []
  | number hne hdigits hlimit => exact hne

variable {α : Type} {s front rest : List Char} {halt : Halt}

/-- A reader that stops before `rest`, with `front` behind it. Some text that begins with `front` is
read as a whole. None that goes on with the obstacle at the head of `rest` is read, and the reader
stops there again. -/
structure StopsBehind (read : List Char → Except Halt α) (whole : α → Prop)
    (front rest : List Char) : Prop where
  completable : ∃ suffix a, read (front ++ suffix) = .ok a ∧ whole a
  blocked : rest = [] ∨ ∃ obstacle more, rest = obstacle ++ more ∧ Obstacle obstacle ∧
    ∀ other, read (front ++ (obstacle ++ other)) = .error (.before (obstacle ++ other))

theorem closeBracket_eq_error {segment : Segment} (h : closeBracket segment s = .error halt) :
    ∃ after rest, halt = .before rest ∧ s = after ++ rest ∧ Blanks after ∧
      ∀ c ∈ rest.head?, Text.isBlank c = false ∧ c ≠ ']' := by
  obtain ⟨after, hs, hafter⟩ := Text.exists_blanks s
  unfold closeBracket at h
  split at h
  · simp at h
  · next hclose =>
    obtain rfl := Except.error.inj h
    refine ⟨after, _, rfl, hs, hafter, fun c hc => ⟨Text.isBlank_head_trimStart hc, ?_⟩⟩
    rintro rfl
    obtain ⟨tail, htail⟩ := List.head?_eq_some_iff.mp hc
    exact hclose tail htail

theorem closeBracket_stopped {after : List Char} (hafter : Blanks after) {c : Char}
    (hblank : Text.isBlank c = false) (hc : c ≠ ']') (segment : Segment) (other : List Char) :
    closeBracket segment (after ++ c :: other) = .error (.before (c :: other)) := by
  rw [closeBracket, Text.trimStart_blanks_append hafter hblank]
  split
  · next tail heq => exact absurd (List.cons.inj heq).1 hc
  · rfl

/-- Behind its opening bracket and blanks a segment can be completed to an index. -/
theorem exists_index_behind {before : List Char} (hbefore : Blanks before) :
    ∃ suffix a, bracketed (before ++ suffix) = .ok a ∧ a.2 = [] :=
  have hdigits : ∀ c ∈ ['0'], c.isDigit = true := List.all_eq_true.mp rfl
  have hnone : Blanks [] := List.forall_mem_nil _
  ⟨['0', ']'], _, bracketed_index (by decide) hdigits hbefore hnone (by decide) [], rfl⟩

/-- A segment of which all but the closing bracket has been read. The class `p` holds the characters
with which it could still go on. -/
theorem stopsBehind_closing {segment : Segment} {p : Char → Bool} (hclose : p ']' = false)
    (hblank : ∀ c, Text.isBlank c = true → p c = false)
    (hfront : ∀ other : List Char, (∀ c ∈ other.head?, p c = false) →
      bracketed (front ++ other) = closeBracket segment other)
    (hs : ∀ c ∈ s.head?, p c = false) (h : closeBracket segment s = .error halt) :
    ∃ after rest, halt = .before rest ∧ s = after ++ rest ∧
      StopsBehind bracketed (fun a => a.2 = []) (front ++ after) rest := by
  obtain ⟨after, rest, rfl, rfl, hafter, hrest⟩ := closeBracket_eq_error h
  have hhead (other : List Char) (hother : after = [] → ∀ c ∈ other.head?, p c = false) :
      ∀ c ∈ (after ++ other).head?, p c = false := by
    cases after with
    | nil => simpa using hother rfl
    | cons b tail => simpa using hblank b (hafter b List.mem_cons_self)
  refine ⟨after, rest, rfl, rfl, ⟨[']'], (segment, []), ?_, rfl⟩, ?_⟩
  · rw [List.append_assoc, hfront _ (hhead [']'] fun _ => by simpa using hclose)]
    exact closeBracket_append segment hafter []
  · cases rest with
    | nil => exact .inl rfl
    | cons c more =>
      obtain ⟨hc, hbracket⟩ := hrest c rfl
      refine .inr ⟨[c], more, rfl, .char c, fun other => ?_⟩
      have hnext : after = [] → ∀ d ∈ ([c] ++ other).head?, p d = false := by
        rintro rfl
        simpa using hs
      rw [List.append_assoc, hfront _ (hhead _ hnext)]
      exact closeBracket_stopped hafter hc hbracket segment other

theorem head_dropWhile_not {p : Char → Bool} {c : Char} (h : c ∈ (s.dropWhile p).head?) :
    p c = false := by
  have hhead := List.head?_dropWhile_not p s
  rw [Option.mem_def.mp h] at hhead
  exact hhead

theorem naturalBelow_of_le {bound : Nat} {digits : List Char}
    (hdigits : ∀ c ∈ digits, c.isDigit = true) (hlimit : bound ≤ Decimal.value digits) :
    Decimal.naturalBelow? bound digits = none := by
  cases hread : Decimal.naturalBelow? bound digits with
  | none => rfl
  | some n =>
    obtain ⟨-, -, hlt⟩ := naturalBelow_digits hdigits hread
    omega

/-- An index of more than 64 bits stays one when digits are added to it. -/
theorem bracketed_large {before digits : List Char} (hbefore : Blanks before) (hne : digits ≠ [])
    (hdigits : ∀ c ∈ digits, c.isDigit = true)
    (hlimit : Decimal.wordLimit ≤ Decimal.value digits) (other : List Char) :
    bracketed (before ++ (digits ++ other)) = .error (.before (digits ++ other)) := by
  have hrun : ∀ c ∈ digits ++ other.takeWhile Char.isDigit, c.isDigit = true := by
    intro c hc
    rcases List.mem_append.mp hc with hmem | hmem
    · exact hdigits c hmem
    · exact List.mem_takeWhile_imp hmem
  have hlarge : Decimal.wordLimit ≤ Decimal.value (digits ++ other.takeWhile Char.isDigit) :=
    hlimit.trans (Decimal.value_le_append _ _)
  have hend : ∀ c ∈ (other.dropWhile Char.isDigit).head?, c.isDigit = false :=
    fun c hc => head_dropWhile_not hc
  have hread := bracketed_digits (by simp [hne]) hrun hbefore hend
  rw [naturalBelow_of_le hrun hlarge] at hread
  simpa using hread

theorem bracketed_stops_quoted {before tail : List Char} {quote : Char} (hquote : IsQuote quote)
    (hbefore : Blanks before) (h : bracketed (before ++ quote :: tail) = .error halt) :
    ∃ front rest, halt = .before rest ∧ before ++ quote :: tail = front ++ rest ∧
      StopsBehind bracketed (fun a => a.2 = []) front rest := by
  by_cases hmem : quote ∈ tail
  · obtain ⟨key, behind, rfl, hkey⟩ := List.eq_append_cons_of_mem hmem
    have hfront (other : List Char) : bracketed ((before ++ quote :: (key ++ [quote])) ++ other) =
        closeBracket (.key (String.ofList key)) other := by
      simpa using bracketed_quote hquote hbefore hkey other
    rw [bracketed_quote hquote hbefore hkey] at h
    obtain ⟨after, rest, rfl, rfl, hstops⟩ := stopsBehind_closing (p := fun _ => false) rfl
      (fun _ _ => rfl) (fun other _ => hfront other) (fun _ _ => rfl) h
    exact ⟨_, rest, rfl, by simp, hstops⟩
  · have hopen : quote = '\'' ∨ quote = '"' := hquote
    have hcut : Text.cutAt [quote] tail = none := by
      rw [Text.cutAt_eq_none_iff, List.singleton_infix_iff]
      exact hmem
    rw [bracketed, Text.trimStart_blanks_append hbefore (isBlank_of_isQuote hquote)] at h
    simp only [hopen, if_true, hcut] at h
    obtain rfl := Except.error.inj h
    refine ⟨before ++ quote :: tail, [], rfl, by simp,
      ⟨[quote, ']'], (.key (String.ofList tail), []), ?_, rfl⟩, .inl rfl⟩
    have hnone : Blanks [] := List.forall_mem_nil _
    have hread := bracketed_quoted hquote hbefore hnone hmem []
    simpa using hread

theorem bracketed_stops_digit {before tail : List Char} {c : Char} (hdigit : c.isDigit = true)
    (hbefore : Blanks before) (h : bracketed (before ++ c :: tail) = .error halt) :
    ∃ front rest, halt = .before rest ∧ before ++ c :: tail = front ++ rest ∧
      StopsBehind bracketed (fun a => a.2 = []) front rest := by
  obtain ⟨digits, behind, hsplit, hne, hdigits, hend⟩ : ∃ digits behind,
      c :: tail = digits ++ behind ∧ digits ≠ [] ∧ (∀ d ∈ digits, d.isDigit = true) ∧
        ∀ d ∈ behind.head?, d.isDigit = false := by
    refine ⟨_, _, List.takeWhile_append_dropWhile.symm, ?_, fun _ hd => List.mem_takeWhile_imp hd,
      fun d hd => head_dropWhile_not hd⟩
    simp [hdigit]
  rw [hsplit] at h ⊢
  by_cases hlimit : Decimal.wordLimit ≤ Decimal.value digits
  · have hlarge := bracketed_large hbefore hne hdigits hlimit
    rw [hlarge] at h
    obtain rfl := Except.error.inj h
    exact ⟨before, digits ++ behind, rfl, rfl, exists_index_behind hbefore,
      .inr ⟨digits, behind, rfl, .number hne hdigits hlimit, hlarge⟩⟩
  · have hfront (other : List Char) (hother : ∀ d ∈ other.head?, d.isDigit = false) :
        bracketed ((before ++ digits) ++ other) =
          closeBracket (.index (Decimal.value digits)) other := by
      rw [List.append_assoc, bracketed_digits hne hdigits hbefore hother,
        naturalBelow_of_digits hne hdigits (Nat.lt_of_not_le hlimit)]
    have hblank : ∀ d, Text.isBlank d = true → d.isDigit = false := fun _ => not_isDigit_of_isBlank
    rw [← List.append_assoc, hfront behind hend] at h
    obtain ⟨after, rest, rfl, rfl, hstops⟩ :=
      stopsBehind_closing (p := Char.isDigit) (by decide) hblank hfront hend h
    exact ⟨_, rest, rfl, by simp, hstops⟩

theorem bracketed_stops (h : bracketed s = .error halt) :
    ∃ front rest, halt = .before rest ∧ s = front ++ rest ∧
      StopsBehind bracketed (fun a => a.2 = []) front rest := by
  obtain ⟨before, hs, hbefore⟩ := Text.exists_blanks s
  cases htrim : Text.trimStart s with
  | nil =>
    rw [bracketed, htrim] at h
    obtain rfl := Except.error.inj h
    rw [htrim] at hs
    exact ⟨before, [], rfl, hs, exists_index_behind hbefore, .inl rfl⟩
  | cons c tail =>
    have hc : Text.isBlank c = false := Text.isBlank_head_trimStart (by rw [htrim]; rfl)
    rw [htrim] at hs
    subst hs
    by_cases hquote : IsQuote c
    · exact bracketed_stops_quoted hquote hbefore h
    · by_cases hdigit : c.isDigit = true
      · exact bracketed_stops_digit hdigit hbefore h
      · have hopen : ¬ (c = '\'' ∨ c = '"') := hquote
        have hstop (other : List Char) :
            bracketed (before ++ c :: other) = .error (.before (c :: other)) := by
          rw [bracketed, Text.trimStart_blanks_append hbefore hc]
          simp only [hopen, hdigit, if_false]
          rfl
        rw [hstop] at h
        obtain rfl := Except.error.inj h
        exact ⟨before, c :: tail, rfl, rfl, exists_index_behind hbefore,
          .inr ⟨[c], tail, rfl, .char c, hstop⟩⟩

theorem word_eq_error (h : word s = .error halt) :
    halt = .before s ∧ ∀ c ∈ s.head?, isWordChar c = false := by
  unfold word at h
  split at h
  · next hnone =>
    refine ⟨(Except.error.inj h).symm, ?_⟩
    cases s with
    | nil => simp
    | cons c tail => simpa using hnone
  · simp at h

theorem word_stopped (h : ∀ c ∈ s.head?, isWordChar c = false) : word s = .error (.before s) := by
  cases s with
  | nil => rfl
  | cons c tail =>
    have hc : isWordChar c = false := h c rfl
    simp [word, hc]

/-- A word ends where something else follows. -/
theorem head_not_isWordChar_of_word {w : List Char} (h : word s = .ok (w, rest)) :
    ∀ c ∈ rest.head?, isWordChar c = false := by
  unfold word at h
  split at h
  · simp at h
  · obtain ⟨-, rfl⟩ := Prod.mk.inj (Except.ok.inj h)
    exact fun c hc => head_dropWhile_not hc

/-- What was read of a segment does not depend on what follows its bracket. -/
theorem bracketed_append {segment : Segment} (h : bracketed s = .ok (segment, rest)) :
    ∃ text, s = text ++ rest ∧ ∀ other, bracketed (text ++ other) = .ok (segment, other) := by
  obtain ⟨text, hs, hspelling⟩ := bracketed_eq_ok h
  cases hspelling with
  | word w hne hw => simp at hs
  | quoted quote before key after hquote hbefore hafter hkey =>
    refine ⟨before ++ quote :: (key ++ quote :: (after ++ [']'])), by simpa using hs, ?_⟩
    intro other
    simpa using bracketed_quoted hquote hbefore hafter hkey other
  | index before digits after hne hdigits hbefore hafter hlimit =>
    refine ⟨before ++ (digits ++ (after ++ [']'])), by simpa using hs, ?_⟩
    intro other
    simpa using bracketed_index hne hdigits hbefore hafter hlimit other

theorem readSegments_word_error (h : word s = .error halt) :
    readSegments ('.' :: s) = .error halt := by
  rw [readSegments]
  split
  · next other hword =>
    obtain rfl : halt = other := by simpa [h] using hword
    rfl
  · next w rest hword => simp [h] at hword

theorem readSegments_bracketed_error (h : bracketed s = .error halt) :
    readSegments ('[' :: s) = .error halt := by
  rw [readSegments]
  split
  · next other hbracket =>
    obtain rfl : halt = other := by simpa [h] using hbracket
    rfl
  · next segment rest hbracket => simp [h] at hbracket

theorem readSegments_stopped {c : Char} (hdot : c ≠ '.') (hbracket : c ≠ '[')
    (other : List Char) : readSegments (c :: other) = .error (.before (c :: other)) := by
  rw [readSegments]
  · simp
  · exact fun rest heq => hdot (List.cons.inj heq).1
  · exact fun rest heq => hbracket (List.cons.inj heq).1

/-- A reader that goes on with all segments behind `text` stops where these stop. The class `p`
holds the characters that would lengthen `text`. -/
theorem StopsBehind.lift {read : List Char → Except Halt α} {build : List Segment → α}
    {text : List Char} {p : Char → Bool} (hp : ∀ c, isWordChar c = false → p c = false)
    (hread : ∀ other : List Char, (∀ c ∈ other.head?, p c = false) →
      read (text ++ other) = (readSegments other).map build)
    (hhead : ∀ c ∈ (front ++ rest).head?, p c = false)
    (h : StopsBehind readSegments (fun _ => True) front rest) :
    StopsBehind read (fun _ => True) (text ++ front) rest := by
  obtain ⟨⟨suffix, segments, hsegments, -⟩, hblocked⟩ := h
  refine ⟨⟨suffix, build segments, ?_, trivial⟩, ?_⟩
  · have hnext := (spelling_of_readSegments hsegments).head_not_isWordChar
    rw [List.append_assoc, hread _ fun c hc => hp c (hnext c hc), hsegments]
    rfl
  · rcases hblocked with rfl | ⟨obstacle, more, rfl, hobstacle, hstop⟩
    · exact .inl rfl
    · refine .inr ⟨obstacle, more, rfl, hobstacle, fun other => ?_⟩
      have hsame : (front ++ (obstacle ++ other)).head? = (front ++ (obstacle ++ more)).head? := by
        have hne : front ++ obstacle ≠ [] := by simp [hobstacle.ne_nil]
        rw [← List.append_assoc, ← List.append_assoc, List.head?_append_of_ne_nil _ hne,
          List.head?_append_of_ne_nil _ hne]
      rw [List.append_assoc, hread _ (hsame ▸ hhead), hstop]
      rfl

theorem readSegments_stops (h : readSegments s = .error halt) :
    ∃ front rest, halt = .before rest ∧ s = front ++ rest ∧
      StopsBehind readSegments (fun _ => True) front rest := by
  fun_induction readSegments s generalizing halt with
  | case1 => simp at h
  | case2 s other hword =>
    obtain rfl := Except.error.inj h
    obtain ⟨rfl, hhead⟩ := word_eq_error hword
    have hletter : Spelling ['.', 'a'] [.key (String.ofList ['a'])] :=
      .cons (.word ['a'] (by decide) (List.all_eq_true.mp rfl)) .nil
    refine ⟨['.'], s, rfl, rfl, ⟨['a'], _, readSegments_of_spelling hletter, trivial⟩, ?_⟩
    cases s with
    | nil => exact .inl rfl
    | cons c more =>
      refine .inr ⟨[c], more, rfl, .char c, fun other => ?_⟩
      exact readSegments_word_error (word_stopped (by simpa using hhead))
  | case3 s w behind hword ih =>
    obtain ⟨front, rest, rfl, rfl, hstops⟩ := ih (Outcome.map_eq_error_iff.mp h)
    obtain ⟨rfl, hne, hw⟩ := word_eq_ok hword
    have hread (other : List Char) (hother : ∀ c ∈ other.head?, isWordChar c = false) :
        readSegments ('.' :: w ++ other) =
          (readSegments other).map (.key (String.ofList w) :: ·) :=
      readSegments_word (word_append hne hw hother)
    exact ⟨'.' :: w ++ front, rest, rfl, by simp,
      hstops.lift (fun _ hc => hc) hread (head_not_isWordChar_of_word hword)⟩
  | case4 s other hbracket =>
    obtain rfl := Except.error.inj h
    obtain ⟨front, rest, rfl, rfl, ⟨suffix, ⟨segment, left⟩, hread, rfl⟩, hblocked⟩ :=
      bracketed_stops hbracket
    refine ⟨'[' :: front, rest, rfl, rfl, ⟨suffix, [segment], ?_, trivial⟩, ?_⟩
    · rw [List.cons_append, readSegments_bracketed hread, readSegments]
      rfl
    · rcases hblocked with rfl | ⟨obstacle, more, rfl, hobstacle, hstop⟩
      · exact .inl rfl
      · exact .inr ⟨obstacle, more, rfl, hobstacle,
          fun other => readSegments_bracketed_error (hstop other)⟩
  | case5 s segment behind hbracket ih =>
    obtain ⟨front, rest, rfl, rfl, hstops⟩ := ih (Outcome.map_eq_error_iff.mp h)
    obtain ⟨text, rfl, htext⟩ := bracketed_append hbracket
    refine ⟨'[' :: text ++ front, rest, rfl, by simp, ?_⟩
    exact hstops.lift (p := fun _ => false) (fun _ _ => rfl)
      (fun other _ => readSegments_bracketed (htext other)) (fun _ _ => rfl)
  | case6 s hne hdot hbracket =>
    obtain rfl := Except.error.inj h
    refine ⟨[], s, rfl, rfl, ⟨[], [], by rw [List.append_nil, readSegments], trivial⟩, ?_⟩
    cases s with
    | nil => exact .inl rfl
    | cons c more =>
      have hc : c ≠ '.' ∧ c ≠ '[' :=
        ⟨fun heq => hdot more (by rw [heq]), fun heq => hbracket more (by rw [heq])⟩
      exact .inr ⟨[c], more, rfl, .char c, readSegments_stopped hc.1 hc.2⟩

/-- Before the whole text there is either a word that is no root, as long as possible, or the reader
stops behind something that can be completed to a path. -/
theorem read_stops (h : read s = .error halt) :
    (∃ w rest, halt = .root w ∧ s = w ++ rest ∧ w ≠ [] ∧ (∀ c ∈ w, isWordChar c = true) ∧
      (∀ c ∈ rest.head?, isWordChar c = false) ∧ root? w = none) ∨
    ∃ front rest, halt = .before rest ∧ s = front ++ rest ∧
      StopsBehind read (fun _ => True) front rest := by
  cases hword : word s with
  | error other =>
    obtain ⟨rfl, hhead⟩ := word_eq_error hword
    simp only [read, hword] at h
    obtain rfl := Except.error.inj h
    refine .inr ⟨[], s, rfl, rfl, ⟨"result".toList, ⟨.result, []⟩, ?_, trivial⟩, ?_⟩
    · exact read_of_spelled ⟨[], (List.append_nil _).symm, .nil⟩
    · cases s with
      | nil => exact .inl rfl
      | cons c more =>
        refine .inr ⟨[c], more, rfl, .char c, fun other => ?_⟩
        have hnext : word ([] ++ ([c] ++ other)) = .error (.before ([c] ++ other)) :=
          word_stopped (by simpa using hhead)
        simp only [read, hnext]
  | ok found =>
    obtain ⟨w, rest⟩ := found
    obtain ⟨rfl, hne, hw⟩ := word_eq_ok hword
    have hrest := head_not_isWordChar_of_word hword
    cases hroot : root? w with
    | none =>
      simp only [read, hword, hroot] at h
      exact .inl ⟨w, rest, (Except.error.inj h).symm, rfl, hne, hw, hrest, hroot⟩
    | some root =>
      have hread (other : List Char) (hother : ∀ c ∈ other.head?, isWordChar c = false) :
          read (w ++ other) = (readSegments other).map fun segments => ⟨root, segments⟩ := by
        simp only [read, word_append hne hw hother, hroot]
      rw [hread rest hrest, Outcome.map_eq_error_iff] at h
      obtain ⟨front, rest, rfl, rfl, hstops⟩ := readSegments_stops h
      exact .inr ⟨w ++ front, rest, rfl, by simp, hstops.lift (fun _ hc => hc) hread hrest⟩

/-- What an error says about the text in which it arises. -/
inductive Error.Explains (s : List Char) : Error → Prop
  /-- The word at the beginning, taken as long as possible, is no root. -/
  | unknownRoot {w rest : List Char} (hs : s = w ++ rest) (hne : w ≠ [])
      (hw : ∀ c ∈ w, isWordChar c = true) (hrest : ∀ c ∈ rest.head?, isWordChar c = false)
      (hroot : w ≠ "result".toList ∧ w ≠ "results".toList) :
      Explains s (.unknownRoot (String.ofList w))
  /-- The text up to the offset can be completed to an expression that is accepted, but no spelling
  of a path goes on with what is found there. -/
  | unexpected {front more rest : List Char} {found : Char}
      (hs : s = front ++ found :: (more ++ rest))
      (hfront : ∃ suffix path, parse (String.ofList (front ++ suffix)) = .ok path)
      (hobstacle : Obstacle (found :: more))
      (hstop : ∀ other path, ¬ Spelled (front ++ found :: (more ++ other)) path) :
      Explains s (.unexpected found (String.ofList front).utf8ByteSize)
  /-- More text makes the whole an expression that is accepted. -/
  | unexpectedEnd {suffix : List Char} {path : Path} (hne : suffix ≠ [])
      (h : parse (String.ofList (s ++ suffix)) = .ok path) : Explains s .unexpectedEnd

/-- Every expression that is not accepted has an error that explains why. -/
theorem parse_error_explains {text : String} {e : Error} (h : parse text = .error e) :
    e.Explains (Text.trim text.toList) := by
  simp only [parse] at h
  split at h
  · simp at h
  · next halt hread =>
    obtain rfl := Except.error.inj h
    rcases read_stops hread with
      ⟨w, rest, rfl, hs, hne, hw, hrest, hroot⟩ | ⟨front, rest, rfl, hs, hcompletable, hblocked⟩
    · refine .unknownRoot hs hne hw hrest ⟨?_, ?_⟩
      · rintro rfl
        simp [root?] at hroot
      · rintro rfl
        simp [root?] at hroot
    · obtain ⟨suffix, path, hpath, -⟩ := hcompletable
      have haccepted := parse_of_spelled (spelled_of_read hpath)
      rcases hblocked with rfl | ⟨obstacle, more, rfl, hobstacle, hstop⟩
      · rw [List.append_nil] at hs
        rw [hs]
        refine .unexpectedEnd ?_ haccepted
        rintro rfl
        rw [List.append_nil, ← hs, hread] at hpath
        simp at hpath
      · obtain ⟨found, others, rfl⟩ := List.exists_cons_of_ne_nil hobstacle.ne_nil
        have hoffset : Text.byteLength (Text.trim text.toList) -
            Text.byteLength (found :: others ++ more) = (String.ofList front).utf8ByteSize := by
          simp only [hs, Text.byteLength_eq, String.ofList_append, String.utf8ByteSize_append]
          omega
        rw [List.cons_append] at hs hoffset ⊢
        rw [Halt.error, hoffset]
        refine .unexpected hs ⟨suffix, path, haccepted⟩ hobstacle fun other path hspelled => ?_
        have hread := hstop other
        rw [List.cons_append, read_of_spelled hspelled] at hread
        simp at hread

/-- An index of more than 64 bits, behind blanks and a character of two bytes. -/
theorem parse_error_explains_index :
    let text := " results['é'].x[ 99999999999999999999 ]"
    parse text = .error (.unexpected '9' 17) ∧
      (Error.unexpected '9' 17).Explains (Text.trim text.toList) := by
  intro text
  have hparse : parse text = .error (.unexpected '9' 17) := by decide +kernel
  exact ⟨hparse, parse_error_explains hparse⟩

end MarketQuery.Path
