import MarketQuery.Answer.Template
import MarketQuery.Proofs.Answer.PathSpelling

/-!
Where a placeholder ends. The search for its closing brace knows of quotes and brackets only, and
still it goes over every spelling of a path as a whole: outside of quoted keys a path has no brace,
and a quote opens for the search exactly where a quoted key begins.
-/
namespace MarketQuery.Template

/-- From one state of the search to another, the search for the closing brace goes over the text
and does not end in it. -/
def Crosses (text : List Char) (quote : Option Char) (afterBracket : Bool)
    (quote' : Option Char) (afterBracket' : Bool) : Prop :=
  ∀ rest, expression? quote afterBracket (text ++ rest) =
    (expression? quote' afterBracket' rest).map fun parts => (text ++ parts.1, parts.2)

theorem Crosses.nil (quote : Option Char) (afterBracket : Bool) :
    Crosses [] quote afterBracket quote afterBracket := by
  intro rest
  simp

theorem Crosses.cons {c : Char} {rest : List Char} {q q' : Option Char} {a a' : Bool}
    (hc : ¬ (q = none ∧ c = '\x7d'))
    (hrest : Crosses rest (nextQuote q a c) (nextAfterBracket q a c) q' a') :
    Crosses (c :: rest) q a q' a' := by
  intro more
  rw [List.cons_append, expression?, if_neg hc]
  simp only
  rw [hrest more, Option.map_map]
  simp [Function.comp_def]

def Neutral (c : Char) : Prop :=
  c ≠ '\'' ∧ c ≠ '"' ∧ c ≠ '[' ∧ c ≠ '\x7d'

theorem neutral_of_isBlank {c : Char} (h : Text.isBlank c = true) : Neutral c := by
  refine ⟨?_, ?_, ?_, ?_⟩ <;> (rintro rfl; revert h; decide)

theorem neutral_of_isWordChar {c : Char} (h : Path.isWordChar c = true) : Neutral c := by
  refine ⟨?_, ?_, ?_, ?_⟩ <;> (rintro rfl; revert h; decide)

theorem neutral_of_isDigit {c : Char} (h : c.isDigit = true) : Neutral c := by
  refine ⟨?_, ?_, ?_, ?_⟩ <;> (rintro rfl; revert h; decide)

theorem nextQuote_of_neutral {c : Char} (hc : Neutral c) (afterBracket : Bool) :
    nextQuote none afterBracket c = none := by
  simp [nextQuote, hc.1, hc.2.1]

instance (c : Char) : Decidable (Neutral c) :=
  inferInstanceAs (Decidable (c ≠ '\'' ∧ c ≠ '"' ∧ c ≠ '[' ∧ c ≠ '\x7d'))

theorem Crosses.neutral {c : Char} {rest : List Char} {q' : Option Char} {a' : Bool}
    (hc : Neutral c) (hrest : Crosses rest none false q' a') :
    Crosses (c :: rest) none false q' a' := by
  refine .cons (by simp [hc.2.2.2]) ?_
  have hafter : nextAfterBracket none false c = false := by
    simp [nextAfterBracket, hc.2.2.1]
  rw [nextQuote_of_neutral hc, hafter]
  exact hrest

theorem Crosses.neutrals {text rest : List Char} {q' : Option Char} {a' : Bool}
    (htext : ∀ c ∈ text, Neutral c) (hrest : Crosses rest none false q' a') :
    Crosses (text ++ rest) none false q' a' := by
  induction text with
  | nil => exact hrest
  | cons c tail ih =>
    exact .neutral (htext c (by simp)) (ih fun d hd => htext d (by simp [hd]))

theorem Crosses.bracket {rest : List Char} {q' : Option Char} {a' : Bool}
    (hrest : Crosses rest none true q' a') : Crosses ('[' :: rest) none false q' a' :=
  .cons (by decide) hrest

/-- Behind an opening bracket blanks make no difference. -/
theorem Crosses.blanks {text rest : List Char} {q' : Option Char} {a' : Bool}
    (htext : Path.Blanks text) (hrest : Crosses rest none true q' a') :
    Crosses (text ++ rest) none true q' a' := by
  induction text with
  | nil => exact hrest
  | cons c tail ih =>
    have hblank : Text.isBlank c = true := htext c (by simp)
    have hc := neutral_of_isBlank hblank
    refine .cons (by simp [hc.2.2.2]) ?_
    have hafter : nextAfterBracket none true c = true := by
      simp [nextAfterBracket, hblank]
    rw [nextQuote_of_neutral hc, hafter]
    exact ih fun d hd => htext d (by simp [hd])

/-- A first character behind a bracket that is no quote leaves no room for one. -/
theorem Crosses.solid {c : Char} {rest : List Char} {q' : Option Char} {a' : Bool}
    (hc : Neutral c) (hblank : Text.isBlank c = false) (hrest : Crosses rest none false q' a') :
    Crosses (c :: rest) none true q' a' := by
  refine .cons (by simp [hc.2.2.2]) ?_
  have hafter : nextAfterBracket none true c = false := by
    simp [nextAfterBracket, hblank, hc.2.2.1]
  rw [nextQuote_of_neutral hc, hafter]
  exact hrest

theorem Crosses.key {quote : Char} {key rest : List Char} {q' : Option Char} {a' : Bool}
    (hkey : quote ∉ key) (hrest : Crosses rest (some quote) false q' a') :
    Crosses (key ++ rest) (some quote) false q' a' := by
  induction key with
  | nil => exact hrest
  | cons c tail ih =>
    simp only [List.mem_cons, not_or] at hkey
    refine .cons (by simp) ?_
    have hquote : nextQuote (some quote) false c = some quote := by
      simp [nextQuote, Ne.symm hkey.1]
    have hafter : nextAfterBracket (some quote) false c = false := by
      simp [nextAfterBracket, hquote]
    rw [hquote, hafter]
    exact ih hkey.2

/-- A quoted key is gone over as a whole, whatever it holds. -/
theorem Crosses.quoted {quote : Char} {key rest : List Char} {q' : Option Char} {a' : Bool}
    (hquote : Path.IsQuote quote) (hkey : quote ∉ key) (hrest : Crosses rest none false q' a') :
    Crosses (quote :: (key ++ quote :: rest)) none true q' a' := by
  have hblank := Path.isBlank_of_isQuote hquote
  have hopen : nextQuote none true quote = some quote := by
    rcases hquote with rfl | rfl <;> rfl
  have hopenAfter : nextAfterBracket none true quote = false := by
    simp [nextAfterBracket, hblank, hopen]
  have hclose : nextQuote (some quote) false quote = none := by
    simp [nextQuote]
  have hcloseAfter : nextAfterBracket (some quote) false quote = false := by
    rcases hquote with rfl | rfl <;> decide
  refine .cons ?_ ?_
  · rcases hquote with rfl | rfl <;> decide
  · rw [hopen, hopenAfter]
    refine .key hkey (.cons (by simp) ?_)
    rw [hclose, hcloseAfter]
    exact hrest

theorem Crosses.close {after rest : List Char} {q' : Option Char} {a' : Bool}
    (hafter : Path.Blanks after) (hrest : Crosses rest none false q' a') :
    Crosses (after ++ ']' :: rest) none false q' a' :=
  .neutrals (fun c hc => neutral_of_isBlank (hafter c hc)) (.neutral (by decide) hrest)

theorem crosses_segment {text rest : List Char} {segment : Path.Segment}
    (h : Path.SegmentSpelling text segment) (hrest : Crosses rest none false none false) :
    Crosses (text ++ rest) none false none false := by
  cases h with
  | word w hne hw =>
    exact .neutral (by decide) (.neutrals (fun c hc => neutral_of_isWordChar (hw c hc)) hrest)
  | quoted quote before key after hquote hbefore hafter hkey =>
    have hclose : Crosses (after ++ ']' :: rest) none false none false := .close hafter hrest
    have hquoted := Crosses.quoted hquote hkey hclose
    simpa using Crosses.bracket (Crosses.blanks hbefore hquoted)
  | index before digits after hne hdigits hbefore hafter hlimit =>
    obtain ⟨d, ds, rfl⟩ := List.exists_cons_of_ne_nil hne
    have hclose : Crosses (after ++ ']' :: rest) none false none false := .close hafter hrest
    have hd : d.isDigit = true := hdigits d (by simp)
    have hds : ∀ c ∈ ds, Neutral c := fun c hc => neutral_of_isDigit (hdigits c (by simp [hc]))
    have hindex := Crosses.solid (neutral_of_isDigit hd) (Text.isBlank_of_isDigit hd)
      (Crosses.neutrals hds hclose)
    simpa using Crosses.bracket (Crosses.blanks hbefore hindex)

theorem crosses_spelling {text rest : List Char} {segments : List Path.Segment}
    (h : Path.Spelling text segments) (hrest : Crosses rest none false none false) :
    Crosses (text ++ rest) none false none false := by
  induction h with
  | nil => exact hrest
  | @cons s tail segment segments hs htail ih =>
    rw [List.append_assoc]
    exact crosses_segment hs ih

/-- An expression that is read as a path is gone over as a whole, with the blanks around it. -/
theorem crosses_parse {e : String} {path : Path} (h : Path.parse e = .ok path) :
    Crosses e.toList none false none false := by
  obtain ⟨before, after, heq, hbefore, hafter⟩ := Text.exists_blanks_trim e.toList
  obtain ⟨rest, htrim, hrest⟩ := Path.spelled_of_parse h
  rw [heq, htrim, List.append_assoc]
  have hend : Crosses after none false none false := by
    simpa using Crosses.neutrals (fun c hc => neutral_of_isBlank (hafter c hc)) (.nil none false)
  have hroot : ∀ c ∈ path.root.word, Neutral c :=
    fun c hc => neutral_of_isWordChar (path.root.isWordChar_of_mem_word c hc)
  exact .neutrals (fun c hc => neutral_of_isBlank (hbefore c hc))
    (.neutrals hroot (crosses_spelling hrest hend))

theorem expression_of_parse {e : String} {path : Path} (h : Path.parse e = .ok path)
    (rest : List Char) :
    expression? none false (e.toList ++ '\x7d' :: rest) = some (e.toList, rest) := by
  rw [crosses_parse h, expression?]
  simp

/-- Text without an opening stays as it is. -/
theorem fill_append_opening (evaluate : List Char → Option (List Char)) {front : List Char}
    (h : ¬ opening <:+: front) (rest : List Char) :
    fill evaluate (front ++ (opening ++ rest)) = front ++ fill evaluate (opening ++ rest) := by
  induction front with
  | nil => rfl
  | cons c tail ih =>
    -- The marker cannot begin in the text and end behind it: its two characters differ.
    have hhead : opening.isPrefixOf (c :: (tail ++ (opening ++ rest))) = false := by
      cases tail with
      | nil => simp [opening, List.isPrefixOf]
      | cons d tail =>
        have hne : ¬ (c = '$' ∧ d = '\x7b') := by
          rintro ⟨rfl, rfl⟩
          exact h ⟨[], tail, rfl⟩
        simpa [opening, List.isPrefixOf, Eq.comm (a := '$'), Eq.comm (a := '\x7b')] using hne
    have htail : ¬ opening <:+: tail := fun hin => h (hin.trans (List.suffix_cons c tail).isInfix)
    rw [List.cons_append, fill, hhead]
    simp [ih htail]

/-- At an opening the filling goes on behind the closing brace, if there is one. -/
theorem fill_opening_append (evaluate : List Char → Option (List Char)) (text : List Char) :
    fill evaluate (opening ++ text) =
      match expression? none false text with
      | none => opening ++ text
      | some (e, rest) => (evaluate e).getD (opening ++ e ++ ['\x7d']) ++ fill evaluate rest := by
  have hopen : opening ++ text = '$' :: '\x7b' :: text := rfl
  have hprefix : opening.isPrefixOf ('$' :: '\x7b' :: text) = true := by
    simp [opening, List.isPrefixOf]
  rw [hopen, fill, if_pos hprefix]
  split
  · next hnone =>
    rw [List.drop_one, List.tail_cons] at hnone
    rw [hnone]
  · next e rest hsome =>
    rw [List.drop_one, List.tail_cons] at hsome
    simp only [hsome]
    cases evaluate e <;> rfl

theorem fill_opening (evaluate : List Char → Option (List Char)) {e text rest : List Char}
    (h : expression? none false text = some (e, rest)) :
    fill evaluate (opening ++ text) =
      (evaluate e).getD (opening ++ e ++ ['\x7d']) ++ fill evaluate rest := by
  rw [fill_opening_append, h]

theorem fill_placeholder {evaluate : List Char → Option (List Char)} {front rest : List Char}
    {e : String} {path : Path} (hfront : ¬ opening <:+: front) (he : Path.parse e = .ok path) :
    fill evaluate (front ++ (opening ++ (e.toList ++ '\x7d' :: rest))) =
      front ++ ((evaluate e.toList).getD (opening ++ e.toList ++ ['\x7d']) ++
        fill evaluate rest) := by
  rw [fill_append_opening evaluate hfront, fill_opening evaluate (expression_of_parse he rest)]

/-- A placeholder with an expression that is read as a path gives the text of the path, or stays as
it is, and what follows it is a template of its own. -/
theorem substitute_placeholder (t : SymbolTable) (results : List ActionResult) {p e s : String}
    {path : Path} (hp : ¬ opening <:+: p.toList) (he : Path.parse e = .ok path) :
    substitute t results (p ++ "$\x7b" ++ e ++ "\x7d" ++ s) =
      p ++ (resolve? t results path).getD ("$\x7b" ++ e ++ "\x7d") ++
        substitute t results s := by
  have hsplit : (p ++ "$\x7b" ++ e ++ "\x7d" ++ s).toList =
      p.toList ++ (opening ++ (e.toList ++ '\x7d' :: s.toList)) := by
    simp [opening]
  have hevaluate : evaluate? t results e.toList = (resolve? t results path).map String.toList := by
    simp [evaluate?, he]
  apply String.toList_injective
  rw [substitute, hsplit, fill_placeholder hp he, hevaluate]
  simp only [substitute, String.toList_append, String.toList_ofList]
  cases resolve? t results path <;> simp [opening]

/-- A quoted key with braces, a bracket and the other quote, behind a text that ends in `$`. -/
theorem substitute_placeholder_quoted :
    let results : List ActionResult :=
      [⟨"prices", .object [], .object [("\x7d\x7b[$]\"", .string "low")], .scalar⟩]
    substitute .empty results
        ("A $" ++ "$\x7b" ++ " result[ '\x7d\x7b[$]\"' ] " ++ "\x7d" ++ " price") =
      "A $" ++ "low" ++ substitute .empty results " price" := by
  intro results
  have hparse : Path.parse " result[ '\x7d\x7b[$]\"' ] " =
      .ok ⟨.result, [.key "\x7d\x7b[$]\""]⟩ := by decide +kernel
  have hresolve : resolve? .empty results ⟨.result, [.key "\x7d\x7b[$]\""]⟩ = some "low" := by rfl
  have h := substitute_placeholder .empty results (p := "A $") (s := " price") (by decide) hparse
  rwa [hresolve] at h

end MarketQuery.Template
