import MarketQuery.Proofs.Answer.Placeholder

/-!
A template is filled in one pass. It is cut into literal texts and placeholders, and the cut depends
on the template alone. Filling writes the literal texts as they are and puts a text or the
placeholder itself in the place of each placeholder, so that no text which is put in is read again.
-/
namespace MarketQuery.Template

/-- A literal text and the expression of the placeholder behind it. -/
structure Piece where
  literal : List Char
  expression : List Char

def placeholder (expression : List Char) : List Char :=
  opening ++ expression ++ ['\x7d']

/-- The cut of a template: pieces with a placeholder each, and a last text that has no opening, or
else a first opening that is never closed. -/
inductive Cuts : List Char → List Piece → List Char → Prop
  | literal {text : List Char} (h : ¬ opening <:+: text) : Cuts text [] text
  | unclosed {front back : List Char} (hfront : ¬ opening <:+: front)
      (hback : expression? none false back = none) :
      Cuts (front ++ (opening ++ back)) [] (front ++ (opening ++ back))
  | piece {front expression rest : List Char} {pieces : List Piece} {last : List Char}
      (hfront : ¬ opening <:+: front)
      (hexpression : expression? none false (expression ++ '\x7d' :: rest) =
        some (expression, rest))
      (hrest : Cuts rest pieces last) :
      Cuts (front ++ (placeholder expression ++ rest)) (⟨front, expression⟩ :: pieces) last

def written (text : List Char → List Char) : List Piece → List Char → List Char
  | [], last => last
  | piece :: pieces, last => piece.literal ++ (text piece.expression ++ written text pieces last)

theorem Cuts.eq_written {template last : List Char} {pieces : List Piece}
    (h : Cuts template pieces last) : template = written placeholder pieces last := by
  induction h with
  | literal | unclosed => rfl
  | piece _ _ _ ih =>
    rw [written, ← ih]

/-- Every template can be cut. -/
theorem exists_cuts (template : List Char) : ∃ pieces last, Cuts template pieces last := by
  cases hcut : Text.cutAt opening template with
  | none => exact ⟨[], template, .literal ((Text.cutAt_eq_none_iff opening template).mp hcut)⟩
  | some parts =>
    obtain ⟨front, back⟩ := parts
    have hfront : ¬ opening <:+: front := Text.not_infix_before_cutAt (by decide) hcut
    have hlength := Text.length_after_cutAt hcut
    obtain rfl : template = front ++ (opening ++ back) := by
      rw [Text.cutAt_eq_append hcut, List.append_assoc]
    cases hback : expression? none false back with
    | none => exact ⟨[], _, .unclosed hfront hback⟩
    | some parts =>
      obtain ⟨expression, rest⟩ := parts
      have hshorter := length_expression hback
      obtain rfl := expression_eq_append hback
      -- The recursion is on what stands behind the closing brace, which is shorter.
      obtain ⟨pieces, last, hrest⟩ := exists_cuts rest
      have hpiece := Cuts.piece hfront hback hrest
      exact ⟨_, last, by simpa [placeholder] using hpiece⟩
termination_by template.length
decreasing_by omega

/-- Text without an opening stays as it is. -/
theorem fill_literal (evaluate : List Char → Option (List Char)) {text : List Char}
    (h : ¬ opening <:+: text) : fill evaluate text = text := by
  induction text with
  | nil => rw [fill]
  | cons c tail ih =>
    rw [List.infix_cons_iff, not_or, ← List.isPrefixOf_iff_prefix] at h
    rw [fill, if_neg h.1, ih h.2]

/-- A placeholder that is never closed stays as it is, with everything behind it. -/
theorem fill_unclosed (evaluate : List Char → Option (List Char)) {back : List Char}
    (h : expression? none false back = none) :
    fill evaluate (opening ++ back) = opening ++ back := by
  rw [fill_opening_append, h]

/-- Filling goes over the pieces once, and what is put in has no part in how it goes on. -/
theorem Cuts.fill {template last : List Char} {pieces : List Piece}
    (h : Cuts template pieces last) (evaluate : List Char → Option (List Char)) :
    fill evaluate template = written (fun e => (evaluate e).getD (placeholder e)) pieces last := by
  induction h with
  | literal h => exact fill_literal evaluate h
  | unclosed hfront hback =>
    rw [fill_append_opening evaluate hfront, fill_unclosed evaluate hback]
    rfl
  | @piece front expression rest pieces last hfront hexpression hrest ih =>
    have hsplit : placeholder expression ++ rest = opening ++ (expression ++ '\x7d' :: rest) := by
      simp [placeholder]
    rw [hsplit, fill_append_opening evaluate hfront, fill_opening evaluate hexpression, ih]
    rfl

/-- What stands in the place of a placeholder: the text of what its expression names, or else the
placeholder. -/
def shown (t : SymbolTable) (results : List ActionResult) (expression : List Char) : List Char :=
  match Path.parse (String.ofList expression) with
  | .ok path => ((resolve? t results path).map String.toList).getD (placeholder expression)
  | .error _ => placeholder expression

theorem shown_eq_evaluate (t : SymbolTable) (results : List ActionResult) :
    shown t results = fun e => (evaluate? t results e).getD (placeholder e) := by
  funext e
  simp only [shown, evaluate?]
  cases Path.parse (String.ofList e) <;> rfl

/-- Among no results no path names anything. -/
theorem resolve?_nil (t : SymbolTable) (path : Path) : resolve? t [] path = none := by
  obtain ⟨root, segments⟩ := path
  cases root <;> cases segments <;> simp [resolve?, keyed?]

theorem shown_nil (t : SymbolTable) : shown t [] = placeholder := by
  funext e
  rw [shown]
  split <;> simp [resolve?_nil]

theorem render_of_opening {template : String} (h : opening <:+: template.toList)
    (t : SymbolTable) (results : List ActionResult) :
    render t template results = substitute t results template := by
  have hsome : hasPlaceholder template = true := by
    rw [hasPlaceholder, Option.isSome_iff_ne_none, ne_eq, Text.cutAt_eq_none_iff, not_not]
    exact h
  rw [render, if_pos hsome]

/-- A template with an opening is cut into literal texts and placeholders, whatever the results are;
the answer has the literal texts as they are and, in the place of each placeholder, the text of what
it names or the placeholder itself. Without results the answer is the template. -/
theorem render_single_pass {template : String} (h : opening <:+: template.toList) :
    ∃ pieces last, Cuts template.toList pieces last ∧
      template.toList = written placeholder pieces last ∧
      (∀ t results, (render t template results).toList = written (shown t results) pieces last) ∧
      ∀ t, render t template [] = template := by
  obtain ⟨pieces, last, hcuts⟩ := exists_cuts template.toList
  have hrender : ∀ t results,
      (render t template results).toList = written (shown t results) pieces last := by
    intro t results
    rw [render_of_opening h, substitute, String.toList_ofList, shown_eq_evaluate]
    exact hcuts.fill (evaluate? t results)
  refine ⟨pieces, last, hcuts, hcuts.eq_written, hrender, fun t => ?_⟩
  apply String.toList_injective
  rw [hrender, shown_nil, ← hcuts.eq_written]

/-- A quoted key with a brace, whose value is a placeholder itself, then a placeholder that names
nothing and one that is never closed. -/
theorem render_single_pass_nested :
    let template := "Hi $\x7bresult['\x7d']\x7d, $\x7bnope\x7d and $\x7bresult[0]"
    let results : List ActionResult :=
      [⟨"prices", .object [], .object [("\x7d", .string "$\x7bresult\x7d")], .scalar⟩]
    opening <:+: template.toList ∧
      (∃ pieces last, Cuts template.toList pieces last ∧
        (render .empty template results).toList = written (shown .empty results) pieces last ∧
        render .empty template [] = template) ∧
      render .empty template results =
        "Hi $\x7bresult\x7d, $\x7bnope\x7d and $\x7bresult[0]" := by
  intro template results
  have hopen : opening <:+: template.toList := by decide +kernel
  obtain ⟨pieces, last, hcuts, -, hrender, hnil⟩ := render_single_pass hopen
  refine ⟨hopen, ⟨pieces, last, hcuts, hrender .empty results, hnil .empty⟩, ?_⟩
  decide +kernel

end MarketQuery.Template
