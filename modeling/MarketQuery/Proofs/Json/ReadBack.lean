import MarketQuery.Proofs.Json.Spelling

/-!
The compact text of a document read where it stands inside of other text. Whatever comes after it,
the reader takes the text for the document or refuses it: it refuses a number that is not finite,
and with it everything that holds one. So a value that reads back as the item of an array reads
back inside of every other container that is nested no more deeply.
-/
namespace MarketQuery

namespace Json

/-- What every value has if it has it as soon as its parts have it. -/
theorem induction {P : Json → Prop} (null : P .null) (bool : ∀ b, P (.bool b))
    (number : ∀ n, P (.number n)) (string : ∀ s, P (.string s))
    (array : ∀ items, (∀ v ∈ items, P v) → P (.array items))
    (object : ∀ fields : Fields, (∀ m ∈ fields, P m.2) → P (.object fields)) (v : Json) : P v :=
  @Json.rec P (fun items => ∀ v ∈ items, P v) (fun fields => ∀ m ∈ fields, P m.2) (fun m => P m.2)
    null bool number string array object
    (by simp) (fun _ _ hv hrest => List.forall_mem_cons.mpr ⟨hv, hrest⟩)
    (by simp) (fun _ _ hm hrest => List.forall_mem_cons.mpr ⟨hm, hrest⟩)
    (fun _ _ hv => hv) v

theorem document_array (items : List Json) :
    (Json.array items).document = .array (items.map document) := by
  have hitems : ∀ items, documents items = items.map document := by
    intro items
    induction items with
    | nil => rfl
    | cons v rest ih => rw [documents, ih, List.map_cons]
  rw [document, hitems]

theorem document_object (fields : Fields) :
    (Json.object fields).document =
      Document.ofMembers (fields.map fun m => (m.1, m.2.document)) := by
  have hmembers : ∀ fields : Fields, memberDocuments fields =
      (fields.map fun m => (m.1, m.2.document)).map fun m => (Spelling.encode m.1, m.2) := by
    intro fields
    induction fields with
    | nil => rfl
    | cons m rest ih => rw [memberDocuments, ih, List.map_cons, List.map_cons]
  rw [document, hmembers, Document.ofMembers]

end Json

namespace Document

theorem compactItems_cons {rest : List Document} (hne : rest ≠ []) (d : Document) :
    compactItems (d :: rest) = d.compact ++ ',' :: compactItems rest := by
  cases rest with
  | nil => exact absurd rfl hne
  | cons next rest =>
    rw [compactItems]
    simp

theorem compactMembers_cons {rest : List (List Char × Document)} (hne : rest ≠ [])
    (key : List Char) (d : Document) : compactMembers ((key, d) :: rest) =
      quotedSpelling key ++ ':' :: d.compact ++ ',' :: compactMembers rest := by
  cases rest with
  | nil => exact absurd rfl hne
  | cons next rest =>
    rw [compactMembers]
    simp

end Document

namespace Reader

def Closes (e : Char) : Prop :=
  e = ',' ∨ e = ']' ∨ e = '}'

/-- What the reader makes of the text of a document where a value may stand: it takes it for the
document, or it refuses it. -/
structure Treats (d : Document) (taken : Bool) : Prop where
  opens : ∀ stack, run ⟨stack, .firstItem⟩ d.compact = run ⟨stack, .value⟩ d.compact
  closes : ∀ stack e rest, Closes e → run ⟨stack, .value⟩ (d.compact ++ e :: rest) =
    if taken then run (complete d stack) (e :: rest) else none

theorem step_complete (d : Document) (stack : List Frame) (c : Char) :
    step (complete d stack) c = settled (complete d stack) c := by
  cases stack with
  | nil => rfl
  | cons frame rest => cases frame <;> rfl

/-- No array ends where a value begins. -/
theorem run_firstItem {c : Char} (hspace : isSpace c = false) (hclose : c ≠ ']')
    (rest : List Char) (stack : List Frame) :
    run ⟨stack, .firstItem⟩ (c :: rest) = run ⟨stack, .value⟩ (c :: rest) := by
  simp [run, step, hspace, hclose]

/-- A document at whose end the reader needs no further character. -/
theorem Treats.of_run {d : Document} {taken : Bool}
    (hopens : ∀ stack, run ⟨stack, .firstItem⟩ d.compact = run ⟨stack, .value⟩ d.compact)
    (hrun : ∀ stack, run ⟨stack, .value⟩ d.compact =
      if taken then some (complete d stack) else none) : Treats d taken := by
  refine ⟨hopens, fun stack e rest he => ?_⟩
  rw [run_append, hrun]
  cases taken <;> rfl

/-- Such a document is also read as a whole text. -/
theorem document?_of_run {d : Document} (taken : Bool)
    (hrun : ∀ stack, run ⟨stack, .value⟩ d.compact =
      if taken then some (complete d stack) else none) :
    document? d.compact = if taken then some d else none := by
  rw [document?, start, hrun]
  cases taken <;> rfl

theorem treats_null : Treats .null true :=
  .of_run (fun _ => rfl) fun _ => rfl

theorem treats_bool (b : Bool) : Treats (.bool b) true := by
  cases b <;> exact .of_run (fun _ => rfl) fun _ => rfl

theorem treats_string (s : String) : Treats (Document.ofString s) true :=
  .of_run (fun stack => run_firstItem rfl (by decide) _ stack) fun stack => run_string s stack

theorem run_number {part last : NumberPart} {text : List Char} (h : part.run? text = some last)
    (stack : List Frame) (literal : List Char) :
    run ⟨stack, .number part literal⟩ text =
      some ⟨stack, .number last (text.reverse ++ literal)⟩ := by
  induction text generalizing part literal with
  | nil =>
    obtain rfl : part = last := Option.some.inj h
    rfl
  | cons c rest ih =>
    cases hnext : part.next? c with
    | none => simp [NumberPart.run?, hnext] at h
    | some next =>
      rw [NumberPart.run?_cons hnext] at h
      rw [run]
      simp [step, hnext, ih h]

theorem beginValue_number {part : NumberPart} {c : Char}
    (h : NumberPart.minus.next? c = some part) (stack : List Frame) :
    isSpace c = false ∧ c ≠ ']' ∧ beginValue stack c = some ⟨stack, .number part [c]⟩ := by
  have hdigit : c.isDigit = true ∧ (c ≠ '0' → part = .whole) := by
    by_cases hzero : c = '0'
    · exact ⟨by rw [hzero]; rfl, fun hne => absurd hzero hne⟩
    · have hpart : c.isDigit = true ∧ NumberPart.whole = part := by
        simpa [NumberPart.next?, hzero] using h
      exact ⟨hpart.1, fun _ => hpart.2.symm⟩
  have hne : ∀ d : Char, d.isDigit = false → c ≠ d := by
    rintro d hd rfl
    simp [hd] at hdigit
  refine ⟨?_, hne ']' rfl, ?_⟩
  · simp [isSpace, hne ' ' rfl, hne '\t' rfl, hne '\n' rfl, hne '\r' rfl]
  · unfold beginValue
    split
    case h_8 =>
      obtain rfl := Option.some.inj h
      rfl
    case h_9 hzero => rw [if_pos hdigit.1, hdigit.2 hzero]
    all_goals exact absurd hdigit.1 (by decide)

/-- A literal is taken up to its end, and there it may still go on. -/
theorem IsLiteral.run_value {text : List Char} (h : IsLiteral text) :
    ∃ last, last.mayEnd = true ∧ ∀ stack,
      run ⟨stack, .value⟩ text = some ⟨stack, .number last text.reverse⟩ ∧
      run ⟨stack, .firstItem⟩ text = some ⟨stack, .number last text.reverse⟩ := by
  obtain ⟨body, htext, last, hrun, hlast⟩ := h
  refine ⟨last, hlast, fun stack => ?_⟩
  rcases htext with rfl | rfl
  · cases text with
    | nil =>
      obtain rfl : NumberPart.minus = last := Option.some.inj hrun
      simp [NumberPart.mayEnd] at hlast
    | cons c rest =>
      cases hnext : NumberPart.minus.next? c with
      | none => simp [NumberPart.run?, hnext] at hrun
      | some part =>
        rw [NumberPart.run?_cons hnext] at hrun
        obtain ⟨hspace, hclose, hbegin⟩ := beginValue_number hnext stack
        rw [run_firstItem hspace hclose, and_self, run]
        simp [step, hspace, hbegin, run_number hrun]
  · have hminus : run ⟨stack, .value⟩ ('-' :: body) = run ⟨stack, .number .minus ['-']⟩ body := rfl
    rw [run_firstItem rfl (by decide), hminus, run_number hrun, and_self, List.reverse_cons]

theorem treats_literal {text : List Char} (h : IsLiteral text) : Treats (.number text) true := by
  obtain ⟨last, hlast, hrun⟩ := h.run_value
  refine ⟨fun stack => ?_, fun stack e rest he => ?_⟩
  · exact (hrun stack).2.trans (hrun stack).1.symm
  · have hstop : last.next? e = none := by
      rcases he with rfl | rfl | rfl <;> cases last <;> rfl
    have hstep : step ⟨stack, .number last text.reverse⟩ e =
        step (complete (.number text) stack) e := by
      rw [step_complete, step]
      simp [hstop, hlast]
    rw [if_pos rfl, Document.compact, run_append, (hrun stack).1, Option.bind_some, run, run, hstep]

theorem treats_number (n : Number) : ∃ taken, Treats (.number n.literal) taken := by
  rcases n.isLiteral_literal with hliteral | hword
  · exact ⟨true, treats_literal hliteral⟩
  · refine ⟨false, ?_⟩
    simp only [List.mem_cons, List.not_mem_nil, or_false] at hword
    rcases hword with hword | hword | hword <;> rw [hword]
    all_goals exact .of_run (fun _ => rfl) fun _ => rfl

theorem ite_all_cons {α β : Type} (p : α → Bool) (a : α) (rest : List α) (b : Option β) :
    (if p a then if rest.all p then b else none else none) =
      if (a :: rest).all p then b else none := by
  cases h : p a <;> simp [h]

theorem run_items (taken : Document → Bool) {items : List Document} (hne : items ≠ [])
    (h : ∀ d ∈ items, Treats d (taken d)) (done : List Document) (stack : List Frame) :
    run ⟨.array done :: stack, .value⟩ (Document.compactItems items ++ [']']) =
      if items.all taken then some (complete (.array (done.reverse ++ items)) stack) else none := by
  induction items generalizing done with
  | nil => exact absurd rfl hne
  | cons d rest ih =>
    have hd := h d (by simp)
    cases rest with
    | nil =>
      rw [Document.compactItems, hd.closes _ _ _ (.inr (.inl rfl))]
      cases htaken : taken d <;>
        simp [htaken, run, step, complete, settled, isSpace, afterValue]
    | cons next rest =>
      have hcomma : run (complete d (.array done :: stack))
          (',' :: (Document.compactItems (next :: rest) ++ [']'])) =
          run ⟨.array (d :: done) :: stack, .value⟩
            (Document.compactItems (next :: rest) ++ [']']) := rfl
      have hrest := ih (by simp) (fun d hd => h d (by simp [hd])) (d :: done)
      rw [List.reverse_cons, List.append_assoc] at hrest
      rw [Document.compactItems_cons (by simp), List.append_assoc, List.cons_append,
        hd.closes _ _ _ (.inl rfl), hcomma, hrest]
      exact ite_all_cons taken d (next :: rest) _

theorem run_array (taken : Document → Bool) {items : List Document}
    (h : ∀ d ∈ items, Treats d (taken d)) (stack : List Frame) : run ⟨stack, .value⟩ (Document.array items).compact =
      if items.all taken then some (complete (.array items) stack) else none := by
  cases items with
  | nil => rfl
  | cons d rest =>
    have hopens :
        run ⟨.array [] :: stack, .firstItem⟩ (Document.compactItems (d :: rest) ++ [']']) =
          run ⟨.array [] :: stack, .value⟩ (Document.compactItems (d :: rest) ++ [']']) := by
      have hfirst : d.compact <+: Document.compactItems (d :: rest) := by
        cases rest with
        | nil => exact List.prefix_rfl
        | cons next rest =>
          rw [Document.compactItems_cons (by simp)]
          exact List.prefix_append _ _
      obtain ⟨back, hback⟩ := hfirst
      rw [← hback, List.append_assoc, run_append, (h d (by simp)).opens, ← run_append]
    have hbracket : run ⟨stack, .value⟩ (Document.array (d :: rest)).compact =
        run ⟨.array [] :: stack, .firstItem⟩ (Document.compactItems (d :: rest) ++ [']']) := by
      rw [Document.compact]
      rfl
    rw [hbracket, hopens, run_items taken (by simp) h]
    rfl

theorem treats_array (taken : Document → Bool) {items : List Document}
    (h : ∀ d ∈ items, Treats d (taken d)) :
    Treats (.array items) (items.all taken) :=
  .of_run (fun stack => by
    rw [Document.compact]
    exact run_firstItem rfl (by decide) _ stack) (run_array taken h)

/-- A key, a colon and a value become a member of the object that is open. -/
theorem run_member {mode : Mode} (hmode : mode = .firstMember ∨ mode = .key) (s : String)
    {d : Document} {taken : Bool} (h : Treats d taken) {e : Char} (he : Closes e)
    (done : List (List Char × Document)) (key rest : List Char) (stack : List Frame) :
    run ⟨.object done key :: stack, mode⟩
        (Document.quotedSpelling (Spelling.encode s) ++ ':' :: d.compact ++ e :: rest) =
      if taken then run ⟨.object ((Spelling.encode s, d) :: done) [] :: stack, .after⟩ (e :: rest)
      else none := by
  rw [List.append_assoc, run_append, run_key hmode, Option.bind_some, List.cons_append]
  exact h.closes _ _ _ he

theorem run_members (taken : Document → Bool) {members : List (String × Document)}
    (hne : members ≠ []) (h : ∀ m ∈ members, Treats m.2 (taken m.2)) {mode : Mode}
    (hmode : mode = .firstMember ∨ mode = .key) (done : List (List Char × Document))
    (key : List Char) (stack : List Frame) :
    run ⟨.object done key :: stack, mode⟩
        (Document.compactMembers (members.map fun m => (Spelling.encode m.1, m.2)) ++ ['}']) =
      if members.all fun m => taken m.2 then
        some (complete
          (.object (done.reverse ++ members.map fun m => (Spelling.encode m.1, m.2))) stack)
      else none := by
  induction members generalizing done key mode with
  | nil => exact absurd rfl hne
  | cons m rest ih =>
    obtain ⟨s, d⟩ := m
    have hd : Treats d (taken d) := h (s, d) (by simp)
    cases rest with
    | nil =>
      have hsingle : Document.compactMembers [(Spelling.encode s, d)] =
          Document.quotedSpelling (Spelling.encode s) ++ ':' :: d.compact := by
        simp [Document.compactMembers]
      rw [List.map_cons, List.map_nil, hsingle, run_member hmode s hd (.inr (.inr rfl))]
      cases htaken : taken d <;>
        simp [htaken, run, step, settled, isSpace, afterValue]
    | cons next rest =>
      have hrest := ih (by simp) (fun m hm => h m (by simp [hm])) (.inr rfl)
        ((Spelling.encode s, d) :: done) []
      have hcomma : ∀ text, run ⟨.object ((Spelling.encode s, d) :: done) [] :: stack, .after⟩
          (',' :: text) =
          run ⟨.object ((Spelling.encode s, d) :: done) [] :: stack, .key⟩ text := fun _ => rfl
      rw [List.reverse_cons, List.append_assoc] at hrest
      rw [List.map_cons, Document.compactMembers_cons (by simp), List.append_assoc,
        List.cons_append, run_member hmode s hd (.inl rfl), hcomma, hrest]
      exact ite_all_cons (fun m => taken m.2) (s, d) (next :: rest) _

theorem run_ofMembers (taken : Document → Bool) {members : List (String × Document)}
    (h : ∀ m ∈ members, Treats m.2 (taken m.2)) (stack : List Frame) :
    run ⟨stack, .value⟩ (Document.ofMembers members).compact =
      if members.all fun m => taken m.2 then some (complete (.ofMembers members) stack)
      else none := by
  rw [Document.ofMembers, Document.compact]
  cases members with
  | nil => rfl
  | cons m rest =>
    have hbrace : ∀ text, run ⟨stack, .value⟩ ('{' :: text) =
        run ⟨.object [] [] :: stack, .firstMember⟩ text := fun _ => rfl
    rw [List.cons_append, hbrace, run_members taken (by simp) h (.inl rfl)]
    rfl

theorem treats_ofMembers (taken : Document → Bool) {members : List (String × Document)}
    (h : ∀ m ∈ members, Treats m.2 (taken m.2)) :
    Treats (.ofMembers members) (members.all fun m => taken m.2) :=
  .of_run (fun stack => by
    rw [Document.ofMembers, Document.compact]
    exact run_firstItem rfl (by decide) _ stack) (run_ofMembers taken h)

theorem treats_document (v : Json) : ∃ taken, Treats v.document taken := by
  induction v using Json.induction with
  | null => exact ⟨true, treats_null⟩
  | bool b => exact ⟨true, treats_bool b⟩
  | number n => exact treats_number n
  | string s => exact ⟨true, treats_string s⟩
  | array items ih =>
    have hitems : ∀ d ∈ items.map Json.document, ∃ taken, Treats d taken :=
      List.forall_mem_map.mpr ih
    choose! taken htaken using hitems
    rw [Json.document_array]
    exact ⟨_, treats_array taken htaken⟩
  | object fields ih =>
    have hmembers : ∀ d ∈ fields.map fun m => m.2.document, ∃ taken, Treats d taken :=
      List.forall_mem_map.mpr ih
    choose! taken htaken using hmembers
    rw [Json.document_object]
    exact ⟨_, treats_ofMembers taken (List.forall_mem_map.mpr (List.forall_mem_map.mp htaken))⟩

end Reader

namespace Text

theorem flat_append {front back : List Char} : Flat (front ++ back) ↔ Flat front ∧ Flat back :=
  List.forall_mem_append

theorem flat_cons {c : Char} {rest : List Char} : Flat (c :: rest) ↔ 0x20 ≤ c.toNat ∧ Flat rest :=
  List.forall_mem_cons

end Text

namespace Document

open Text

theorem flat_quotedSpelling {spelling : List Char} (h : Flat spelling) :
    Flat (quotedSpelling spelling) :=
  flat_append.mpr ⟨flat_cons.mpr ⟨by decide, h⟩, flat_cons.mpr ⟨by decide, List.forall_mem_nil _⟩⟩

theorem flat_array {items : List Document} (h : ∀ d ∈ items, Flat d.compact) :
    Flat (array items).compact := by
  have hitems : Flat (compactItems items) := by
    induction items with
    | nil => exact List.forall_mem_nil _
    | cons d rest ih =>
      obtain ⟨hd, hrest⟩ := List.forall_mem_cons.mp h
      cases rest with
      | nil => exact hd
      | cons next more =>
        rw [compactItems_cons (by simp)]
        exact flat_append.mpr ⟨hd, flat_cons.mpr ⟨by decide, ih hrest⟩⟩
  rw [compact]
  exact flat_append.mpr ⟨flat_cons.mpr ⟨by decide, hitems⟩, by simp [Flat]⟩

theorem flat_ofMembers {members : List (String × Document)}
    (h : ∀ m ∈ members, Flat m.2.compact) : Flat (ofMembers members).compact := by
  have hmembers : Flat (compactMembers (members.map fun m => (Spelling.encode m.1, m.2))) := by
    induction members with
    | nil => exact List.forall_mem_nil _
    | cons m rest ih =>
      obtain ⟨hm, hrest⟩ := List.forall_mem_cons.mp h
      have hkey := flat_quotedSpelling (Spelling.flat_encode m.1)
      have hmember : Flat (quotedSpelling (Spelling.encode m.1) ++ ':' :: m.2.compact) :=
        flat_append.mpr ⟨hkey, flat_cons.mpr ⟨by decide, hm⟩⟩
      cases rest with
      | nil => simpa [compactMembers] using hmember
      | cons next more =>
        rw [List.map_cons, compactMembers_cons (by simp)]
        exact flat_append.mpr ⟨hmember, flat_cons.mpr ⟨by decide, ih hrest⟩⟩
  rw [ofMembers, compact]
  exact flat_append.mpr ⟨flat_cons.mpr ⟨by decide, hmembers⟩, by simp [Flat]⟩

theorem flat_ofString (s : String) : Flat (ofString s).compact :=
  flat_quotedSpelling (Spelling.flat_encode s)

end Document

/-- No value is written with a control character. -/
theorem Json.flat_document (v : Json) : Text.Flat v.document.compact := by
  induction v using Json.induction with
  | null => exact Text.flat_of_all rfl
  | bool b => cases b <;> exact Text.flat_of_all rfl
  | number n => exact n.flat_literal
  | string s => exact Document.flat_ofString s
  | array items ih =>
    rw [document_array]
    exact Document.flat_array (List.forall_mem_map.mpr ih)
  | object fields ih =>
    rw [document_object]
    exact Document.flat_ofMembers (List.forall_mem_map.mpr ih)

namespace Json

open Reader

theorem toList_compact (v : Json) : v.compact.toList = v.document.compact :=
  String.toList_ofList

/-- The value is what its compact text denotes. -/
def ReadsBack (v : Json) : Prop :=
  parse? v.compact.toList = some v

/-- Where a value may be nested so deep, the text of the value is read as the value, whatever
surrounds it. -/
structure Embeds (depth : Nat) (v : Json) : Prop where
  treats : Treats v.document true
  value : v.document.valueWithin? depth = some v

theorem embeds_null (depth : Nat) : Embeds depth null :=
  ⟨treats_null, by simp [document, Document.valueWithin?]⟩

theorem embeds_string (depth : Nat) (s : String) : Embeds depth (string s) :=
  ⟨treats_string s,
    by simp [document, Document.ofString, Document.valueWithin?, Spelling.decode?_encode]⟩

theorem document_ofNat (n : Nat) : (Json.ofInt n).document = .ofNat n := by
  simp [ofInt, document, Number.literal, Document.ofNat]

theorem embeds_ofNat (depth : Nat) {n : Nat} (h : n < Decimal.wordLimit) :
    Embeds depth (ofInt n) := by
  refine ⟨?_, ?_⟩ <;> rw [document_ofNat]
  · exact treats_literal ⟨_, .inl rfl, Decimal.isMagnitude_digits n⟩
  · simp [Document.ofNat, Document.valueWithin?, Number.ofLiteral?_digits h, ofInt]

variable {depth : Nat} {fields : Fields}

theorem valueWithin?_object (h : ∀ m ∈ fields, Embeds depth m.2) :
    (Json.object fields).document.valueWithin? (depth + 1) = some (ofFields fields) := by
  have hmembers : ((fields.map fun m => (Spelling.encode m.1, m.2.document)).mapM fun m => do
      let key ← Spelling.decode? m.1
      let v ← Document.valueWithin? depth m.2
      some (key, v)) = some fields := by
    induction fields with
    | nil => rfl
    | cons m rest ih =>
      obtain ⟨hm, hrest⟩ := List.forall_mem_cons.mp h
      rw [List.map_cons, List.mapM_cons, ih hrest]
      simp [Spelling.decode?_encode, hm.value]
  rw [document_object, Document.ofMembers, List.map_map, Document.valueWithin?]
  exact congrArg (Option.map ofFields) hmembers

theorem run_object (h : ∀ m ∈ fields, Embeds depth m.2) (stack : List Frame) :
    run ⟨stack, .value⟩ (Json.object fields).document.compact =
      some (complete (Json.object fields).document stack) := by
  have hall : ((fields.map fun m => (m.1, m.2.document)).all fun _ => true) = true :=
    List.all_eq_true.mpr fun _ _ => rfl
  have htreats : ∀ m ∈ fields.map fun m => (m.1, m.2.document), Treats m.2 true :=
    List.forall_mem_map.mpr fun m hm => (h m hm).treats
  have hrun := run_ofMembers (fun _ => true) htreats stack
  rw [if_pos hall] at hrun
  rw [document_object, hrun]

theorem embeds_object (h : ∀ m ∈ fields, Embeds depth m.2)
    (hsorted : Keyed.ofList fields = fields) :
    Embeds (depth + 1) (object fields) := by
  refine ⟨.of_run (fun stack => ?_) (run_object h), ?_⟩
  · rw [document_object, Document.ofMembers, Document.compact]
    exact run_firstItem rfl (by decide) _ stack
  · rw [valueWithin?_object h, ofFields, hsorted]

/-- A list of members is read as an object, and its members are put in order. -/
theorem parse?_object (h : ∀ m ∈ fields, Embeds (Document.nestingLimit - 1) m.2) :
    parse? (Json.object fields).compact.toList = some (ofFields fields) := by
  have hdocument : document? (Json.object fields).document.compact =
      some (Json.object fields).document := document?_of_run true (run_object h)
  rw [parse?, toList_compact, hdocument]
  exact valueWithin?_object h

/-- What reads back as the item of an array can stand inside of every container. -/
theorem ReadsBack.embeds {v : Json} (h : (Json.array [v]).ReadsBack) :
    Embeds (Document.nestingLimit - 1) v := by
  obtain ⟨taken, htreats⟩ := treats_document v
  have hitems : ∀ d ∈ [v.document], Treats d taken := by simpa using htreats
  have hdocument := document?_of_run _ (run_array (fun _ => taken) hitems)
  rw [ReadsBack, parse?, toList_compact, document_array, List.map_singleton, hdocument] at h
  cases taken with
  | false => simp at h
  | true =>
    refine ⟨htreats, ?_⟩
    simpa [Document.value?, Document.nestingLimit, Document.valueWithin?, Option.bind_eq_some_iff]
      using h

end Json

end MarketQuery
