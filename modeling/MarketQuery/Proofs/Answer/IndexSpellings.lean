import MarketQuery.Proofs.Answer.Advertised
import MarketQuery.Proofs.Json.Literal

/-!
The spellings of an index. An index and the key that is its decimal text are the same key, and as
numbers the same index. Nothing else of a segment is looked at on the way to a value, so the one may
stand for the other anywhere in a path, and a placeholder may have the index after a point, in
brackets or between quotes. The first result is one with the result of index zero, whatever follows.
-/
namespace MarketQuery

namespace Path

/-- Two segments that name the same place. An index may stand for its decimal text, and the text for
the index. -/
inductive Segment.Alike : Segment → Segment → Prop
  | same (segment : Segment) : Alike segment segment
  | toKey {n : Nat} (hn : n < Decimal.wordLimit) : Alike (.index n) (.key (Decimal.natText n))
  | toIndex {n : Nat} (hn : n < Decimal.wordLimit) : Alike (.key (Decimal.natText n)) (.index n)

/-- The decimal text of an index of 64 bits is read as the index. -/
theorem Segment.asIndex?_natText {n : Nat} (hn : n < Decimal.wordLimit) :
    (Segment.key (Decimal.natText n)).asIndex? = some n := by
  have hne : Decimal.digits n ≠ [] := Nat.toDigits_ne_nil
  have hdigits : ∀ c ∈ Decimal.digits n, c.isDigit = true := fun c => Decimal.isDigit_of_mem_digits
  rw [asIndex?, Decimal.natText, String.toList_ofList,
    naturalBelow_of_digits hne hdigits (by rwa [Decimal.value_digits]), Decimal.value_digits]

namespace Segment.Alike

variable {segment other : Segment}

theorem asKey_eq (h : segment.Alike other) : segment.asKey = other.asKey := by
  cases h with
  | same => rfl
  | toKey hn => rfl
  | toIndex hn => rfl

theorem asIndex?_eq (h : segment.Alike other) : segment.asIndex? = other.asIndex? := by
  cases h with
  | same => rfl
  | toKey hn => exact (asIndex?_natText hn).symm
  | toIndex hn => exact asIndex?_natText hn

end Segment.Alike

/-- The texts of an index in a path: after a point, in brackets, and between quotes of both
kinds. -/
def indexTexts (n : Nat) : List (List Char) :=
  let ds := Decimal.digits n
  ['.' :: ds, '[' :: (ds ++ [']']), '[' :: '\'' :: (ds ++ ['\'', ']']),
    '[' :: '"' :: (ds ++ ['"', ']'])]

theorem isWordChar_of_isDigit {c : Char} (h : c.isDigit = true) : isWordChar c = true := by
  simp [isWordChar, Char.isAlphanum, h]

/-- Each of the texts spells a segment that names the same place as the index. -/
theorem exists_segment_of_mem_indexTexts {n : Nat} (hn : n < Decimal.wordLimit) {text : List Char}
    (h : text ∈ indexTexts n) :
    ∃ segment, SegmentSpelling text segment ∧ segment.Alike (.index n) := by
  have hne : Decimal.digits n ≠ [] := Nat.toDigits_ne_nil
  have hdigits : ∀ c ∈ Decimal.digits n, c.isDigit = true := fun c => Decimal.isDigit_of_mem_digits
  have hnone : Blanks [] := by simp [Blanks]
  have hkey (quote : Char) (hquote : IsQuote quote) : SegmentSpelling
      ('[' :: quote :: (Decimal.digits n ++ [quote, ']'])) (.key (Decimal.natText n)) := by
    refine .quoted quote [] (Decimal.digits n) [] hquote hnone hnone fun hmem => ?_
    rcases hquote with rfl | rfl <;> exact absurd (hdigits _ hmem) (by decide)
  simp only [indexTexts, List.mem_cons, List.not_mem_nil, or_false] at h
  rcases h with rfl | rfl | rfl | rfl
  · exact ⟨_, .word _ hne fun c hc => isWordChar_of_isDigit (hdigits c hc), .toIndex hn⟩
  · refine ⟨.index n, ?_, .same _⟩
    have hlimit : Decimal.value (Decimal.digits n) < Decimal.wordLimit := by
      rwa [Decimal.value_digits]
    have hspelling := SegmentSpelling.index [] _ [] hne hdigits hnone hnone hlimit
    rwa [Decimal.value_digits] at hspelling
  · exact ⟨_, hkey '\'' (.inl rfl), .toIndex hn⟩
  · exact ⟨_, hkey '"' (.inr rfl), .toIndex hn⟩

theorem Spelling.append {front back : List Char} {segments more : List Segment}
    (hfront : Spelling front segments) (hback : Spelling back more) :
    Spelling (front ++ back) (segments ++ more) := by
  induction hfront with
  | nil => exact hback
  | cons hs hrest ih =>
    rw [List.append_assoc]
    exact .cons hs ih

/-- A path goes on with the segments that are spelled behind it. -/
theorem Spelled.append {front back : List Char} {path : Path} {segments : List Segment}
    (hfront : Spelled front path) (hback : Spelling back segments) :
    Spelled (front ++ back) ⟨path.root, path.segments ++ segments⟩ := by
  obtain ⟨rest, rfl, hrest⟩ := hfront
  exact ⟨rest ++ back, List.append_assoc .., hrest.append hback⟩

end Path

open MarketQuery.Path (Root Segment Spelled Spelling SegmentSpelling indexTexts)

namespace Node

variable {t : SymbolTable} {n : Node} {segments others : List Segment}

theorem child?_congr {segment other : Segment} (h : segment.Alike other) :
    n.child? t segment = n.child? t other := by
  rw [child?, child?, h.asKey_eq, h.asIndex?_eq]

theorem walk_congr (h : List.Forall₂ Segment.Alike segments others) :
    n.walk t segments = n.walk t others := by
  induction h generalizing n with
  | nil => rfl
  | cons hsegment hrest ih =>
    rw [walk, walk, child?_congr hsegment]
    exact congrArg _ (funext fun next => ih)

end Node

namespace Template

variable {t : SymbolTable} {results : List ActionResult} {segments others : List Segment}

theorem keyed?_congr {segment other : Segment} (h : segment.Alike other) :
    keyed? t results segment = keyed? t results other := by
  rw [keyed?, keyed?, h.asKey_eq, h.asIndex?_eq]

theorem resolve?_congr (root : Root) (h : List.Forall₂ Segment.Alike segments others) :
    resolve? t results ⟨root, segments⟩ = resolve? t results ⟨root, others⟩ := by
  cases h with
  | nil => rfl
  | cons hsegment hrest =>
    cases root with
    | result => simp only [resolve?, Node.walk_congr (.cons hsegment hrest)]
    | results => simp only [resolve?, keyed?_congr hsegment, Node.walk_congr hrest]

/-- The word for the first result leads where index zero leads. -/
theorem resolve?_result_eq (hne : results ≠ []) (segments : List Segment) :
    resolve? t results ⟨.result, segments⟩ =
      resolve? t results ⟨.results, .index 0 :: segments⟩ := by
  obtain ⟨r, rest, rfl⟩ := List.exists_cons_of_ne_nil hne
  have hfirst : Leads (r :: rest) ⟨.result, segments⟩ r segments := .first rfl
  have hzero : Leads (r :: rest) ⟨.results, .index 0 :: segments⟩ r segments := .number rfl rfl
  rw [hfirst.resolve_eq, hzero.resolve_eq]

theorem evaluate?_of_spelled {s : List Char} {path : Path} (h : Spelled s path) :
    evaluate? t results s = (resolve? t results path).map String.toList := by
  rw [evaluate?, Path.parse_of_spelled h]

/-- In all results and for all tables: paths whose segments name the same places, one by one, lead
to the same text. A placeholder leads where the path with the index leads, whichever text of the
index stands in it. The word for the first result is one with the result of index zero. -/
theorem index_spellings_agree (t : SymbolTable) (results : List ActionResult) :
    (∀ root segments others, List.Forall₂ Segment.Alike segments others →
      resolve? t results ⟨root, segments⟩ = resolve? t results ⟨root, others⟩) ∧
    (∀ front path back segments, Spelled front path → Spelling back segments →
      ∀ n < Decimal.wordLimit, ∀ text ∈ indexTexts n,
        evaluate? t results (front ++ text ++ back) =
          (resolve? t results ⟨path.root, path.segments ++ .index n :: segments⟩).map
            String.toList) ∧
    (results ≠ [] → ∀ segments,
      resolve? t results ⟨.result, segments⟩ =
        resolve? t results ⟨.results, .index 0 :: segments⟩) := by
  refine ⟨fun root segments others => resolve?_congr root, ?_, resolve?_result_eq⟩
  intro front path back segments hfront hback n hn text htext
  obtain ⟨segment, hsegment, halike⟩ := Path.exists_segment_of_mem_indexTexts hn htext
  have hsame : ∀ more : List Segment, List.Forall₂ Segment.Alike more more :=
    fun more => List.forall₂_same.mpr fun other _ => .same other
  have hspelled : Spelled (front ++ text ++ back)
      ⟨path.root, path.segments ++ segment :: segments⟩ := by
    rw [List.append_assoc]
    exact hfront.append (.cons hsegment hback)
  have hsegments := List.rel_append (hsame path.segments) (.cons halike (hsame segments))
  rw [evaluate?_of_spelled hspelled, resolve?_congr path.root hsegments]

/-- A list inside of an object, in the second of two results, and a price under a numeric name. -/
theorem index_spellings_agree_nested :
    let prices : Json := .object [("2", .object [("current", .number (.float 2.5))])]
    let lists : Json := .object [("1", .array [.string "x", .string "y"])]
    let results : List ActionResult :=
      [⟨"a", .null, prices, .pricedAssetMap⟩, ⟨"b", .null, lists, .scalar⟩]
    let t := SymbolTable.empty
    (∀ text ∈ indexTexts 1, evaluate? t results ("results.b".toList ++ text ++ "[1]".toList) =
      some "y".toList) ∧
    resolve? t results ⟨.results, [.key "1", .index 1, .key "1"]⟩ =
      resolve? t results ⟨.results, [.index 1, .key "1", .index 1]⟩ ∧
    resolve? t results ⟨.result, [.index 2]⟩ = some "2: $2.5000" ∧
    resolve? t results ⟨.result, [.index 2]⟩ =
      resolve? t results ⟨.results, [.index 0, .index 2]⟩ := by
  intro prices lists results t
  obtain ⟨hpaths, htexts, hroots⟩ := index_spellings_agree t results
  have hone : 1 < Decimal.wordLimit := by decide
  have hparse : Path.parse "results.b" = .ok ⟨.results, [.key "b"]⟩ := by decide +kernel
  have hfront : Spelled "results.b".toList ⟨.results, [.key "b"]⟩ := Path.spelled_of_parse hparse
  have hback : Spelling "[1]".toList [.index 1] :=
    .cons (.index [] ['1'] [] (by decide) (List.all_eq_true.mp rfl) (List.forall_mem_nil _)
      (List.forall_mem_nil _) (by decide)) .nil
  have hswapped : List.Forall₂ Segment.Alike [.key "1", .index 1, .key "1"]
      [.index 1, .key "1", .index 1] :=
    .cons (.toIndex hone) (.cons (.toKey hone) (.cons (.toIndex hone) .nil))
  refine ⟨?_, hpaths _ _ _ hswapped, ?_, hroots (by simp [results]) _⟩
  · intro text htext
    rw [htexts _ _ _ _ hfront hback 1 hone text htext]
    rfl
  · decide +kernel

end Template

end MarketQuery
