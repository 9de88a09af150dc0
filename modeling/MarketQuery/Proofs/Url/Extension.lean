import Mathlib.Data.List.TakeWhile
import MarketQuery.Proofs.Url.Segments
import MarketQuery.Url.Address

/-!
Addresses that go on below a base. Nothing that stands before the slash at the end of a base is read
differently for what comes after the slash: each reader stops at the slash at the latest. So the
address has the scheme, the host and the base path of its base, and below them the segments that
are added, read one after the other.
-/
namespace MarketQuery.Url

open Percent (isFormChar)

/-- A text names an address of the web, with neither query nor fragment, if a slash is put behind
it. -/
structure Based (base : String) (b : Url) : Prop where
  parsed : parse (base ++ "/") = .ok b
  web : Family.ofScheme b.scheme = .web
  no_query : b.query = none
  no_fragment : b.fragment = none

def isBase (base : String) : Bool :=
  match parse (base ++ "/") with
  | .ok b => Family.ofScheme b.scheme = .web && b.query.isNone && b.fragment.isNone
  | .error _ => false

theorem isBase_iff {base : String} : isBase base = true ↔ ∃ b, Based base b := by
  unfold isBase
  constructor
  · intro h
    cases hparse : parse (base ++ "/") with
    | error e => simp [hparse] at h
    | ok b =>
      simp only [hparse, Bool.and_eq_true, decide_eq_true_eq, Option.isNone_iff_eq_none] at h
      exact ⟨b, hparse, h.1.1, h.1.2, h.2⟩
  · rintro ⟨b, h⟩
    simp [h.parsed, h.web, h.no_query, h.no_fragment]

def marked : Option (List Char) → List Char
  | some query => '?' :: query
  | none => []

theorem marked_injective : Function.Injective marked := by
  intro query query' h
  cases query <;> cases query' <;> simp_all [marked]

theorem eq_of_mem_head?_marked {query : Option (List Char)} {c : Char}
    (h : c ∈ (marked query).head?) : c = '?' := by
  cases query with
  | none => simp [marked] at h
  | some text => exact (Option.some.inj h).symm

def isQueryChar (c : Char) : Bool :=
  isFormChar c || c == '=' || c == '&'

/-- What stands behind the slash of a base. -/
structure Tail (segments : List (List Char)) (query : Option (List Char)) : Prop where
  ne_nil : segments ≠ []
  form : ∀ s ∈ segments, ∀ c ∈ s, isFormChar c = true
  query : ∀ text ∈ query, ∀ c ∈ text, isQueryChar c = true

def tailText (segments : List (List Char)) (query : Option (List Char)) : List Char :=
  ['/'].intercalate segments ++ marked query

/-- The blanks that do not count at the ends of an address. -/
def isEdge (c : Char) : Bool := decide (c ≤ ' ')

theorem trimmed_append (s : List Char) {tail : List Char} (htail : ∀ c ∈ tail, isEdge c = false) :
    trimmed (s ++ '/' :: tail) = s.dropWhile isEdge ++ '/' :: tail := by
  have hslash : isEdge '/' = false := by decide
  have hlast : ∀ c ∈ (tail.reverse ++ ['/']).head?, isEdge c = false := by
    intro c hc
    rcases List.mem_append.mp (List.mem_of_mem_head? hc) with hc | hc
    · exact htail c (List.mem_reverse.mp hc)
    · rw [List.mem_singleton.mp hc, hslash]
  have hrun : ∀ c ∈ (s.dropWhile isEdge ++ '/' :: tail).reverse.head?, isEdge c = false := by
    intro c hc
    refine hlast c ?_
    rw [List.reverse_append, List.reverse_cons] at hc
    cases htext : tail.reverse ++ ['/'] with
    | nil => simp at htext
    | cons d rest => rwa [htext] at hc
  have hedge : trimmed (s ++ '/' :: tail) =
      (((s ++ '/' :: tail).dropWhile isEdge).reverse.dropWhile isEdge).reverse := rfl
  have hkept : (s.dropWhile isEdge ++ '/' :: tail).reverse.dropWhile isEdge =
      (s.dropWhile isEdge ++ '/' :: tail).reverse := by
    rw [← List.nil_append (s.dropWhile isEdge ++ '/' :: tail).reverse]
    exact Text.dropWhile_run (by simp) hrun
  rw [hedge, Text.dropWhile_append_stop hslash, hkept, List.reverse_reverse]

theorem counted_append (s t : List Char) : counted (s ++ t) = counted s ++ counted t :=
  List.filter_append ..

/-- A scheme ends before the slash. -/
theorem exists_cutScheme? {front : List Char} {scheme : String} {rest : List Char}
    (h : cutScheme? (front ++ ['/']) = some (scheme, rest)) :
    ∃ mid, rest = mid ++ ['/'] ∧
      ∀ tail, cutScheme? (front ++ '/' :: tail) = some (scheme, mid ++ '/' :: tail) := by
  have hslash : isSchemeChar '/' = false := by decide
  unfold cutScheme? at h ⊢
  simp only [Text.takeWhile_append_stop hslash, Text.dropWhile_append_stop hslash] at h ⊢
  cases hend : front.dropWhile isSchemeChar with
  | nil => simp [hend] at h
  | cons c mid =>
    simp only [hend, List.cons_append] at h ⊢
    split at h
    · next hletter heq =>
      obtain ⟨rfl, rfl⟩ := List.cons.inj heq
      obtain ⟨rfl, rfl⟩ := Prod.mk.inj (Option.some.inj h)
      refine ⟨mid, rfl, ?_⟩
      intro tail
      simp [hletter]
    · simp at h

def placed (scheme : String) (a : Authority) (parts : List Char × Option String × Option String) :
    Url where
  scheme := scheme
  username := a.username
  password := a.password
  host := some a.host
  portNumber := a.portNumber
  path := (absolutePath .web parts.1).text .web
  query := parts.2.1
  fragment := parts.2.2

/-- An authority ends before the slash. -/
theorem exists_afterSlashes {scheme : String} {front : List Char} {b : Url}
    (hweb : Family.ofScheme scheme = .web) (h : afterSlashes scheme (front ++ ['/']) = .ok b) :
    ∃ a left, ∀ tail, afterSlashes scheme (front ++ '/' :: tail) =
      .ok (placed scheme a (cutTail .web (left ++ '/' :: tail))) := by
  have hslash : (!Family.web.isTerminator '/') = false := by decide
  have htext : ∀ tail, (front ++ '/' :: tail).takeWhile (fun c => !Family.web.isTerminator c) =
      front.takeWhile fun c => !Family.web.isTerminator c := fun tail =>
    Text.takeWhile_append_stop (p := fun c => !Family.web.isTerminator c) hslash front tail
  unfold afterSlashes at h ⊢
  simp only [hweb, htext] at h ⊢
  generalize htaken : front.takeWhile (fun c => !Family.web.isTerminator c) = text at h ⊢
  have hlength : text.length ≤ front.length := by
    rw [← htaken]
    exact (List.takeWhile_prefix _).length_le
  have hdrop : ∀ tail, (front ++ '/' :: tail).drop text.length =
      front.drop text.length ++ '/' :: tail := fun tail => List.drop_append_of_le_length hlength
  simp only [hdrop] at h ⊢
  by_cases hat : text = ['@']
  · simp [hat] at h
  · cases hauthority : Authority.parse scheme text with
    | error e => simp [hat, hauthority, bind, Except.bind] at h
    | ok a =>
      refine ⟨a, a.rest ++ front.drop text.length, ?_⟩
      intro tail
      simp [hat, bind, Except.bind, placed]

theorem scheme_afterSlashes {scheme : String} {s : List Char} {b : Url}
    (h : afterSlashes scheme s = .ok b) : b.scheme = scheme := by
  unfold afterSlashes at h
  simp only [bind, Except.bind] at h
  split at h
  · simp at h
  · split at h
    · simp at h
    · rw [← Except.ok.inj h]

theorem scheme_file {s : List Char} {b : Url} (h : file s = .ok b) : b.scheme = "file" := by
  unfold file at h
  simp only [bind, Except.bind] at h
  split at h
  · simp at h
  · rw [← Except.ok.inj h]

/-- The text after a scheme is read as that of an address of the web. -/
theorem exists_scheme {text : String} {b : Url} (h : parse text = .ok b)
    (hweb : Family.ofScheme b.scheme = .web) :
    ∃ scheme rest, cutScheme? (counted (trimmed text.toList)) = some (scheme, rest) ∧
      Family.ofScheme scheme = .web ∧
      afterSlashes scheme (rest.dropWhile Family.web.isSlash) = .ok b := by
  unfold parse at h
  simp only at h
  split at h
  · simp at h
  · next scheme rest hcut =>
    refine ⟨scheme, rest, hcut, ?_⟩
    split at h
    · rw [scheme_file h] at hweb
      exact absurd hweb (by decide)
    · next hfamily => exact ⟨hfamily, h⟩
    · next hfamily =>
      rw [scheme_afterSlashes h, hfamily] at hweb
      exact absurd hweb (by decide)
    · next hfamily _ =>
      rw [← Except.ok.inj h] at hweb
      exact absurd (hfamily.symm.trans hweb) (by decide)

theorem parse_web {text : String} {scheme : String} {rest : List Char}
    (hcut : cutScheme? (counted (trimmed text.toList)) = some (scheme, rest))
    (hfamily : Family.ofScheme scheme = .web) :
    parse text = afterSlashes scheme (rest.dropWhile Family.web.isSlash) := by
  unfold parse
  simp only [hcut, hfamily]

/-- Slashes alone name no host. -/
theorem afterSlashes_nil {scheme : String} (hweb : Family.ofScheme scheme = .web) :
    afterSlashes scheme [] = .error .emptyHost := by
  simp [afterSlashes, Authority.parse, cutCredentials, cutHost, hweb, bind, Except.bind]

theorem toList_append_slash (base : String) (tail : List Char) :
    (base ++ String.ofList ('/' :: tail)).toList = base.toList ++ '/' :: tail := by
  rw [String.toList_append, String.toList_ofList]

/-- What stands before the slash of a base is read the same whatever comes after it. -/
theorem Based.exists_placed {base : String} {b : Url} (h : Based base b) :
    ∃ scheme a left, ∀ tail : List Char,
      (∀ c ∈ tail, isEdge c = false ∧ isIgnored c = false) →
        parse (base ++ String.ofList ('/' :: tail)) =
          .ok (placed scheme a (cutTail .web (left ++ '/' :: tail))) := by
  have hslash : counted ['/'] = ['/'] := by decide
  have hcounted : ∀ tail : List Char, (∀ c ∈ tail, isEdge c = false ∧ isIgnored c = false) →
      counted (trimmed (base ++ String.ofList ('/' :: tail)).toList) =
        counted (base.toList.dropWhile isEdge) ++ '/' :: tail := by
    intro tail htail
    have hsame : counted tail = tail := counted_eq_self fun c hc => (htail c hc).2
    have hcons : '/' :: tail = ['/'] ++ tail := rfl
    rw [toList_append_slash, trimmed_append _ fun c hc => (htail c hc).1, counted_append, hcons,
      counted_append, hslash, hsame]
  have hbase : parse (base ++ String.ofList ['/']) = .ok b := h.parsed
  obtain ⟨scheme, rest, hcut, hfamily, hread⟩ := exists_scheme hbase h.web
  rw [hcounted [] (by simp)] at hcut
  obtain ⟨mid, rfl, hcuts⟩ := exists_cutScheme? hcut
  have hmid : mid.dropWhile Family.web.isSlash ≠ [] := by
    intro hnil
    rw [List.dropWhile_append, hnil] at hread
    simp [Family.isSlash, afterSlashes_nil hfamily] at hread
  have hskip : ∀ tail, (mid ++ '/' :: tail).dropWhile Family.web.isSlash =
      mid.dropWhile Family.web.isSlash ++ '/' :: tail := by
    intro tail
    rw [List.dropWhile_append, if_neg (by simpa using hmid)]
  rw [hskip] at hread
  obtain ⟨a, left, hplaced⟩ := exists_afterSlashes hfamily hread
  refine ⟨scheme, a, left, ?_⟩
  intro tail htail
  rw [parse_web (hcounted tail htail ▸ hcuts tail) hfamily, hskip, hplaced]

theorem isQueryChar_cases : ∀ c, isQueryChar c = true →
    c.toNat < 0x80 ∧ inLenientQuery c = false ∧ isIgnored c = false ∧ isEdge c = false ∧ c ≠ '#' := by
  intro c hc
  have hform : ∀ c, isFormChar c = true →
      c.toNat < 0x80 ∧ inLenientQuery c = false ∧ isIgnored c = false ∧ isEdge c = false ∧
        c ≠ '#' := forall_formChar (by decide +kernel)
  simp only [isQueryChar, Bool.or_eq_true, beq_iff_eq] at hc
  rcases hc with (hc | rfl) | rfl
  · exact hform c hc
  · decide
  · decide

theorem cutTail_marked {body : List Char} (hbody : ∀ c ∈ body, c ≠ '?' ∧ c ≠ '#')
    {query : Option (List Char)} (hquery : ∀ text ∈ query, ∀ c ∈ text, isQueryChar c = true) :
    cutTail .web (body ++ marked query) = (body, query.map String.ofList, none) := by
  have hrun : (body ++ marked query).takeWhile (fun c => c ≠ '?' ∧ c ≠ '#') = body := by
    refine Text.takeWhile_run (fun c hc => decide_eq_true (hbody c hc)) ?_
    intro c hc
    rw [eq_of_mem_head?_marked hc]
    rfl
  unfold cutTail
  simp only [hrun, List.drop_left]
  cases query with
  | none => simp [marked, counted]
  | some text =>
    have hchars := fun c hc => isQueryChar_cases c (hquery text rfl c hc)
    have hcounted : counted ('?' :: text) = '?' :: text := by
      refine counted_eq_self (List.forall_mem_cons.mpr ⟨by decide, ?_⟩)
      intro c hc
      exact (hchars c hc).2.2.1
    have hsharp : ∀ c ∈ '?' :: text, decide (c ≠ '#') = true := by
      refine List.forall_mem_cons.mpr ⟨by decide, ?_⟩
      intro c hc
      exact decide_eq_true (hchars c hc).2.2.2.2
    have hall : ('?' :: text).takeWhile (fun c => decide (c ≠ '#')) = '?' :: text :=
      List.takeWhile_eq_self_iff.mpr hsharp
    have hencode : Percent.encode inLenientQuery text = text :=
      encode_eq_self fun c hc => ⟨(hchars c hc).1, (hchars c hc).2.1⟩
    have hfragment : '#' ∉ text := fun hmem => (hchars '#' hmem).2.2.2.2 rfl
    simp only [marked, hcounted, hall]
    simp [hencode, hfragment]

/-- Without query and fragment a text is all path. -/
theorem forall_ne_of_cutTail {s : List Char} (h : (cutTail .web s).2 = (none, none)) :
    ∀ c ∈ s, c ≠ '?' ∧ c ≠ '#' := by
  let p : Char → Bool := fun c => c ≠ '?' ∧ c ≠ '#'
  have hdrop : s.drop (s.takeWhile p).length = s.dropWhile p := by
    conv => lhs; arg 2; rw [← List.takeWhile_append_dropWhile (p := p) (l := s)]
    exact List.drop_left
  have hhead := List.head?_dropWhile_not p s
  cases hrest : s.dropWhile p with
  | nil =>
    intro c hc
    exact of_decide_eq_true (List.dropWhile_eq_nil_iff.mp hrest c hc)
  | cons c rest =>
    unfold cutTail at h
    simp only [p] at hdrop hrest hhead
    simp only [hdrop, hrest, List.head?_cons] at h hhead
    obtain ⟨hquery, hfragment⟩ := Prod.mk.inj h
    by_cases hmark : c = '?'
    · subst hmark
      simp [counted, isIgnored] at hquery
    · have hsharp : c = '#' := by simpa [hmark] using hhead
      subst hsharp
      simp [counted, isIgnored] at hfragment

/-- Segments that are put together with slashes are parted again. -/
theorem splitOnP_intercalate {segments : List (List Char)} (hne : segments ≠ [])
    (hsegments : ∀ s ∈ segments, ∀ c ∈ s, Family.web.isSlash c = false) :
    (['/'].intercalate segments).splitOnP Family.web.isSlash = segments := by
  induction segments with
  | nil => exact absurd rfl hne
  | cons s rest ih =>
    obtain ⟨hs, hrest⟩ := List.forall_mem_cons.mp hsegments
    cases rest with
    | nil =>
      rw [List.intercalate_singleton]
      exact List.splitOnP_eq_singleton hs
    | cons t rest =>
      have hslash : Family.web.isSlash '/' = true := by decide
      rw [List.intercalate_cons_cons, List.append_assoc, List.singleton_append,
        List.splitOnP_append_cons_of_forall_mem hs _ hslash, ih (by simp) hrest]

/-- Below a slash, segments are read from a base. -/
theorem exists_absolutePath (left : List Char) :
    ∃ p : PathReader, p.IsBase ∧ ∀ segments, segments ≠ [] →
      (∀ s ∈ segments, ∀ c ∈ s, Family.web.isSlash c = false) →
        absolutePath .web (left ++ '/' :: ['/'].intercalate segments) =
          p.readAll .web segments := by
  have hslash : Family.web.isSlash '/' = true := by decide
  have hbelow : ∀ front : List Char, ∃ p : PathReader, p.IsBase ∧ ∀ segments, segments ≠ [] →
      (∀ s ∈ segments, ∀ c ∈ s, Family.web.isSlash c = false) →
        PathReader.ofText .web (front ++ '/' :: ['/'].intercalate segments) =
          p.readAll .web segments := by
    intro front
    obtain ⟨p, hp, hread⟩ := isBase_root.exists_readAll (front.splitOnP Family.web.isSlash)
    refine ⟨p, hp, ?_⟩
    intro segments hne hsegments
    rw [PathReader.ofText, List.splitOnP_append_cons _ _ hslash,
      splitOnP_intercalate hne hsegments, hread segments hne]
  cases left with
  | nil =>
    refine ⟨.root, isBase_root, ?_⟩
    intro segments hne hsegments
    rw [List.nil_append, absolutePath, if_pos hslash, PathReader.ofText,
      splitOnP_intercalate hne hsegments]
  | cons c left =>
    by_cases hc : Family.web.isSlash c = true
    · obtain ⟨p, hp, hread⟩ := hbelow left
      refine ⟨p, hp, ?_⟩
      intro segments hne hsegments
      rw [List.cons_append, absolutePath, if_pos hc, hread segments hne hsegments]
    · obtain ⟨p, hp, hread⟩ := hbelow (c :: left)
      refine ⟨p, hp, ?_⟩
      intro segments hne hsegments
      rw [List.cons_append, absolutePath, if_neg hc, ← List.cons_append,
        hread segments hne hsegments]

theorem Tail.counts {segments : List (List Char)} {query : Option (List Char)}
    (h : Tail segments query) :
    ∀ c ∈ tailText segments query, isEdge c = false ∧ isIgnored c = false := by
  intro c hc
  rcases List.mem_append.mp hc with hpath | hquery
  · rcases Text.mem_intercalate hpath with rfl | ⟨s, hs, hmem⟩
    · decide
    · obtain ⟨-, -, hcounts, hedge, -⟩ := isQueryChar_cases c (by simp [isQueryChar, h.form s hs c hmem])
      exact ⟨hedge, hcounts⟩
  · cases query with
    | none => simp [marked] at hquery
    | some text =>
      rcases List.mem_cons.mp hquery with rfl | hmem
      · decide
      · obtain ⟨-, -, hcounts, hedge, -⟩ := isQueryChar_cases c (h.query text rfl c hmem)
        exact ⟨hedge, hcounts⟩

theorem Tail.ne_mark {segments : List (List Char)} {query : Option (List Char)}
    (h : Tail segments query) : ∀ c ∈ ['/'].intercalate segments, c ≠ '?' ∧ c ≠ '#' := by
  have hform : ∀ c, isFormChar c = true → c ≠ '?' ∧ c ≠ '#' := forall_formChar (by decide +kernel)
  intro c hc
  rcases Text.mem_intercalate hc with rfl | ⟨s, hs, hmem⟩
  · decide
  · exact hform c (h.form s hs c hmem)

theorem Tail.not_isSlash {segments : List (List Char)} {query : Option (List Char)}
    (h : Tail segments query) : ∀ s ∈ segments, ∀ c ∈ s, Family.web.isSlash c = false := by
  have hform : ∀ c, isFormChar c = true → Family.web.isSlash c = false :=
    forall_formChar (by decide +kernel)
  intro s hs c hc
  exact hform c (h.form s hs c hc)

/-- Behind a text without marks, a tail is parted into the path and the query. -/
theorem Tail.cut {left : List Char} (hleft : ∀ c ∈ left, c ≠ '?' ∧ c ≠ '#')
    {segments : List (List Char)} {query : Option (List Char)} (h : Tail segments query) :
    cutTail .web (left ++ '/' :: tailText segments query) =
      (left ++ '/' :: ['/'].intercalate segments, query.map String.ofList, none) := by
  have hbody : ∀ c ∈ left ++ '/' :: ['/'].intercalate segments, c ≠ '?' ∧ c ≠ '#' :=
    List.forall_mem_append.mpr ⟨hleft, List.forall_mem_cons.mpr ⟨by decide, h.ne_mark⟩⟩
  have htext : left ++ '/' :: tailText segments query =
      (left ++ '/' :: ['/'].intercalate segments) ++ marked query := by
    simp [tailText]
  rw [htext, cutTail_marked hbody h.query]

/-- For all segments and every query, the address below a base is the address of the base with the
path that is read from there on. -/
theorem Based.exists_parse {base : String} {b : Url} (h : Based base b) :
    ∃ p : PathReader, p.IsBase ∧ b.path = p.text .web ∧
      ∀ segments query, Tail segments query →
        parse (base ++ String.ofList ('/' :: tailText segments query)) =
          .ok { b with
            path := (p.readAll .web segments).text .web
            query := query.map String.ofList } := by
  obtain ⟨scheme, a, left, hplaced⟩ := h.exists_placed
  obtain ⟨p, hp, hread⟩ := exists_absolutePath left
  have hbase : b = placed scheme a (cutTail .web (left ++ ['/'])) := by
    have hparsed := hplaced [] (by simp)
    have hparsed' : parse (base ++ String.ofList ['/']) = .ok b := h.parsed
    rw [hparsed'] at hparsed
    exact Except.ok.inj hparsed
  have hcut : (cutTail .web (left ++ ['/'])).2 = (none, none) := by
    have hquery := h.no_query
    have hfragment := h.no_fragment
    rw [hbase] at hquery hfragment
    exact Prod.ext hquery hfragment
  have hleft : ∀ c ∈ left, c ≠ '?' ∧ c ≠ '#' := fun c hc =>
    forall_ne_of_cutTail hcut c (List.mem_append_left _ hc)
  have hplace : ∀ segments query, Tail segments query →
      placed scheme a (cutTail .web (left ++ '/' :: tailText segments query)) =
        { placed scheme a (cutTail .web (left ++ ['/'])) with
          path := (p.readAll .web segments).text .web
          query := query.map String.ofList } := by
    intro segments query htail
    rw [htail.cut hleft, placed, hread segments htail.ne_nil htail.not_isSlash, placed, hcut]
  have hempty : Tail [[]] none := ⟨by simp, by simp, by simp⟩
  have hpath : b.path = p.text .web := by
    have hself := congrArg Url.path (hplace [[]] none hempty)
    rw [hp.readAll_nil] at hself
    rw [hbase]
    exact hself
  refine ⟨p, hp, hpath, ?_⟩
  intro segments query htail
  rw [hplaced _ htail.counts, hplace segments query htail, ← hbase]

end MarketQuery.Url
