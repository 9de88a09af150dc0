import MarketQuery.Proofs.Outcome
import MarketQuery.Proofs.Url.Extension

/-!
Addresses at plain names. The tables of characters say nothing about ASCII, so a name of small
letters, digits and hyphens is read as it stands, whatever the tables hold. An address of the web at
such a name is read without them.
-/
namespace MarketQuery

theorem Text.inRanges_of_lt {table : List (Nat × Nat)} {bound n : Nat}
    (h : table.all (fun r => bound ≤ r.1) = true) (hn : n < bound) :
    Text.inRanges table n = false := by
  rw [Bool.eq_false_iff, Ne, Text.inRanges_iff]
  rintro ⟨r, hr, hle, -⟩
  have hbound := List.all_eq_true.mp h r hr
  simp only [decide_eq_true_eq] at hbound
  omega

theorem Percent.decodeText?_eq_self {s : List Char} (h : '%' ∉ s) :
    Percent.decodeText? s = some s := by
  have hbytes : Percent.decode s = Percent.bytes s := by
    induction s with
    | nil => rfl
    | cons c rest ih =>
      obtain ⟨hc, hrest⟩ := List.ne_and_not_mem_of_not_mem_cons h
      rw [Percent.decode_cons_of_ne (Ne.symm hc), ih hrest]
      rfl
  have hvalid : s.utf8Encode.IsValidUTF8 := ⟨_, rfl⟩
  rw [Percent.decodeText?, hbytes, Percent.toArray_bytes, String.fromUTF8?, dif_pos hvalid,
    Option.map_some]
  exact congrArg some String.toList_ofList

namespace Url

theorem isMark_of_ascii {c : Char} (h : c.toNat < 0x80) : Text.isMark c = false := by
  have htable : Text.marks.all (fun r => 0x80 ≤ r.1) = true := by
    rw [Text.marks, Text.ranges, Text.tableWords, String.toList_ofList]
    decide +kernel
  exact Text.inRanges_of_lt htable h

theorem runsLeft_of_ascii {s : List Char} (h : ∀ c ∈ s, c.toNat < 0x80) : runsLeft s = false := by
  have hletters : Text.rightLetters.all (fun r => 0x80 ≤ r.1) = true := by
    rw [Text.rightLetters, Text.ranges, Text.tableWords, String.toList_ofList]
    decide +kernel
  have hnumbers : Text.arabicNumbers.all (fun r => 0x80 ≤ r.1) = true := by
    rw [Text.arabicNumbers, Text.ranges, Text.tableWords, String.toList_ofList]
    decide +kernel
  rw [runsLeft, List.any_eq_false]
  intro c hc
  have hletter := Text.inRanges_of_lt hletters (h c hc)
  have hnumber := Text.inRanges_of_lt hnumbers (h c hc)
  simp only [Text.direction, hletter, hnumber, Bool.false_eq_true, if_false]
  split_ifs <;> decide

def isNameChar (c : Char) : Bool :=
  c.isLower || c.isDigit || c == '-' || c == '.'

/-- A name in small letters that spells nothing else. -/
structure PlainName (s : List Char) : Prop where
  chars : ∀ c ∈ s, isNameChar c = true
  unspelled : ∀ label ∈ s.splitOn '.', ¬ ['x', 'n', '-', '-'] <+: label

theorem isFormChar_of_isNameChar {c : Char} (h : isNameChar c = true) :
    Percent.isFormChar c = true := by
  have hascii : ∀ c : Char, c.toNat < 0x80 → isNameChar c = true → Percent.isFormChar c = true :=
    Text.forall_ascii (by decide +kernel)
  refine hascii c ?_ h
  simp only [isNameChar, Bool.or_eq_true, beq_iff_eq] at h
  rcases h with ((hlower | hdigit) | rfl) | rfl
  · have hrange := Text.toNat_of_isLower hlower
    omega
  · have hrange := Text.toNat_of_isAlphanum (c := c) (by simp [Char.isAlphanum, hdigit])
    omega
  all_goals decide

theorem isNameChar_cases {c : Char} (h : isNameChar c = true) :
    c.toNat < 0x80 ∧ c.toLower = c ∧ isDenied c = false ∧ c ≠ '%' := by
  have hform : ∀ c, Percent.isFormChar c = true → isNameChar c = true →
      c.toNat < 0x80 ∧ c.toLower = c ∧ isDenied c = false ∧ c ≠ '%' :=
    forall_formChar (by decide +kernel)
  exact hform c (isFormChar_of_isNameChar h) h

/-- A plain name ends before every mark of an address. -/
theorem mark_ne_of_isNameChar {c : Char} (h : isNameChar c = true) :
    c ≠ '[' ∧ c ≠ '@' ∧ c ≠ ':' ∧ Family.web.isTerminator c = false := by
  have hform : ∀ c, Percent.isFormChar c = true → isNameChar c = true →
      c ≠ '[' ∧ c ≠ '@' ∧ c ≠ ':' ∧ Family.web.isTerminator c = false :=
    forall_formChar (by decide +kernel)
  exact hform c (isFormChar_of_isNameChar h) h

theorem mapM_eq_some_map {α β : Type} {f : α → Option β} {g : α → β} {l : List α}
    (h : ∀ a ∈ l, f a = some (g a)) : l.mapM f = some (l.map g) := by
  induction l with
  | nil => rfl
  | cons a rest ih =>
    have hrest := ih fun b hb => h b (List.mem_cons_of_mem _ hb)
    simp [List.mapM_cons, h a List.mem_cons_self, hrest]

namespace PlainName

variable {s : List Char}

theorem ascii (h : PlainName s) : ∀ c ∈ s, c.toNat < 0x80 :=
  fun c hc => (isNameChar_cases (h.chars c hc)).1

theorem plainName?_eq (h : PlainName s) : plainName? s = some s := by
  have himages : s.mapM nameImage? = some (s.map fun c => [c]) := by
    apply mapM_eq_some_map
    intro c hc
    obtain ⟨hascii, hlower, -⟩ := isNameChar_cases (h.chars c hc)
    simp only [nameImage?, hascii, hlower, if_true]
  have hcomposed : Text.composed s = s := by
    rw [Text.composed, if_pos]
    simpa using h.ascii
  have hdenied : s.any isDenied = false := by
    rw [List.any_eq_false]
    intro c hc
    simp [(isNameChar_cases (h.chars c hc)).2.2.1]
  have hflat : (s.map fun c => [c]).flatten = s := by
    rw [← List.flatMap_def, List.flatMap_singleton']
  simp only [plainName?, himages, Option.bind_eq_bind, Option.bind_some, hflat, hcomposed, hdenied,
    Bool.false_eq_true, if_false]

theorem ascii_label (h : PlainName s) {label : List Char} (hlabel : label ∈ s.splitOn '.') :
    ∀ c ∈ label, c.toNat < 0x80 := by
  intro c hc
  apply h.ascii
  have hmem : c ∈ ['.'].intercalate (s.splitOn '.') := Text.mem_intercalate_of_mem hlabel hc
  rwa [List.intercalate_splitOn] at hmem

/-- Every label stands for itself. -/
theorem mapM_labels_eq (h : PlainName s) :
    (s.splitOn '.').mapM Label.ofPlain? = some ((s.splitOn '.').map fun l => ⟨l, l⟩) := by
  apply mapM_eq_some_map
  intro label hlabel
  have hascii : label.all Punycode.isAscii = true := by
    simpa [Punycode.isAscii] using h.ascii_label hlabel
  have hunspelled := h.unspelled label hlabel
  unfold Label.ofPlain?
  split
  · exact absurd (by simp) hunspelled
  · rw [if_pos hascii]

theorem joinersStand_of_ascii {label : List Char} (h : ∀ c ∈ label, c.toNat < 0x80)
    (before : List Char) : joinersStand before label = true := by
  induction label generalizing before with
  | nil => rfl
  | cons c rest ih =>
    have hc := h c List.mem_cons_self
    have hrest := ih (fun d hd => h d (List.mem_cons_of_mem _ hd)) (c :: before)
    have hapart : c ≠ '\u200C' ∧ c ≠ '\u200D' := by
      constructor <;>
      · rintro rfl
        exact absurd hc (by decide)
    simp [joinersStand, hapart, hrest]

theorem isProper_of_ascii {label : List Char} (h : ∀ c ∈ label, c.toNat < 0x80) :
    isProper label = true := by
  have hmark : label.head?.any Text.isMark = false := by
    cases label with
    | nil => rfl
    | cons c rest =>
      rw [List.head?_cons, Option.any_some]
      exact isMark_of_ascii (h c List.mem_cons_self)
  have hascii : label.all Punycode.isAscii = true := by simpa [Punycode.isAscii] using h
  simp [isProper, hmark, hascii, joinersStand_of_ascii h]

/-- A plain name is its own form in ASCII. -/
theorem asciiName?_eq (h : PlainName s) : asciiName? s = some s := by
  have htexts : ((s.splitOn '.').map fun l => (⟨l, l⟩ : Label)).map (·.text) = s.splitOn '.' := by
    rw [List.map_map]
    exact List.map_id _
  have hforms : ((s.splitOn '.').map fun l => (⟨l, l⟩ : Label)).map (·.ascii) = s.splitOn '.' := by
    rw [List.map_map]
    exact List.map_id _
  have hproper : (s.splitOn '.').all isProper = true :=
    List.all_eq_true.mpr fun label hlabel => isProper_of_ascii (h.ascii_label hlabel)
  have hleft : (s.splitOn '.').any runsLeft = false :=
    List.any_eq_false.mpr fun label hlabel => by simp [runsLeft_of_ascii (h.ascii_label hlabel)]
  simp only [asciiName?, h.plainName?_eq, h.mapM_labels_eq, Option.bind_eq_bind, Option.bind_some,
    htexts, hforms, hproper, hleft, List.intercalate_splitOn]
  simp

/-- A plain name is a host, unless its last label is a number and the name is no address. -/
theorem exists_parse (h : PlainName s) (hne : s ≠ [])
    (hnumber : Host.endsInNumber s = true → (Host.ipv4? s).isSome = true) :
    ∃ host, Host.parse s = .ok host := by
  have hopen : s.head? ≠ some '[' := by
    intro hhead
    exact (mark_ne_of_isNameChar (h.chars _ (List.mem_of_head? hhead))).1 rfl
  have hpercent : '%' ∉ s := fun hmem => (isNameChar_cases (h.chars _ hmem)).2.2.2 rfl
  obtain ⟨c, rest, rfl⟩ := List.exists_cons_of_ne_nil hne
  simp only [Host.parse, hopen, Percent.decodeText?_eq_self hpercent, Option.bind_some,
    h.asciiName?_eq, if_false]
  split
  · next hends =>
    obtain ⟨address, haddress⟩ := Option.isSome_iff_exists.mp (hnumber hends)
    exact ⟨.ipv4 address, by rw [haddress]⟩
  · exact ⟨_, rfl⟩

end PlainName

instance : DecidablePred PlainName := fun s =>
  decidable_of_iff (s.all isNameChar = true ∧
      ((s.splitOn '.').any fun label => ['x', 'n', '-', '-'].isPrefixOf label) = false)
    ⟨fun h => ⟨List.all_eq_true.mp h.1, by simpa using h.2⟩,
      fun h => ⟨List.all_eq_true.mpr h.chars, by simpa using h.unspelled⟩⟩

def IsAddress (text : String) : Prop :=
  ∃ url, parse text = .ok url

theorem cutCredentials_eq {s : List Char} (h : '@' ∉ s) : cutCredentials s = ([], s) := by
  have hall : s.reverse.takeWhile (fun c => c ≠ '@') = s.reverse := by
    apply List.takeWhile_eq_self_iff.mpr
    intro c hc
    simpa using ne_of_mem_of_not_mem (List.mem_reverse.mp hc) h
  simp only [cutCredentials, hall, List.reverse_reverse, Nat.sub_self, Nat.zero_sub, List.take_zero]

theorem cutHost_eq {name port : List Char} (hname : ∀ c ∈ name, c ≠ ':' ∧ c ≠ '[')
    (hport : port.head?.all (· == ':') = true) : cutHost false (name ++ port) = (name, port) := by
  induction name with
  | nil =>
    cases port with
    | nil => rfl
    | cons c rest =>
      simp only [List.head?_cons, Option.all_some, beq_iff_eq] at hport
      simp [cutHost, hport]
  | cons c rest ih =>
    obtain ⟨hcolon, hopen⟩ := hname c List.mem_cons_self
    have hrest := ih fun d hd => hname d (List.mem_cons_of_mem _ hd)
    simp [cutHost, hcolon, hopen, hrest]

/-- An address of the web that is written with a plain name, in its parts. What stands between the
name and the slash is empty or a port number behind a colon. -/
structure AtPlainName (text scheme : String) (name port rest : List Char) : Prop where
  cut : cutScheme? (counted (trimmed text.toList)) =
    some (scheme, '/' :: '/' :: (name ++ port ++ '/' :: rest))
  web : Family.ofScheme scheme = .web
  plain : PlainName name
  ne_nil : name ≠ []
  number : Host.endsInNumber name = true → (Host.ipv4? name).isSome = true
  colon : port.head?.all (· == ':') = true
  digits : port.all (fun c => c == ':' || c.isDigit) = true
  port : (readPortNumber scheme port).isOk = true

namespace AtPlainName

variable {text scheme : String} {name port rest : List Char}

/-- The authority has no mark of its end and none of a user. -/
theorem mark_ne (h : AtPlainName text scheme name port rest) :
    ∀ c ∈ name ++ port, c ≠ '@' ∧ Family.web.isTerminator c = false := by
  have hchar : ∀ c, isNameChar c = true → c ≠ '@' ∧ Family.web.isTerminator c = false := by
    intro c hc
    obtain ⟨-, hat, -, hend⟩ := mark_ne_of_isNameChar hc
    exact ⟨hat, hend⟩
  intro c hc
  rcases List.mem_append.mp hc with hname | hport
  · exact hchar c (h.plain.chars c hname)
  · have hdigits := List.all_eq_true.mp h.digits c hport
    simp only [Bool.or_eq_true, beq_iff_eq] at hdigits
    rcases hdigits with rfl | hdigit
    · decide
    · exact hchar c (by simp [isNameChar, hdigit])

theorem exists_authority (h : AtPlainName text scheme name port rest) :
    ∃ a, Authority.parse scheme (name ++ port) = .ok a := by
  obtain ⟨host, hhost⟩ := h.plain.exists_parse h.ne_nil h.number
  obtain ⟨portNumber, hport⟩ := Outcome.exists_ok_of_isOk h.port
  have hat : '@' ∉ name ++ port := fun hmem => (h.mark_ne _ hmem).1 rfl
  have hname : ∀ c ∈ name, c ≠ ':' ∧ c ≠ '[' := by
    intro c hc
    obtain ⟨hopen, -, hcolon, -⟩ := mark_ne_of_isNameChar (h.plain.chars c hc)
    exact ⟨hcolon, hopen⟩
  simp only [Authority.parse, cutCredentials_eq hat, cutHost_eq hname h.colon, h.ne_nil, hhost,
    hport, h.web, decide_true, decide_false, Bool.false_and, if_true, bind, Except.bind]
  exact ⟨_, rfl⟩

theorem isAddress (h : AtPlainName text scheme name port rest) : IsAddress text := by
  obtain ⟨a, ha⟩ := h.exists_authority
  have hslash : Family.web.isSlash '/' = true := by decide
  have hfront : (name ++ port ++ '/' :: rest).dropWhile Family.web.isSlash =
      name ++ port ++ '/' :: rest := by
    obtain ⟨c, tail, rfl⟩ := List.exists_cons_of_ne_nil h.ne_nil
    have hend := (h.mark_ne c (by simp)).2
    simp only [Family.isTerminator, Bool.or_eq_false_iff] at hend
    exact List.dropWhile_cons_of_neg (by simp [hend.1.1])
  have htext : (name ++ port ++ '/' :: rest).takeWhile (fun c => !Family.web.isTerminator c) =
      name ++ port := by
    apply Text.takeWhile_run
    · intro c hc
      rw [(h.mark_ne c hc).2, Bool.not_false]
    · simp [Family.isTerminator, hslash]
  have hat : name ++ port ≠ ['@'] := by
    intro heq
    exact (h.mark_ne '@' (by simp [heq])).1 rfl
  have hread : ∃ url, afterSlashes scheme (name ++ port ++ '/' :: rest) = .ok url := by
    simp only [afterSlashes, h.web, htext, hat, ha, decide_false, Bool.false_and, bind, Except.bind]
    exact ⟨_, rfl⟩
  rwa [IsAddress, parse_web h.cut h.web, List.dropWhile_cons_of_pos hslash,
    List.dropWhile_cons_of_pos hslash, hfront]

end AtPlainName

end Url

end MarketQuery
