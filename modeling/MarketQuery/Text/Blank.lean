/-!
Blank characters and trimming. A character is blank when it has the Unicode property White_Space.
-/
namespace MarketQuery.Text

def isBlank (c : Char) : Bool :=
  let n := c.toNat
  (9 ≤ n && n ≤ 13) || n == 0x20 || n == 0x85 || n == 0xA0 || n == 0x1680 ||
    (0x2000 ≤ n && n ≤ 0x200A) || n == 0x2028 || n == 0x2029 || n == 0x202F || n == 0x205F ||
    n == 0x3000

def trimStart (s : List Char) : List Char :=
  s.dropWhile isBlank

def trimEnd (s : List Char) : List Char :=
  (s.reverse.dropWhile isBlank).reverse

def trim (s : List Char) : List Char :=
  trimEnd (trimStart s)

/-- The text without the blanks at its two ends. -/
def trimmed (s : String) : String :=
  String.ofList (trim s.toList)

/-- The text has no character that is not blank. -/
def isBlankText (s : String) : Bool :=
  s.toList.all isBlank

theorem toList_trimmed (s : String) : (trimmed s).toList = trim s.toList := by
  simp [trimmed]

theorem trimStart_append_cons (s t : List Char) (c : Char) (hc : isBlank c = false) :
    trimStart (s ++ c :: t) = trimStart s ++ c :: t := by
  simp only [trimStart, List.dropWhile_append]
  split
  · next h =>
    rw [List.isEmpty_iff.mp h, List.dropWhile_cons_of_neg (by simp [hc])]
    rfl
  · rfl

theorem reverse_trimEnd (s : List Char) : (trimEnd s).reverse = trimStart s.reverse := by
  simp [trimEnd, trimStart]

theorem trimEnd_append_cons (s t : List Char) (c : Char) (hc : isBlank c = false) :
    trimEnd (s ++ c :: t) = s ++ c :: trimEnd t := by
  apply List.reverse_inj.mp
  have h := trimStart_append_cons t.reverse s.reverse c hc
  simpa [reverse_trimEnd] using h

/-- Blanks are only cut off outside of what begins and ends with a character that is not blank. -/
theorem trim_append_append {s mid t : List Char} {first last : Char}
    (hfirst : mid.head? = some first) (hlast : mid.getLast? = some last)
    (hf : isBlank first = false) (hl : isBlank last = false) :
    trim (s ++ mid ++ t) = trimStart s ++ mid ++ trimEnd t := by
  obtain ⟨tail, rfl⟩ := List.head?_eq_some_iff.mp hfirst
  obtain ⟨front, hmid⟩ := List.getLast?_eq_some_iff.mp hlast
  have hstart : trimStart (s ++ first :: tail ++ t) = trimStart s ++ first :: tail ++ t := by
    simpa using trimStart_append_cons s (tail ++ t) first hf
  rw [trim, hstart, hmid]
  simpa using trimEnd_append_cons (trimStart s ++ front) t last hl

theorem trimStart_blanks_append {blanks rest : List Char} {c : Char}
    (hblanks : ∀ b ∈ blanks, isBlank b = true) (hc : isBlank c = false) :
    trimStart (blanks ++ c :: rest) = c :: rest := by
  rw [trimStart, List.dropWhile_append_of_pos hblanks, List.dropWhile_cons_of_neg (by simp [hc])]

theorem trim_eq_self {s : List Char} {first last : Char} (hfirst : s.head? = some first)
    (hlast : s.getLast? = some last) (hf : isBlank first = false) (hl : isBlank last = false) :
    trim s = s := by
  have h := trim_append_append (s := []) (t := []) hfirst hlast hf hl
  simpa [trimStart, trimEnd] using h

theorem trimStart_of_blanks {s : List Char} (h : ∀ c ∈ s, isBlank c = true) : trimStart s = [] := by
  rw [trimStart, ← List.append_nil s, List.dropWhile_append_of_pos h]
  rfl

theorem trimEnd_of_blanks {s : List Char} (h : ∀ c ∈ s, isBlank c = true) : trimEnd s = [] := by
  apply List.reverse_inj.mp
  rw [reverse_trimEnd, trimStart_of_blanks (by simpa using h)]
  rfl

theorem trimStart_isSuffix (s : List Char) : trimStart s <:+ s :=
  List.dropWhile_suffix isBlank

theorem trimEnd_isPrefix (s : List Char) : trimEnd s <+: s := by
  have h := trimStart_isSuffix s.reverse
  rw [← reverse_trimEnd] at h
  exact List.reverse_suffix.mp h

theorem trim_isInfix (s : List Char) : trim s <:+: s :=
  (trimEnd_isPrefix (trimStart s)).isInfix.trans (trimStart_isSuffix s).isInfix

theorem isBlank_head_trimStart {s : List Char} {c : Char} (h : (trimStart s).head? = some c) :
    isBlank c = false := by
  have hhead := List.head?_dropWhile_not isBlank s
  rw [trimStart] at h
  simpa [h] using hhead

theorem isBlank_head_trim {s : List Char} {c : Char} (h : (trim s).head? = some c) :
    isBlank c = false := by
  obtain ⟨back, hback⟩ := trimEnd_isPrefix (trimStart s)
  have hhead : (trimStart s).head? = some c := by
    rw [← hback, List.head?_append, ← trim, h]
    rfl
  exact isBlank_head_trimStart hhead

theorem isBlank_getLast_trim {s : List Char} {c : Char} (h : (trim s).getLast? = some c) :
    isBlank c = false := by
  rw [← List.head?_reverse, trim, reverse_trimEnd] at h
  exact isBlank_head_trimStart h

theorem exists_blanks (s : List Char) :
    ∃ blanks, s = blanks ++ trimStart s ∧ ∀ c ∈ blanks, isBlank c = true :=
  ⟨s.takeWhile isBlank, List.takeWhile_append_dropWhile.symm,
    List.all_eq_true.mp List.all_takeWhile⟩

theorem exists_blanks_trim (s : List Char) :
    ∃ before after, s = before ++ (trim s ++ after) ∧ (∀ c ∈ before, isBlank c = true) ∧
      ∀ c ∈ after, isBlank c = true := by
  obtain ⟨before, hs, hbefore⟩ := exists_blanks s
  obtain ⟨blanks, hend, hblanks⟩ := exists_blanks (trimStart s).reverse
  refine ⟨before, blanks.reverse, ?_, hbefore, by simpa using hblanks⟩
  rw [← reverse_trimEnd] at hend
  have hstart : trimStart s = trim s ++ blanks.reverse := by
    apply List.reverse_inj.mp
    simpa [trim] using hend
  rw [← hstart]
  exact hs

theorem trim_of_blanks {s : List Char} (h : ∀ c ∈ s, isBlank c = true) : trim s = [] := by
  rw [trim, trimStart_of_blanks h]
  rfl

theorem exists_getLast? {s : List Char} {first : Char} (h : s.head? = some first) :
    ∃ last, s.getLast? = some last := by
  rw [← Option.isSome_iff_exists, List.getLast?_isSome]
  intro hnil
  simp [hnil] at h

theorem trim_trim (s : List Char) : trim (trim s) = trim s := by
  cases hhead : (trim s).head? with
  | none =>
    rw [List.head?_eq_none_iff.mp hhead]
    rfl
  | some first =>
    obtain ⟨last, hlast⟩ := exists_getLast? hhead
    exact trim_eq_self hhead hlast (isBlank_head_trim hhead) (isBlank_getLast_trim hlast)

theorem trimmed_trimmed (s : String) : trimmed (trimmed s) = trimmed s := by
  apply String.toList_injective
  rw [toList_trimmed, toList_trimmed, trim_trim]

theorem trim_ne_nil {s : String} (h : isBlankText s = false) : trim s.toList ≠ [] := by
  intro hnil
  obtain ⟨before, after, hs, hbefore, hafter⟩ := exists_blanks_trim s.toList
  rw [hnil, List.nil_append] at hs
  have hblank : ∀ c ∈ s.toList, isBlank c = true := by
    intro c hc
    rw [hs] at hc
    exact (List.mem_append.mp hc).elim (hbefore c) (hafter c)
  simp [isBlankText, List.all_eq_true.mpr hblank] at h

/-- Blanks that are put around a text do not outlive trimming. -/
theorem trim_padded {front back : List Char} (hfront : ∀ c ∈ front, isBlank c = true)
    (hback : ∀ c ∈ back, isBlank c = true) (s : List Char) :
    trim (front ++ s ++ back) = trim s := by
  obtain ⟨before, after, hs, hbefore, hafter⟩ := exists_blanks_trim s
  have hstart : ∀ c ∈ front ++ before, isBlank c = true := fun c hc =>
    (List.mem_append.mp hc).elim (hfront c) (hbefore c)
  have hend : ∀ c ∈ after ++ back, isBlank c = true := fun c hc =>
    (List.mem_append.mp hc).elim (hafter c) (hback c)
  have hsplit : front ++ s ++ back = (front ++ before) ++ trim s ++ (after ++ back) :=
    calc front ++ s ++ back = front ++ (before ++ (trim s ++ after)) ++ back := by rw [← hs]
      _ = (front ++ before) ++ trim s ++ (after ++ back) := by simp
  cases hhead : (trim s).head? with
  | none =>
    have hnil := List.head?_eq_none_iff.mp hhead
    rw [hsplit, hnil, List.append_nil]
    exact trim_of_blanks fun c hc => (List.mem_append.mp hc).elim (hstart c) (hend c)
  | some first =>
    obtain ⟨last, hlast⟩ := exists_getLast? hhead
    rw [hsplit, trim_append_append hhead hlast (isBlank_head_trim hhead)
      (isBlank_getLast_trim hlast), trimStart_of_blanks hstart, trimEnd_of_blanks hend]
    simp

theorem isBlank_of_isDigit {c : Char} (h : c.isDigit = true) : isBlank c = false := by
  have hrange : 48 ≤ c.toNat ∧ c.toNat ≤ 57 := by
    simpa [Char.isDigit, UInt32.le_iff_toNat_le] using h
  simp only [isBlank, Bool.or_eq_false_iff, Bool.and_eq_false_iff, decide_eq_false_iff_not,
    beq_eq_false_iff_ne]
  omega

end MarketQuery.Text
