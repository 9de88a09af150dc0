import Mathlib.Data.List.Basic
import Mathlib.Data.Nat.Basic
import Mathlib.Order.Basic
import MarketQuery.Decimal.Grouped
import MarketQuery.Text.Search

/-!
Digits in groups of three. Commas are put between digits, and only there, so the digits are left where
the commas are erased. The first group has one to three digits and every other one just three, so in
no place do more than three digits follow each other. No other text in such groups has the same
digits, since a group that is not the last one has full groups behind it.
-/
namespace MarketQuery.Decimal

inductive Groups : List Char → Prop
  | nil : Groups []
  | cons {group rest : List Char} (hlength : group.length = 3)
      (hdigits : ∀ c ∈ group, c.isDigit = true) (h : Groups rest) :
      Groups (',' :: (group ++ rest))

/-- One to three digits, and then groups of three. -/
inductive Grouped : List Char → Prop
  | intro {group rest : List Char} (hne : group ≠ []) (hlength : group.length ≤ 3)
      (hdigits : ∀ c ∈ group, c.isDigit = true) (h : Groups rest) : Grouped (group ++ rest)

theorem groupInteger_cons (c : Char) {rest : List Char} (hne : rest ≠ []) :
    groupInteger (c :: rest) =
      c :: (if rest.length % 3 = 0 then ',' :: groupInteger rest else groupInteger rest) := by
  cases rest with
  | nil => exact absurd rfl hne
  | cons d rest => rfl

/-- Nothing but commas is put in. -/
theorem filter_groupInteger {p : Char → Bool} (hp : p ',' = false) (s : List Char) :
    (groupInteger s).filter p = s.filter p := by
  induction s with
  | nil => rfl
  | cons c rest ih =>
    by_cases hne : rest = []
    · rw [hne]
      rfl
    · rw [groupInteger_cons c hne, List.filter_cons, List.filter_cons, ← ih]
      split <;> split <;> simp [hp]

theorem filter_groupThousands {p : Char → Bool} (hp : p ',' = false) (s : List Char) :
    (groupThousands s).filter p = s.filter p := by
  rw [groupThousands, List.filter_append, filter_groupInteger hp, ← List.filter_append,
    List.takeWhile_append_dropWhile]

theorem not_mem_of_digits {s : List Char} (hdigits : ∀ c ∈ s, c.isDigit = true) {c : Char}
    (hc : c.isDigit = false) : c ∉ s := by
  intro h
  have hdigit := hdigits c h
  rw [hc] at hdigit
  contradiction

/-- The integer part is grouped, and ends at the point or with the text. -/
theorem groupThousands_run_append {whole tail : List Char}
    (hdigits : ∀ c ∈ whole, c.isDigit = true) (htail : ∀ c ∈ tail.head?, c = '.') :
    groupThousands (whole ++ tail) = groupInteger whole ++ tail := by
  have hpoint : '.' ∉ whole := not_mem_of_digits hdigits (by decide)
  have hwhole : ∀ c ∈ whole, (c != '.') = true :=
    fun _ hc => bne_iff_ne.mpr (ne_of_mem_of_not_mem hc hpoint)
  have hstop : ∀ c ∈ tail.head?, (c != '.') = false := by
    intro c hc
    simp [htail c hc]
  rw [groupThousands, Text.takeWhile_run hwhole hstop, Text.dropWhile_run hwhole hstop]

theorem groupThousands_append {whole : List Char} (hdigits : ∀ c ∈ whole, c.isDigit = true)
    (fraction : List Char) :
    groupThousands (whole ++ '.' :: fraction) = groupInteger whole ++ '.' :: fraction :=
  groupThousands_run_append hdigits (by simp)

/-- The first group has the digits that are too many for groups of three. -/
theorem exists_groups {s : List Char} (hne : s ≠ []) (hdigits : ∀ c ∈ s, c.isDigit = true) :
    ∃ group rest, groupInteger s = group ++ rest ∧ group.length = (s.length - 1) % 3 + 1 ∧
      (∀ c ∈ group, c.isDigit = true) ∧ Groups rest := by
  induction s with
  | nil => exact absurd rfl hne
  | cons c rest ih =>
    have hc : c.isDigit = true := hdigits c List.mem_cons_self
    by_cases hrest : rest = []
    · rw [hrest]
      exact ⟨[c], [], rfl, rfl, by simpa using hc, .nil⟩
    · obtain ⟨group, more, heq, hlength, hgroup, hmore⟩ :=
        ih hrest fun d hd => hdigits d (List.mem_cons_of_mem c hd)
      have hpos : 0 < rest.length := List.length_pos_of_ne_nil hrest
      rw [groupInteger_cons c hrest, heq, List.length_cons, Nat.add_sub_cancel]
      split
      · next hfull =>
        have hthree : group.length = 3 := by omega
        exact ⟨[c], ',' :: (group ++ more), rfl, by simp [hfull], by simpa using hc,
          .cons hthree hgroup hmore⟩
      · next hopen =>
        refine ⟨c :: group, more, rfl, ?_, ?_, hmore⟩
        · rw [List.length_cons, hlength]
          omega
        · simpa using ⟨hc, hgroup⟩

theorem grouped_groupInteger {s : List Char} (hne : s ≠ [])
    (hdigits : ∀ c ∈ s, c.isDigit = true) : Grouped (groupInteger s) := by
  obtain ⟨group, rest, heq, hlength, hgroup, hrest⟩ := exists_groups hne hdigits
  rw [heq]
  exact .intro (List.ne_nil_of_length_pos (by omega)) (by omega) hgroup hrest

theorem eq_nil_of_prefix_comma {run rest : List Char} (hrun : ∀ c ∈ run, c.isDigit = true)
    (h : run <+: ',' :: rest) : run = [] := by
  cases run with
  | nil => rfl
  | cons c run =>
    obtain rfl := (List.cons_prefix_cons.mp h).1
    exact absurd (hrun ',' List.mem_cons_self) (by decide)

/-- A run of digits is on one side of a comma. -/
theorem digits_infix_append_comma {run front rest : List Char}
    (hrun : ∀ c ∈ run, c.isDigit = true) (h : run <:+: front ++ ',' :: rest) :
    run <:+: front ∨ run <:+: rest := by
  rcases List.infix_append_iff.mp h with hfront | hback | ⟨left, right, rfl, hleft, hright⟩
  · exact .inl hfront
  · rcases List.infix_cons_iff.mp hback with hprefix | hrest
    · obtain rfl := eq_nil_of_prefix_comma hrun hprefix
      exact .inl List.nil_infix
    · exact .inr hrest
  · obtain rfl := eq_nil_of_prefix_comma
      (fun c hc => hrun c (List.mem_append_right left hc)) hright
    rw [List.append_nil]
    exact .inl hleft.isInfix

theorem Groups.length_run_le {rest : List Char} (h : Groups rest) {group run : List Char}
    (hgroup : group.length ≤ 3) (hrun : ∀ c ∈ run, c.isDigit = true) (hin : run <:+: group ++ rest) :
    run.length ≤ 3 := by
  induction h generalizing group with
  | nil =>
    rw [List.append_nil] at hin
    exact hin.length_le.trans hgroup
  | cons hlength hdigits h ih =>
    rcases digits_infix_append_comma hrun hin with hfront | hrest
    · exact hfront.length_le.trans hgroup
    · exact ih hlength.le hrest

/-- Not more than three digits follow each other. -/
theorem Grouped.length_run_le {s run : List Char} (h : Grouped s)
    (hrun : ∀ c ∈ run, c.isDigit = true) (hin : run <:+: s) : run.length ≤ 3 := by
  obtain ⟨hne, hlength, hdigits, hrest⟩ := h
  exact hrest.length_run_le hlength hrun hin

theorem filter_comma {s : List Char} (h : ',' ∉ s) : s.filter (· != ',') = s :=
  List.filter_eq_self.mpr fun _ hc => bne_iff_ne.mpr (ne_of_mem_of_not_mem hc h)

/-- Up to three digits stay together. -/
theorem groupInteger_short {group : List Char} (hlength : group.length ≤ 3) :
    groupInteger group = group := by
  induction group with
  | nil => rfl
  | cons c rest ih =>
    rw [List.length_cons] at hlength
    by_cases hrest : rest = []
    · rw [hrest]
      rfl
    · have hpos : 0 < rest.length := List.length_pos_of_ne_nil hrest
      have hopen : ¬ rest.length % 3 = 0 := by omega
      rw [groupInteger_cons c hrest, if_neg hopen, ih (by omega)]

/-- Up to three digits in front of full groups are a group of their own. -/
theorem groupInteger_append {group rest : List Char} (hne : group ≠ [])
    (hlength : group.length ≤ 3) (hrest : rest ≠ []) (hfull : rest.length % 3 = 0) :
    groupInteger (group ++ rest) = group ++ ',' :: groupInteger rest := by
  induction group with
  | nil => exact absurd rfl hne
  | cons c group ih =>
    have happend : group ++ rest ≠ [] := List.append_ne_nil_of_right_ne_nil group hrest
    rw [List.length_cons] at hlength
    rw [List.cons_append, groupInteger_cons c happend]
    by_cases hgroup : group = []
    · rw [hgroup, List.nil_append, if_pos hfull]
      rfl
    · have hpos : 0 < group.length := List.length_pos_of_ne_nil hgroup
      -- One or two more digits of the group stand before the full groups.
      have hopen : ¬ (group ++ rest).length % 3 = 0 := by
        rw [List.length_append]
        omega
      rw [if_neg hopen, ih hgroup (by omega), List.cons_append]

theorem Groups.filter_cons {group rest : List Char} (hdigits : ∀ c ∈ group, c.isDigit = true) :
    (',' :: (group ++ rest)).filter (· != ',') = group ++ rest.filter (· != ',') := by
  simp [filter_comma (not_mem_of_digits hdigits (by decide))]

theorem Groups.length_filter {rest : List Char} (h : Groups rest) :
    (rest.filter (· != ',')).length % 3 = 0 := by
  induction h with
  | nil => rfl
  | cons hlength hdigits h ih =>
    rw [Groups.filter_cons hdigits, List.length_append, hlength]
    omega

/-- Groups come back from their digits, behind whatever group stands first. -/
theorem Groups.groupInteger_filter {rest : List Char} (h : Groups rest) {group : List Char}
    (hne : group ≠ []) (hlength : group.length ≤ 3) :
    groupInteger (group ++ rest.filter (· != ',')) = group ++ rest := by
  induction h generalizing group with
  | nil => simpa using groupInteger_short hlength
  | @cons next rest hthree hdigits h ih =>
    have hnext : next ≠ [] := List.ne_nil_of_length_pos (by omega)
    have hfull : (next ++ rest.filter (· != ',')).length % 3 = 0 := by
      have hrest := h.length_filter
      rw [List.length_append]
      omega
    rw [Groups.filter_cons hdigits, groupInteger_append hne hlength
      (List.append_ne_nil_of_left_ne_nil hnext _) hfull, ih hnext hthree.le]

theorem Grouped.groupInteger_filter {s : List Char} (h : Grouped s) :
    groupInteger (s.filter (· != ',')) = s := by
  obtain ⟨hne, hlength, hdigits, hrest⟩ := h
  rw [List.filter_append, filter_comma (not_mem_of_digits hdigits (by decide))]
  exact hrest.groupInteger_filter hne hlength

theorem Grouped.head {s : List Char} (h : Grouped s) (more : List Char) :
    ∃ c ∈ (s ++ more).head?, c.isDigit = true := by
  obtain @⟨group, rest, hne, hlength, hdigits, hrest⟩ := h
  obtain ⟨c, group, rfl⟩ := List.exists_cons_of_ne_nil hne
  exact ⟨c, rfl, hdigits c List.mem_cons_self⟩

/-- Separators stand in the integer part only, between its digits: one to three digits come first,
and then groups of three, each behind a comma. There is no other way to put them. What follows the
integer part is nothing or begins with a point, and stays as it is. -/
theorem groupThousands_exact {whole tail : List Char} (hne : whole ≠ [])
    (hdigits : ∀ c ∈ whole, c.isDigit = true) (htail : ∀ c ∈ tail.head?, c = '.') :
    (∃ grouped, groupThousands (whole ++ tail) = grouped ++ tail ∧
      grouped.filter (· != ',') = whole ∧ Grouped grouped ∧
      ∀ other, Grouped other → other.filter (· != ',') = whole → other = grouped) ∧
    (∃ c ∈ (groupThousands (whole ++ tail)).head?, c.isDigit = true) ∧
    (',' ∉ tail → (groupThousands (whole ++ tail)).filter (· != ',') = whole ++ tail) := by
  have hgrouped : Grouped (groupInteger whole) := grouped_groupInteger hne hdigits
  have hwhole : (groupInteger whole).filter (· != ',') = whole := by
    rw [filter_groupInteger (by decide), filter_comma (not_mem_of_digits hdigits (by decide))]
  rw [groupThousands_run_append hdigits htail]
  refine ⟨⟨groupInteger whole, rfl, hwhole, hgrouped, ?_⟩, hgrouped.head tail, ?_⟩
  · intro other hother hsame
    rw [← hsame]
    exact hother.groupInteger_filter.symm
  · intro hcomma
    rw [List.filter_append, hwhole, filter_comma hcomma]

theorem groupThousands_exact_six_digits :
    let whole := "123456".toList
    let tail := ".7890".toList
    whole ≠ [] ∧ (∀ c ∈ whole, c.isDigit = true) ∧ (∀ c ∈ tail.head?, c = '.') ∧
      groupThousands (whole ++ tail) = "123,456.7890".toList := by
  intro whole tail
  have hne : whole ≠ [] := by decide
  have hdigits : ∀ c ∈ whole, c.isDigit = true := List.all_eq_true.mp rfl
  have htail : ∀ c ∈ tail.head?, c = '.' := by simp [tail]
  have hlast : Groups (',' :: ("456".toList ++ [])) :=
    .cons rfl (List.all_eq_true.mp rfl) .nil
  have hgrouped : Grouped ("123".toList ++ ',' :: ("456".toList ++ [])) :=
    .intro (by decide) (by decide) (List.all_eq_true.mp rfl) hlast
  obtain ⟨⟨grouped, htext, -, -, honly⟩, -⟩ := groupThousands_exact hne hdigits htail
  refine ⟨hne, hdigits, htail, ?_⟩
  rw [htext, ← honly _ hgrouped rfl]
  rfl

example : groupThousands "1234567".toList = "1,234,567".toList := by decide

end MarketQuery.Decimal
