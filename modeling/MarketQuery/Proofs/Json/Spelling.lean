import MarketQuery.Proofs.Json.Literal
import MarketQuery.Proofs.Plan.Outline

/-!
Texts between quotes. A character is spelled by itself, by a short escape or by four hexadecimal
digits, and each of the three spellings decodes to it. The spelling of a text therefore decodes to
the text, has no control characters, and keeps the reader inside the string that it stands in.
-/
namespace MarketQuery

namespace Spelling

/-- How a character may be spelled inside a string. -/
inductive Spells (c : Char) : List Char → Prop
  | itself (hquote : c ≠ '"') (hslash : c ≠ '\\') (hflat : 0x20 ≤ c.toNat) : Spells c [c]
  | short (e : Char) (h : shortEscape? e = some c) : Spells c ['\\', e]
  | hex (a b : Char) (h : hex4? '0' '0' a b = some c.toNat) : Spells c ['\\', 'u', '0', '0', a, b]

theorem hex4?_hexDigit : ∀ n < 0x20,
    hex4? '0' '0' (Text.hexDigit (n / 16)) (Text.hexDigit (n % 16)) = some n := by
  decide

theorem spells_encodeChar (c : Char) : Spells c (encodeChar c) := by
  unfold encodeChar
  split
  case h_8 hquote hslash _ _ _ _ _ =>
    split
    · next hlt => exact .hex _ _ (hex4?_hexDigit _ hlt)
    · next hge => exact .itself hquote hslash (Nat.not_lt.mp hge)
  all_goals exact .short _ rfl

variable {c : Char} {text : List Char}

/-- The escape with hexadecimal digits is no short one. -/
theorem ne_of_shortEscape {e : Char} (h : shortEscape? e = some c) : e ≠ 'u' := by
  rintro rfl
  simp [shortEscape?] at h

theorem Spells.units?_append (h : Spells c text) (rest : List Char) :
    units? (text ++ rest) = (units? rest).map (c.toNat :: ·) := by
  rw [Option.map_eq_bind]
  cases h with
  | itself hquote hslash hflat => simp [units?, hslash]
  | short e he => simp [units?, ne_of_shortEscape he, he]
  | hex a b hab => simp [units?, hab]

theorem units?_encode (s : List Char) :
    units? (s.flatMap encodeChar) = some (s.map Char.toNat) := by
  induction s with
  | nil => rfl
  | cons c rest ih =>
    rw [List.flatMap_cons, (spells_encodeChar c).units?_append, ih]
    rfl

theorem not_surrogate (c : Char) :
    isHighSurrogate c.toNat = false ∧ isLowSurrogate c.toNat = false := by
  have hvalid : c.toNat < 0xD800 ∨ 0xDFFF < c.toNat ∧ c.toNat < 0x110000 := c.valid
  simp only [isHighSurrogate, isLowSurrogate]
  constructor <;> simp <;> omega

theorem joinUnits?_toNat (s : List Char) : joinUnits? (s.map Char.toNat) = some s := by
  induction s with
  | nil => rfl
  | cons c rest ih =>
    obtain ⟨hhigh, hlow⟩ := not_surrogate c
    cases rest with
    | nil => simp [joinUnits?, hhigh, hlow]
    | cons d rest =>
      rw [List.map_cons] at ih
      simp [joinUnits?, hhigh, hlow, ih]

theorem decode?_encode (s : String) : decode? (encode s) = some s := by
  simp [decode?, encode, units?_encode, joinUnits?_toNat]

theorem isSome_of_hex4 {a b c d : Char} {n : Nat} (h : hex4? a b c d = some n) :
    (Text.hexValue? c).isSome ∧ (Text.hexValue? d).isSome := by
  simp only [hex4?, Option.bind_eq_bind, Option.bind_eq_some_iff] at h
  obtain ⟨_, _, _, _, _, hc, _, hd, _⟩ := h
  exact ⟨by simp [hc], by simp [hd]⟩

theorem flat_of_hexValue {c : Char} (h : (Text.hexValue? c).isSome) : 0x20 ≤ c.toNat := by
  have hbound : '0' ≤ c ∨ 'a' ≤ c ∨ 'A' ≤ c := by
    unfold Text.hexValue? at h
    grind
  rcases hbound with hle | hle | hle <;> exact Nat.le_trans (by decide) hle

theorem flat_of_shortEscape {e : Char} (h : shortEscape? e = some c) : 0x20 ≤ e.toNat := by
  unfold shortEscape? at h
  split at h <;> first | decide | simp at h

theorem Spells.flat (h : Spells c text) : Text.Flat text := by
  cases h with
  | itself hquote hslash hflat => simpa [Text.Flat] using hflat
  | short e he => simpa [Text.Flat] using flat_of_shortEscape he
  | hex a b hab =>
    obtain ⟨ha, hb⟩ := isSome_of_hex4 hab
    simpa [Text.Flat] using ⟨flat_of_hexValue ha, flat_of_hexValue hb⟩

theorem flat_encode (s : String) : Text.Flat (encode s) := by
  intro d hd
  obtain ⟨c, -, hc⟩ := List.mem_flatMap.mp hd
  exact (spells_encodeChar c).flat d hc

end Spelling

namespace Reader

open Spelling

variable {c : Char} {text : List Char}

/-- A spelled character leaves the reader where it was in the string. -/
theorem run_spells (h : Spells c text) (stack : List Frame) (isKey : Bool)
    (spelling : List Char) :
    run ⟨stack, .string isKey .none spelling⟩ text =
      some ⟨stack, .string isKey .none (text.reverse ++ spelling)⟩ := by
  cases h with
  | itself hquote hslash hflat =>
    simp [run, step, inString, hquote, hslash, Nat.not_lt.mpr hflat]
  | short e he => simp [run, step, inString, ne_of_shortEscape he, he]
  | hex a b hab =>
    obtain ⟨ha, hb⟩ := isSome_of_hex4 hab
    have hzero : (Text.hexValue? '0').isSome := by decide
    simp [run, step, inString, ha, hb, hzero]

theorem run_encode (s : String) (stack : List Frame) (isKey : Bool) :
    run ⟨stack, .string isKey .none []⟩ (encode s) =
      some ⟨stack, .string isKey .none (encode s).reverse⟩ := by
  have hrun : ∀ (cs spelling : List Char),
      run ⟨stack, .string isKey .none spelling⟩ (cs.flatMap encodeChar) =
        some ⟨stack, .string isKey .none ((cs.flatMap encodeChar).reverse ++ spelling)⟩ := by
    intro cs
    induction cs with
    | nil => intro spelling; rfl
    | cons c rest ih =>
      intro spelling
      rw [List.flatMap_cons, run_append, run_spells (spells_encodeChar c), Option.bind_some, ih]
      simp
  simpa [encode] using hrun s.toList []

/-- The text of a string is read as its spelling. -/
theorem run_string (s : String) (stack : List Frame) :
    run ⟨stack, .value⟩ (Document.quotedSpelling (encode s)) =
      some (complete (.string (encode s)) stack) := by
  change run ⟨stack, .string false .none []⟩ (encode s ++ ['"']) = _
  rw [run_append, run_encode, Option.bind_some]
  simp [run, step, inString]

/-- A key may stand where an object begins or goes on. -/
theorem run_key {mode : Mode} (hmode : mode = .firstMember ∨ mode = .key) (s : String)
    (members : List (List Char × Document)) (key : List Char) (stack : List Frame) :
    run ⟨.object members key :: stack, mode⟩ (Document.quotedSpelling (encode s)) =
      some ⟨.object members (encode s) :: stack, .colon⟩ := by
  have hbegin : step ⟨.object members key :: stack, mode⟩ '"' =
      some ⟨.object members key :: stack, .string true .none []⟩ := by
    rcases hmode with rfl | rfl <;> rfl
  have hfirst : run ⟨.object members key :: stack, mode⟩ (Document.quotedSpelling (encode s)) =
      run ⟨.object members key :: stack, .string true .none []⟩ (encode s ++ ['"']) := by
    simp [Document.quotedSpelling, run, hbegin]
  rw [hfirst, run_append, run_encode, Option.bind_some]
  simp [run, step, inString]

end Reader

end MarketQuery
