import Mathlib.Data.List.Basic
import MarketQuery.Url.Path

/-!
The spelling of a text in a form, in the place of a segment of a path. Different texts have
different spellings, and a spelling is made of characters that no address reads in a way of its
own. Percent-decoding is not the way back: a form writes a space as a plus sign, and a path keeps
the plus sign.
-/
namespace MarketQuery.Percent

open Text (hexValue? upperHexDigit)

def isFormChar (c : Char) : Bool :=
  isFormSafe c || c == '+' || c == '%'

/-- What a form writes, read by percent-decoding. -/
def plusForSpace (c : Char) : Char :=
  if c = ' ' then '+' else c

def plusByte (b : UInt8) : UInt8 :=
  if b = 0x20 then 0x2B else b

theorem forall_byte {p : UInt8 → Prop} (h : ∀ n < 256, p (UInt8.ofNat n)) (b : UInt8) : p b := by
  have hb := h b.toNat b.toNat_lt
  rwa [UInt8.ofNat_toNat] at hb

theorem hexValue?_upperHexDigit : ∀ n < 16, hexValue? (upperHexDigit n) = some n := by
  decide

/-- A byte is written in one of three ways. -/
theorem formByte_cases (b : UInt8) :
    (∃ c, formByte b = [c] ∧ isFormSafe c = true ∧ String.utf8EncodeChar c = [b] ∧ b ≠ 0x20) ∨
      (formByte b = ['+'] ∧ b = 0x20) ∨ (formByte b = escape b ∧ b ≠ 0x20 ∧ b ≠ 0x2E) := by
  have hsafe : isFormSafe (Char.ofNat b.toNat) = true →
      String.utf8EncodeChar (Char.ofNat b.toNat) = [b] ∧ b ≠ 0x20 :=
    forall_byte (p := fun b => isFormSafe (Char.ofNat b.toNat) = true →
      String.utf8EncodeChar (Char.ofNat b.toNat) = [b] ∧ b ≠ 0x20) (by decide +kernel) b
  have hspace : Char.ofNat b.toNat = ' ' ↔ b = 0x20 :=
    forall_byte (p := fun b => Char.ofNat b.toNat = ' ' ↔ b = 0x20) (by decide +kernel) b
  unfold formByte
  by_cases hc : isFormSafe (Char.ofNat b.toNat) = true
  · obtain ⟨hbyte, hne⟩ := hsafe hc
    exact .inl ⟨_, by simp [hc], hc, hbyte, hne⟩
  · by_cases hplus : Char.ofNat b.toNat = ' '
    · exact .inr (.inl ⟨by simp [hplus, isFormSafe], hspace.mp hplus⟩)
    · refine .inr (.inr ⟨by simp [hc, hplus], mt hspace.mpr hplus, ?_⟩)
      rintro rfl
      exact hc (by decide)

theorem isFormChar_of_mem_formByte {b : UInt8} {c : Char} (h : c ∈ formByte b) :
    isFormChar c = true := by
  have hdigit : ∀ n < 16, isFormChar (upperHexDigit n) = true := by decide
  have hb : b.toNat < 256 := b.toNat_lt
  rcases formByte_cases b with ⟨d, heq, hsafe, -⟩ | ⟨heq, -⟩ | ⟨heq, -⟩
  · rw [heq, List.mem_singleton] at h
    simp [isFormChar, h, hsafe]
  · rw [heq, List.mem_singleton] at h
    simp [isFormChar, h]
  · simp only [heq, escape, List.mem_cons, List.not_mem_nil, or_false] at h
    rcases h with rfl | rfl | rfl
    · rfl
    · exact hdigit _ (by omega)
    · exact hdigit _ (by omega)

theorem decode_cons_of_ne {c : Char} (h : c ≠ '%') (rest : List Char) :
    decode (c :: rest) = String.utf8EncodeChar c ++ decode rest := by
  rw [decode]
  intro a b tail hpercent
  exact absurd hpercent h

theorem decode_escape (b : UInt8) (rest : List Char) :
    decode (escape b ++ rest) = b :: decode rest := by
  have hb : b.toNat < 256 := b.toNat_lt
  have hhigh := hexValue?_upperHexDigit (b.toNat / 16) (by omega)
  have hlow := hexValue?_upperHexDigit (b.toNat % 16) (by omega)
  have hvalue : 16 * (b.toNat / 16) + b.toNat % 16 = b.toNat := Nat.div_add_mod _ _
  simp [escape, decode, hhigh, hlow, hvalue]

theorem decode_formByte (b : UInt8) (rest : List Char) :
    decode (formByte b ++ rest) = plusByte b :: decode rest := by
  rcases formByte_cases b with ⟨c, heq, hsafe, hbyte, hne⟩ | ⟨heq, rfl⟩ | ⟨heq, hne, -⟩
  · have hpercent : c ≠ '%' := by
      rintro rfl
      exact absurd hsafe (by decide)
    rw [heq, List.singleton_append, decode_cons_of_ne hpercent, hbyte, plusByte, if_neg hne]
    rfl
  · rw [heq, List.singleton_append, decode_cons_of_ne (by decide)]
    rfl
  · rw [heq, decode_escape, plusByte, if_neg hne]

/-- No byte's spelling begins another's. -/
theorem formByte_append_inj {b c : UInt8} {s t : List Char}
    (h : formByte b ++ s = formByte c ++ t) : b = c ∧ s = t := by
  have hread : plusByte b = plusByte c := by
    have hdecode := congrArg decode h
    rw [decode_formByte, decode_formByte] at hdecode
    exact (List.cons.inj hdecode).1
  have hspace : formByte 0x20 = ['+'] := by decide
  have hplus : formByte 0x2B = ['%', '2', 'B'] := by decide
  have heq : b = c := by
    unfold plusByte at hread
    split at hread <;> split at hread
    · next hb hc => rw [hb, hc]
    · next hb _ =>
      subst hb hread
      simp [hspace, hplus] at h
    · next _ hc =>
      subst hc hread
      simp [hspace, hplus] at h
    · exact hread
  subst heq
  exact ⟨rfl, List.append_cancel_left h⟩

theorem flatMap_formByte_injective :
    Function.Injective fun bs : List UInt8 => bs.flatMap formByte := by
  have hne : ∀ b : UInt8, formByte b ≠ [] := by
    intro b
    rcases formByte_cases b with ⟨c, heq, -⟩ | ⟨heq, -⟩ | ⟨heq, -⟩ <;> simp [heq, escape]
  intro front back h
  induction front generalizing back with
  | nil =>
    cases back with
    | nil => rfl
    | cons c back => simp [hne] at h
  | cons b front ih =>
    cases back with
    | nil => simp [hne] at h
    | cons c back =>
      simp only [List.flatMap_cons] at h
      obtain ⟨rfl, hrest⟩ := formByte_append_inj h
      rw [ih hrest]

theorem bytes_toList (s : String) : bytes s.toList = s.toByteArray.data.toList := by
  rw [← String.utf8Encode_toList, List.utf8Encode, List.toList_data_toByteArray]
  rfl

theorem toArray_bytes (s : List Char) : (⟨(bytes s).toArray⟩ : ByteArray) = s.utf8Encode := by
  apply ByteArray.ext
  rw [List.utf8Encode, List.data_toByteArray]
  rfl

theorem bytes_toList_injective : Function.Injective fun s : String => bytes s.toList := by
  intro s t h
  simp only [bytes_toList] at h
  exact String.toByteArray_inj.mp (ByteArray.ext (Array.toList_inj.mp h))

/-- A byte below the ASCII limit is a character of its own. -/
theorem eq_of_mem_utf8EncodeChar {c : Char} {b : UInt8} (h : b ∈ String.utf8EncodeChar c)
    (hb : b.toNat < 0x80) : c.toNat = b.toNat := by
  have hlead : ∀ n m : Nat, 0x80 ≤ m → n + m < 0x100 → b ≠ UInt8.ofNat (n + m) := by
    rintro n m hm hlt rfl
    simp only [UInt8.toNat_ofNat'] at hb
    omega
  unfold String.utf8EncodeChar at h
  simp only at h
  split at h
  · next hascii =>
    have hval : c.val.toNat = c.toNat := rfl
    rw [List.mem_singleton.mp h, UInt8.toNat_ofNat']
    omega
  · split at h
    · simp only [List.mem_cons, List.not_mem_nil, or_false] at h
      rcases h with h | h
      · exact absurd h (hlead _ 0xC0 (by omega) (by omega))
      · exact absurd h (hlead _ 0x80 (by omega) (by omega))
    · split at h
      · simp only [List.mem_cons, List.not_mem_nil, or_false] at h
        rcases h with h | h | h
        · exact absurd h (hlead _ 0xE0 (by omega) (by omega))
        · exact absurd h (hlead _ 0x80 (by omega) (by omega))
        · exact absurd h (hlead _ 0x80 (by omega) (by omega))
      · simp only [List.mem_cons, List.not_mem_nil, or_false] at h
        rcases h with h | h | h | h
        · exact absurd h (hlead _ 0xF0 (by omega) (by omega))
        · exact absurd h (hlead _ 0x80 (by omega) (by omega))
        · exact absurd h (hlead _ 0x80 (by omega) (by omega))
        · exact absurd h (hlead _ 0x80 (by omega) (by omega))

theorem utf8EncodeChar_plusForSpace (c : Char) :
    String.utf8EncodeChar (plusForSpace c) = (String.utf8EncodeChar c).map plusByte := by
  by_cases hc : c = ' '
  · subst hc
    decide
  · have hbyte : ∀ b ∈ String.utf8EncodeChar c, plusByte b = b := by
      intro b hb
      refine if_neg ?_
      rintro rfl
      exact hc (Char.toNat_inj.mp (eq_of_mem_utf8EncodeChar hb (by decide)))
    rw [plusForSpace, if_neg hc, List.map_congr_left hbyte, List.map_id']

theorem bytes_map_plusForSpace (s : List Char) :
    bytes (s.map plusForSpace) = (bytes s).map plusByte := by
  induction s with
  | nil => rfl
  | cons c rest ih =>
    simp only [bytes, List.map_cons, List.flatMap_cons, List.map_append] at ih ⊢
    rw [ih, utf8EncodeChar_plusForSpace]

theorem toList_formEncode (s : String) :
    (formEncode s).toList = (bytes s.toList).flatMap formByte := by
  rw [formEncode, String.toList_ofList]

theorem formEncode_injective : Function.Injective formEncode := by
  intro s t h
  have hchars := congrArg String.toList h
  rw [toList_formEncode, toList_formEncode] at hchars
  exact bytes_toList_injective (flatMap_formByte_injective hchars)

theorem isFormChar_of_mem_formEncode {s : String} {c : Char} (h : c ∈ (formEncode s).toList) :
    isFormChar c = true := by
  rw [toList_formEncode] at h
  obtain ⟨b, -, hmem⟩ := List.mem_flatMap.mp h
  exact isFormChar_of_mem_formByte hmem

theorem decode_flatMap_formByte (bs : List UInt8) :
    decode (bs.flatMap formByte) = bs.map plusByte := by
  induction bs with
  | nil => rfl
  | cons b rest ih => rw [List.flatMap_cons, decode_formByte, ih, List.map_cons]

/-- Percent-decoding the spelling of a text gives the text with a plus sign for every space. -/
theorem decodeText?_formEncode (s : String) :
    decodeText? (formEncode s).toList = some (s.toList.map plusForSpace) := by
  have hbytes : decode (formEncode s).toList = bytes (s.toList.map plusForSpace) := by
    rw [toList_formEncode, decode_flatMap_formByte, bytes_map_plusForSpace]
  have hvalid : (s.toList.map plusForSpace).utf8Encode.IsValidUTF8 := ⟨_, rfl⟩
  rw [decodeText?, hbytes, toArray_bytes, String.fromUTF8?, dif_pos hvalid, Option.map_some]
  exact congrArg some String.toList_ofList

theorem decodeText?_formEncode_eq_iff (s : String) :
    decodeText? (formEncode s).toList = some s.toList ↔ ' ' ∉ s.toList := by
  rw [decodeText?_formEncode, Option.some.injEq]
  constructor
  · intro h hmem
    have hspace : ' ' ∈ s.toList.map plusForSpace := by rwa [h]
    obtain ⟨c, -, hc⟩ := List.mem_map.mp hspace
    unfold plusForSpace at hc
    split at hc
    · exact absurd hc (by decide)
    · next hne => exact hne hc
  · intro h
    have hsame : ∀ c ∈ s.toList, plusForSpace c = c := by
      intro c hc
      refine if_neg ?_
      rintro rfl
      exact h hc
    rw [List.map_congr_left hsame, List.map_id']

end MarketQuery.Percent

namespace MarketQuery.Url

open Text (upperHexDigit)

theorem undotted_cons_of_ne {c : Char} (h : c ≠ '%') (rest : List Char) :
    undotted (c :: rest) = c :: undotted rest := by
  rw [undotted]
  intro d tail hpercent
  exact absurd hpercent h

theorem undotted_escaped {high low : Char} (hhigh : high ≠ '%') (hlow : low ≠ '%')
    (hdot : ¬ (high = '2' ∧ low.toLower = 'e')) (rest : List Char) :
    undotted ('%' :: high :: low :: rest) = '%' :: high :: low :: undotted rest := by
  by_cases htwo : high = '2'
  · subst htwo
    have hother : ¬ low.toLower = 'e' := fun h => hdot ⟨rfl, h⟩
    rw [undotted, if_neg hother, undotted_cons_of_ne hhigh, undotted_cons_of_ne hlow]
  · rw [undotted, undotted_cons_of_ne hhigh, undotted_cons_of_ne hlow]
    intro c tail _ hcons
    exact htwo (List.cons.inj hcons).1

/-- A form escapes no dot, so a spelling has no escaped dots. -/
theorem undotted_formByte (b : UInt8) (rest : List Char) :
    undotted (Percent.formByte b ++ rest) = Percent.formByte b ++ undotted rest := by
  rcases Percent.formByte_cases b with ⟨c, heq, hsafe, -⟩ | ⟨heq, -⟩ | ⟨heq, -, hdot⟩
  · have hpercent : c ≠ '%' := by
      rintro rfl
      exact absurd hsafe (by decide)
    rw [heq, List.singleton_append, undotted_cons_of_ne hpercent]
    rfl
  · rw [heq, List.singleton_append, undotted_cons_of_ne (by decide)]
    rfl
  · have hb : b.toNat < 256 := b.toNat_lt
    have hpercent : ∀ n < 16, upperHexDigit n ≠ '%' := by decide
    have htwo : ∀ n < 16, upperHexDigit n = '2' → n = 2 := by decide
    have he : ∀ n < 16, (upperHexDigit n).toLower = 'e' → n = 14 := by decide
    rw [heq]
    refine undotted_escaped (hpercent _ (by omega)) (hpercent _ (by omega)) ?_ rest
    rintro ⟨hhigh, hlow⟩
    have hhigh := htwo _ (by omega) hhigh
    have hlow := he _ (by omega) hlow
    have hvalue : b.toNat = 0x2E := by omega
    exact hdot (UInt8.toNat_inj.mp hvalue)

theorem undotted_formEncode (s : String) :
    undotted (Percent.formEncode s).toList = (Percent.formEncode s).toList := by
  have hflat : ∀ bs : List UInt8,
      undotted (bs.flatMap Percent.formByte) = bs.flatMap Percent.formByte := by
    intro bs
    induction bs with
    | nil => rfl
    | cons b rest ih => rw [List.flatMap_cons, undotted_formByte, ih]
  rw [Percent.toList_formEncode, hflat]

end MarketQuery.Url
