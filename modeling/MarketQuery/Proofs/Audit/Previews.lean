import MarketQuery.Audit.Log

/-!
Previews in the audit log. A long text is cut at the byte where the first character begins that is
too many. The limit counts characters, of whatever width, so the look-up of that byte has to agree
with the count of characters. It does: there is such a byte exactly if there are more characters
than the limit, and so many stand before it. Hence a value that is shown by its text always bears
the mark.
-/
namespace MarketQuery.Audit

variable {limit : Nat} {text : String}

/-- The look-up of the cut and the count of characters are the same test. -/
theorem getElem?_offsets_eq_none_iff :
    (Text.offsets text.toList)[limit]? = none ↔ text.length ≤ limit := by
  rw [Text.getElem?_offsets, String.length_toList]
  split
  · next hlong => simpa using hlong
  · next hshort => simpa using hshort

theorem preview_of_length_le (h : text.length ≤ limit) : preview limit text = text := by
  have hnone := getElem?_offsets_eq_none_iff.mpr h
  unfold preview
  split
  · rfl
  · next cut hcut =>
    rw [hnone] at hcut
    contradiction

theorem preview_of_lt_length (h : limit < text.length) :
    preview limit text = String.ofList (text.toList.take limit) ++ truncationMark := by
  unfold preview
  split
  · next hnone =>
    have hshort := getElem?_offsets_eq_none_iff.mp hnone
    omega
  · next cut hcut =>
    obtain ⟨-, hfront⟩ := Text.getElem?_offsets_eq_some_iff.mp hcut
    rw [Text.before_eq (List.take_append_drop limit text.toList).symm hfront.symm]

/-- A text is previewed by itself, if it has no more characters than the limit, and otherwise by
just so many of them and a mark. A value is kept, if its text has a thousand characters at most, and
becomes the preview of that text otherwise. The limit is tested twice for it, once by counting
characters and once by looking for the cut, and no text passes only one of the tests. -/
theorem previews_exact :
    (∀ (limit : Nat) (text : String), preview limit text =
      if text.length ≤ limit then text
      else String.ofList (text.toList.take limit) ++ "... [truncated]") ∧
    (∀ v : Json, resultPreview v =
      if v.compact.length ≤ 1000 then v
      else .string (String.ofList (v.compact.toList.take 1000) ++ "... [truncated]")) ∧
    ∀ (limit : Nat) (text : String),
      (Text.offsets text.toList)[limit]? = none ↔ text.length ≤ limit := by
  refine ⟨fun limit text => ?_, fun v => ?_, fun limit text => getElem?_offsets_eq_none_iff⟩
  · split
    · next hshort => exact preview_of_length_le hshort
    · next hlong => exact preview_of_lt_length (Nat.lt_of_not_le hlong)
  · unfold resultPreview
    split
    · next hshort => rw [if_pos (show v.compact.length ≤ 1000 from hshort)]
    · next hlong =>
      have hmore : 1000 < v.compact.length := Nat.lt_of_not_le hlong
      rw [if_neg (Nat.not_le_of_lt hmore)]
      exact congrArg Json.string (preview_of_lt_length hmore)

example : preview 2 "ééé" = "éé... [truncated]" := by decide +kernel

end MarketQuery.Audit
