import JsxTemplate.Text.Blank
import JsxTemplate.Text.Identifier

/-
  Classes of characters that exclude each other: no name holds a blank, and none of the characters
  that end a name may stand in it.
-/

namespace JsxTemplate

/-- The characters of some ranges, one by one. -/
def Ranges.chars (ranges : Ranges) : List Char :=
  ranges.flatMap fun range => (List.range' range.1 (range.2 + 1 - range.1)).map Char.ofNat

theorem Ranges.mem_chars {ranges : Ranges} {c : Char} (h : ranges.contains c = true) :
    c ∈ ranges.chars := by
  obtain ⟨range, hmem, hfrom, hto⟩ := (ranges.contains_iff c).1 h
  refine List.mem_flatMap.2 ⟨range, hmem, List.mem_map.2 ⟨c.toNat, ?_, Char.ofNat_toNat c⟩⟩
  rw [List.mem_range'_1]
  omega

theorem not_isBlank_of_isIdentifierChar {c : Char} (h : isIdentifierChar c = true) :
    isBlank c = false := by
  have hall : ∀ d ∈ blankRanges.chars, isIdentifierChar d = false :=
    Text.eq_false_of_all (by decide +kernel)
  rw [← Bool.not_eq_true]
  intro hblank
  rw [hall c (Ranges.mem_chars hblank)] at h
  cases h

theorem not_isBlank_of_isTagChar {c : Char} (h : isTagChar c = true) : isBlank c = false := by
  simp only [isTagChar, Bool.or_eq_true, beq_iff_eq] at h
  rcases h with ((h | rfl) | rfl) | rfl
  · exact not_isBlank_of_isIdentifierChar h
  all_goals decide

theorem isTagChar_of_isAttributeChar {c : Char} (h : isAttributeChar c = true) :
    isTagChar c = true := by
  simp only [isAttributeChar, isTagChar, Bool.or_eq_true] at *
  rcases h with (h | h) | h <;> simp [h]

theorem not_isBlank_of_isAttributeChar {c : Char} (h : isAttributeChar c = true) :
    isBlank c = false :=
  not_isBlank_of_isTagChar (isTagChar_of_isAttributeChar h)

/-- What no blank is and the text behind some blanks does not begin with, they do not either. -/
theorem not_of_head?_blanks {p : Char → Bool} (hp : ∀ c, p c = true → isBlank c = false)
    {blanks rest : Text} (hb : blanks.isBlank) (hrest : ∀ c ∈ rest.head?, p c = false) :
    ∀ c ∈ (blanks ++ rest).head?, p c = false := by
  cases blanks with
  | nil => exact hrest
  | cons d blanks =>
    intro c hc
    obtain rfl : d = c := by simpa using hc
    simp only [Text.isBlank, List.all_cons, Bool.and_eq_true] at hb
    rw [← Bool.not_eq_true]
    intro hd
    rw [hp d hd] at hb
    cases hb.1

end JsxTemplate
