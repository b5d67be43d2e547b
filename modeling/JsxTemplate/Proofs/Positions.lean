import Mathlib.Data.List.Induction
import JsxTemplate.Source.Cursor

/-
  Where a cursor stands. A cursor reaches another if reading on leads from one to the other; its
  place then moves on by exactly the text in between. So the place of a cursor that is reached from
  the start of a source counts the characters, lines and columns of the text before it.
-/

namespace JsxTemplate

/-! ## Lines and columns -/

namespace Place

theorem after_line (place : Place) (text : Text) :
    (place.after text).line = place.line + text.count '\n' := by
  induction text generalizing place with
  | nil => rfl
  | cons c text ih =>
    rw [after_cons, ih, List.count_cons]
    unfold step
    split
    · dsimp only; omega
    · rfl

/-- The column counts the characters behind the last newline. -/
theorem origin_after_column (text : Text) :
    (origin.after text).column = 1 + (text.reverse.takeWhile (· != '\n')).length := by
  induction text using List.reverseRecOn with
  | nil => rfl
  | append_singleton text c ih =>
    rw [after_append, after_cons, after_nil, List.reverse_append, List.reverse_singleton,
      List.singleton_append]
    unfold step
    split
    next hc => simp_all
    next hc =>
      rw [List.takeWhile_cons_of_pos (by simpa using hc), List.length_cons]
      dsimp only
      omega

end Place

/-! ## Reading on -/

namespace Cursor

/-- Reading on from one cursor leads to the other. -/
def Reaches (cursor behind : Cursor) : Prop :=
  ∃ taken, cursor.rest = taken ++ behind.rest ∧ behind.place = cursor.place.after taken

theorem reaches_refl (cursor : Cursor) : cursor.Reaches cursor := ⟨[], rfl, rfl⟩

theorem Reaches.trans {cursor middle behind : Cursor} (h : cursor.Reaches middle)
    (h' : middle.Reaches behind) : cursor.Reaches behind := by
  obtain ⟨first, hrest, hplace⟩ := h
  obtain ⟨second, hrest', hplace'⟩ := h'
  refine ⟨first ++ second, ?_, ?_⟩
  · rw [hrest, hrest', List.append_assoc]
  · rw [hplace', hplace, Place.after_append]

theorem reaches_past {cursor : Cursor} {taken rest : Text} (h : cursor.rest = taken ++ rest) :
    cursor.Reaches (cursor.past taken) :=
  ⟨taken, by rw [rest_past h, h], rfl⟩

theorem reaches_next (cursor : Cursor) : cursor.Reaches cursor.next := by
  cases hr : cursor.rest with
  | nil =>
    have hnext : cursor.next = cursor := by simp [next, hr]
    rw [hnext]
    exact reaches_refl cursor
  | cons c rest =>
    rw [next_eq_past hr]
    exact reaches_past hr

theorem reaches_past_ahead (cursor : Cursor) (p : Char → Bool) :
    cursor.Reaches (cursor.past (cursor.ahead p)) :=
  reaches_past (cursor.ahead_append_rest p).symm

theorem reaches_skipBlanks (cursor : Cursor) : cursor.Reaches cursor.skipBlanks :=
  cursor.reaches_past_ahead isBlank

theorem Reaches.offset_le {cursor behind : Cursor} (h : cursor.Reaches behind) :
    cursor.place.offset ≤ behind.place.offset := by
  obtain ⟨taken, -, hplace⟩ := h
  rw [hplace, Place.after_offset]
  omega

theorem offset_next {cursor : Cursor} {c : Char} {rest : Text} (h : cursor.rest = c :: rest) :
    cursor.next.place.offset = cursor.place.offset + 1 := by
  rw [next_of_rest h]
  exact Place.step_offset cursor.place c

/-- The text between two cursors decides how the place moves. -/
theorem Reaches.place_eq {cursor behind : Cursor} (h : cursor.Reaches behind) {own : Text}
    (hrest : cursor.rest = own ++ behind.rest) : behind.place = cursor.place.after own := by
  obtain ⟨taken, htaken, hplace⟩ := h
  have hown : own = taken := List.append_cancel_right (hrest.symm.trans htaken)
  rw [hplace, hown]

end Cursor

end JsxTemplate
