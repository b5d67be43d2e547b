import JsxTemplate.Text.Basic

/-
  Places in a text, counted in characters and in lines and columns, and the spans between them.
-/

namespace JsxTemplate

/-- A place: how many characters lie before it, and its line and column. -/
structure Place where
  offset : Nat
  line : Nat
  column : Nat
  deriving DecidableEq, Repr

namespace Place

def origin : Place := ⟨0, 1, 1⟩

/-- The place behind one more character. Only a newline ends a line. -/
def step (place : Place) (c : Char) : Place :=
  if c == '\n' then ⟨place.offset + 1, place.line + 1, 1⟩
  else ⟨place.offset + 1, place.line, place.column + 1⟩

/-- The place behind `text`. -/
def after (place : Place) (text : Text) : Place := text.foldl step place

theorem after_nil (place : Place) : place.after [] = place := rfl

theorem after_cons (place : Place) (c : Char) (text : Text) :
    place.after (c :: text) = (place.step c).after text := rfl

theorem after_append (place : Place) (s t : Text) :
    place.after (s ++ t) = (place.after s).after t := by
  simp [after, List.foldl_append]

theorem step_offset (place : Place) (c : Char) : (place.step c).offset = place.offset + 1 := by
  unfold step; split <;> rfl

theorem after_offset (place : Place) (text : Text) :
    (place.after text).offset = place.offset + text.length := by
  induction text generalizing place with
  | nil => rfl
  | cons c text ih => rw [after_cons, ih, step_offset, List.length_cons]; omega

end Place

/-- A stretch of text, with the line and column where it starts. -/
structure Span where
  start : Nat
  stop : Nat
  line : Nat
  column : Nat
  deriving DecidableEq, Repr

namespace Span

/-- The span of a text that was never read from a source. -/
def nowhere : Span := ⟨0, 0, 0, 0⟩

/-- The empty span at a place. -/
def empty (place : Place) : Span := ⟨place.offset, place.offset, place.line, place.column⟩

end Span

end JsxTemplate
