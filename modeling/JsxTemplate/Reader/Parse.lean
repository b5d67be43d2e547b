import JsxTemplate.Reader.Progress

/-
  Reading a whole source.
-/

namespace JsxTemplate

/-- The expression a source holds, or the first fault in it. -/
def parse (source : Text) : Except ParseError Expression :=
  match h : Reader.code (Reader.fuelFor source.length) none .origin 0 .empty (.ofText source) with
  | .ok (draft, _) => .ok draft.finish
  | .error (.fault error) => .error error
  | .error .outOfFuel => absurd h (Reader.code_ne_outOfFuel _ _ _ _ (.ofText source))

theorem parse_eq_ok_iff {source : Text} {expression : Expression} :
    parse source = .ok expression ↔
      ∃ draft cursor, Reader.code (Reader.fuelFor source.length) none .origin 0 .empty
        (.ofText source) = .ok (draft, cursor) ∧ draft.finish = expression := by
  unfold parse
  split
  next draft cursor h => simp [h]
  next error h => simp [h]
  next h => exact absurd h (Reader.code_ne_outOfFuel _ _ _ _ (.ofText source))

theorem parse_eq_error_iff {source : Text} {error : ParseError} :
    parse source = .error error ↔
      Reader.code (Reader.fuelFor source.length) none .origin 0 .empty (.ofText source) =
        .error (.fault error) := by
  unfold parse
  split
  next draft cursor h => simp [h]
  next error h => simp [h]
  next h => exact absurd h (Reader.code_ne_outOfFuel _ _ _ _ (.ofText source))

end JsxTemplate
