import JsxTemplate.Text.Basic

/-
  Template literals: literal segments with the slots between them.
-/

namespace JsxTemplate

/-- A literal stretch of a template. -/
structure Segment where
  /-- The text as it stands between the backticks. -/
  raw : Text
  /-- The text it evaluates to. -/
  cooked : Text
  /-- Whether it is the last one. -/
  tail : Bool
  deriving DecidableEq, Repr

/-- A template literal; `expressions` holds the code of each slot. -/
structure Template where
  segments : List Segment
  expressions : List Text
  deriving DecidableEq, Repr

namespace Template

/-- Segments and slots in turn. Slots beyond the last segment are not written. -/
def interleave : List Segment → List Text → Text
  | [], _ => []
  | segment :: segments, [] => segment.raw ++ interleave segments []
  | segment :: segments, expression :: expressions =>
    segment.raw ++ ['$', '{'] ++ expression ++ ['}'] ++ interleave segments expressions

def toSource (template : Template) : Text :=
  ['\x60'] ++ interleave template.segments template.expressions ++ ['\x60']

end Template

end JsxTemplate
