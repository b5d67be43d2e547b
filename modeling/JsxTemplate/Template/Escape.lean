import JsxTemplate.Text.Basic

/-
  Escaping text for use between backticks, where a backslash, a backtick and the opening of a
  slot have a meaning of their own.
-/

namespace JsxTemplate

/-- Guards every backslash and backtick, and every dollar sign that stands before a brace. -/
def escape : Text → Text
  | [] => []
  | c :: rest =>
    if c == '\\' || c == '\x60' || (c == '$' && rest.head? == some '{') then
      '\\' :: c :: escape rest
    else c :: escape rest

end JsxTemplate
