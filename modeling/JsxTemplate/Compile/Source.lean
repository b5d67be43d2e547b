import JsxTemplate.Compile.Basic
import JsxTemplate.Reader.Parse

/-
  From source to output: read, compile, print.
-/

namespace JsxTemplate

/-- Why a source has no output. -/
inductive TransformError where
  | parse (error : ParseError)
  | compile (error : CompileError)
  deriving DecidableEq, Repr

def TransformError.message : TransformError → Text
  | parse error => error.description
  | compile error => error.message

/-- The output for a source, under the default options with `overrides` on top. -/
def transformSource (overrides : Overrides) (source : Text) : Except TransformError Text := do
  let program ← (parse source).mapError .parse
  let compiled ← (transform (.merge overrides) program).mapError .compile
  .ok (Expression.toSource compiled)

end JsxTemplate
