import JsxTemplate.Template.Basic
import JsxTemplate.Template.Escape

/-
  Buffers: the literals and slots of a template under construction, in turn, a literal first.
  Adjacent literals fuse, which lets the end of an opening tag, the children and the closing tag
  become one segment.
-/

namespace JsxTemplate

/-- Why a buffer is refused; the counts are those of the buffer. -/
inductive CompileError where
  /-- Asked to append a buffer with more slots than literals. -/
  | malformedBuffer (literals expressions : Nat)
  /-- Asked to close a buffer with more slots than literals. -/
  | unbalancedTemplate (literals expressions : Nat)
  deriving DecidableEq, Repr

namespace CompileError

def literals : CompileError → Nat
  | malformedBuffer n _ => n
  | unbalancedTemplate n _ => n

def expressions : CompileError → Nat
  | malformedBuffer _ n => n
  | unbalancedTemplate _ n => n

def message (error : CompileError) : Text :=
  let complaint := match error with
    | malformedBuffer _ _ => "Trying to concat malformed template: ".toList
    | unbalancedTemplate _ _ => "Cannot materialize malformed template: ".toList
  complaint ++ decimal error.literals ++ " literals for ".toList ++ decimal error.expressions
    ++ " expressions".toList

end CompileError

/-- Literals and the code of the slots between them. -/
structure Buffer where
  literals : List Text
  expressions : List Text
  deriving DecidableEq, Repr

namespace Buffer

def empty : Buffer := ⟨[], []⟩

/-- Whether the last thing added was a literal. -/
def endsWithLiteral (buffer : Buffer) : Bool :=
  buffer.literals.length == buffer.expressions.length + 1

/-- At least as many literals as slots. -/
def isWellFormed (buffer : Buffer) : Bool :=
  buffer.expressions.length ≤ buffer.literals.length

/-- Extends the last text of a list. -/
def extendLast (text : Text) : List Text → List Text
  | [] => [text]
  | [last] => [last ++ text]
  | first :: second :: rest => first :: extendLast text (second :: rest)

/-- Adds text, to the last literal if the buffer ends with one. -/
def addLiteral (buffer : Buffer) (text : Text) : Buffer :=
  if buffer.endsWithLiteral then
    { buffer with literals := extendLast text buffer.literals }
  else { buffer with literals := buffer.literals ++ [text] }

/-- Adds a slot, behind an empty literal if the buffer does not end with a literal. -/
def addExpression (buffer : Buffer) (expression : Text) : Buffer :=
  if buffer.literals.length == buffer.expressions.length then
    ⟨buffer.literals ++ [[]], buffer.expressions ++ [expression]⟩
  else { buffer with expressions := buffer.expressions ++ [expression] }

/-- Adds literals and slots in turn, as far as the literals go. -/
def replay : Buffer → List Text → List Text → Buffer
  | buffer, [], _ => buffer
  | buffer, text :: literals, [] => replay (buffer.addLiteral text) literals []
  | buffer, text :: literals, expression :: expressions =>
    replay ((buffer.addLiteral text).addExpression expression) literals expressions

/-- Appends `other`, whose first literal fuses with the last one here. -/
def concat (buffer other : Buffer) : Except CompileError Buffer :=
  if other.isWellFormed then .ok (buffer.replay other.literals other.expressions)
  else .error (.malformedBuffer other.literals.length other.expressions.length)

/-- The segments of a template; only the last one is its tail. -/
def segments : List Text → List Segment
  | [] => []
  | [text] => [⟨escape text, text, true⟩]
  | text :: next :: rest => ⟨escape text, text, false⟩ :: segments (next :: rest)

/-- Closes the buffer, with an empty literal if it does not end with a literal. -/
def materialize (buffer : Buffer) : Except CompileError Template :=
  if buffer.isWellFormed then
    let literals :=
      if buffer.literals.length == buffer.expressions.length then buffer.literals ++ [[]]
      else buffer.literals
    .ok ⟨segments literals, buffer.expressions⟩
  else .error (.unbalancedTemplate buffer.literals.length buffer.expressions.length)

end Buffer

end JsxTemplate
