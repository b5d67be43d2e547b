import JsxTemplate.Source.Place

/-
  What can be wrong with a source, and how it is reported.
-/

namespace JsxTemplate

/-- Why a source cannot be read. -/
inductive Fault where
  /-- A given character was needed; `none` found means the end of the source. -/
  | expected (wanted : Char) (purpose : Text) (found : Option Char)
  | unterminatedExpression (close : Char)
  | unterminatedString
  | unterminatedTemplate
  | unterminatedComment
  | fragment
  | missingTag
  | spreadAttribute
  | unterminatedTag (tag : Text)
  | unexpectedInTag (tag : Text) (found : Char)
  | unterminatedValue (name : Text)
  | missingValue (name : Text)
  | unclosedElement (tag : Text)
  | mismatchedClosing (opened closed : Text)
  /-- Any other complaint, in the words of whoever raises it. -/
  | remark (message : Text)
  deriving DecidableEq, Repr

namespace Fault

def message : Fault → Text
  | expected wanted purpose none =>
    "Expected '".toList ++ [wanted] ++ "' ".toList ++ purpose ++ ", got end of input".toList
  | expected wanted purpose (some found) =>
    "Expected '".toList ++ [wanted] ++ "' ".toList ++ purpose ++ ", got '".toList ++ [found]
      ++ ['\'']
  | unterminatedExpression close =>
    "Unterminated expression, expected '".toList ++ [close] ++ ['\'']
  | unterminatedString => "Unterminated string".toList
  | unterminatedTemplate => "Unterminated template literal".toList
  | unterminatedComment => "Unterminated block comment".toList
  | fragment => "JSX fragments are not supported".toList
  | missingTag => "Expected tag name".toList
  | spreadAttribute => "Spread attributes are not supported".toList
  | unterminatedTag tag => "Unterminated opening tag <".toList ++ tag ++ ['>']
  | unexpectedInTag tag found =>
    "Unexpected character in <".toList ++ tag ++ ">: '".toList ++ [found] ++ ['\'']
  | unterminatedValue name =>
    "Unterminated value for attribute '".toList ++ name ++ ['\'']
  | missingValue name => "Expected value for attribute '".toList ++ name ++ ['\'']
  | unclosedElement tag => "Unclosed element <".toList ++ tag ++ ['>']
  | mismatchedClosing opened closed =>
    "Expected closing tag </".toList ++ opened ++ ">, got </".toList ++ closed ++ ['>']
  | remark message => message

end Fault

/-- A fault and where it is reported. -/
structure ParseError where
  fault : Fault
  line : Nat
  column : Nat
  deriving DecidableEq, Repr

namespace ParseError

def atPlace (place : Place) (fault : Fault) : ParseError := ⟨fault, place.line, place.column⟩

def message (error : ParseError) : Text := error.fault.message

def description (error : ParseError) : Text :=
  "Parse error at line ".toList ++ decimal error.line ++ ", column ".toList
    ++ decimal error.column ++ ": ".toList ++ error.message

end ParseError

end JsxTemplate
