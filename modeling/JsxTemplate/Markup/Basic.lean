import JsxTemplate.Source.Place
import JsxTemplate.Template.Basic

/-
  Programs with markup: runs of code, elements, and the templates that replace elements.
-/

namespace JsxTemplate

mutual

/-- A piece of a program. -/
inductive Node where
  /-- Code, kept as written. -/
  | code (text : Text)
  /-- An element where an expression may stand. -/
  | markup (element : Element)
  /-- A call with an element as its only argument: `render(<a/>)`. -/
  | call (callee : Text) (element : Element)
  /-- A compiled element. -/
  | template (template : Template)
  /-- A compiled call: a template with the callee as its tag. -/
  | tagged (tag : Text) (template : Template)

structure Element where
  tag : Text
  attributes : List Attribute
  children : List Child
  selfClosing : Bool
  /-- The name in the closing tag, if there is one. -/
  closing : Option Text
  span : Span

inductive Attribute where
  /-- A value as written, quotes included. -/
  | literal (name raw : Text)
  /-- A value in braces. -/
  | hole (name : Text) (nodes : List Node)
  /-- A name without a value. -/
  | bare (name : Text)

inductive Child where
  | element (element : Element)
  /-- Text between tags, blanks included. -/
  | text (text : Text)
  /-- Code in braces. -/
  | hole (nodes : List Node)

end

/-- A whole program, or what stands between the braces of a hole. -/
abbrev Expression := List Node

def Attribute.name : Attribute → Text
  | literal name _ => name
  | hole name _ => name
  | bare name => name

/-- Whether a node still holds an element to compile. -/
def Node.isMarkup : Node → Bool
  | markup _ => true
  | call _ _ => true
  | _ => false

/-- Whether there is an element to compile at this level. -/
def Expression.containsMarkup (expression : Expression) : Bool := expression.any Node.isMarkup

end JsxTemplate
