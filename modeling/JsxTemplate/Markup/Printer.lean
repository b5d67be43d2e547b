import JsxTemplate.Markup.Basic

/-
  Printing: code as it is, elements as markup with one blank before each attribute and none
  elsewhere in a tag, templates as template literals.
-/

namespace JsxTemplate

/-- `</tag>`, or nothing for an element without a closing tag. -/
def closingSource : Option Text → Text
  | none => []
  | some tag => ['<', '/'] ++ tag ++ ['>']

mutual

def Node.toSource : Node → Text
  | .code text => text
  | .markup element => element.toSource
  | .call callee element => callee ++ ['('] ++ element.toSource ++ [')']
  | .template template => template.toSource
  | .tagged tag template => tag ++ template.toSource

/-- A self-closing element shows neither children nor a closing tag. -/
def Element.toSource : Element → Text
  | ⟨tag, attributes, children, selfClosing, closing, _⟩ =>
    ['<'] ++ tag ++ attributesSource attributes ++
      (if selfClosing then ['/', '>']
        else ['>'] ++ childrenSource children ++ closingSource closing)

def Attribute.toSource : Attribute → Text
  | .literal name raw => [' '] ++ name ++ ['='] ++ raw
  | .hole name nodes => [' '] ++ name ++ ['=', '{'] ++ nodesSource nodes ++ ['}']
  | .bare name => [' '] ++ name

def Child.toSource : Child → Text
  | .element element => element.toSource
  | .text text => text
  | .hole nodes => ['{'] ++ nodesSource nodes ++ ['}']

def nodesSource : List Node → Text
  | [] => []
  | node :: nodes => node.toSource ++ nodesSource nodes

def attributesSource : List Attribute → Text
  | [] => []
  | a :: attributes => a.toSource ++ attributesSource attributes

def childrenSource : List Child → Text
  | [] => []
  | child :: children => child.toSource ++ childrenSource children

end

def Expression.toSource (expression : Expression) : Text := nodesSource expression

end JsxTemplate
