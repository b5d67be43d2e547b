import JsxTemplate.Markup.Printer

/-
  Expressions without the places of their elements, to compare what two sources read as.
-/

namespace JsxTemplate

mutual

def Node.unplaced : Node → Node
  | .code text => .code text
  | .markup element => .markup element.unplaced
  | .call callee element => .call callee element.unplaced
  | .template template => .template template
  | .tagged tag template => .tagged tag template

def Element.unplaced : Element → Element
  | ⟨tag, attributes, children, selfClosing, closing, _⟩ =>
    ⟨tag, attributesUnplaced attributes, childrenUnplaced children, selfClosing, closing, .nowhere⟩

def Attribute.unplaced : Attribute → Attribute
  | .literal name raw => .literal name raw
  | .hole name nodes => .hole name (nodesUnplaced nodes)
  | .bare name => .bare name

def Child.unplaced : Child → Child
  | .element element => .element element.unplaced
  | .text text => .text text
  | .hole nodes => .hole (nodesUnplaced nodes)

def nodesUnplaced : List Node → List Node
  | [] => []
  | node :: nodes => node.unplaced :: nodesUnplaced nodes

def attributesUnplaced : List Attribute → List Attribute
  | [] => []
  | a :: attributes => a.unplaced :: attributesUnplaced attributes

def childrenUnplaced : List Child → List Child
  | [] => []
  | child :: children => child.unplaced :: childrenUnplaced children

end

/-- The expression, with every element nowhere. -/
def Expression.unplaced (expression : Expression) : Expression := nodesUnplaced expression

mutual

theorem Node.toSource_unplaced : ∀ node : Node, node.unplaced.toSource = node.toSource
  | .code text => rfl
  | .markup element => by
    rw [Node.unplaced, Node.toSource, Node.toSource, element.toSource_unplaced]
  | .call callee element => by
    rw [Node.unplaced, Node.toSource, Node.toSource, element.toSource_unplaced]
  | .template template => rfl
  | .tagged tag template => rfl

theorem Element.toSource_unplaced : ∀ element : Element,
    element.unplaced.toSource = element.toSource
  | ⟨tag, attributes, children, selfClosing, closing, span⟩ => by
    rw [Element.unplaced, Element.toSource, Element.toSource, attributesSource_unplaced,
      childrenSource_unplaced]

theorem Attribute.toSource_unplaced : ∀ a : Attribute, a.unplaced.toSource = a.toSource
  | .literal name raw => rfl
  | .hole name nodes => by
    rw [Attribute.unplaced, Attribute.toSource, Attribute.toSource, nodesSource_unplaced]
  | .bare name => rfl

theorem Child.toSource_unplaced : ∀ child : Child, child.unplaced.toSource = child.toSource
  | .element element => by
    rw [Child.unplaced, Child.toSource, Child.toSource, element.toSource_unplaced]
  | .text text => rfl
  | .hole nodes => by
    rw [Child.unplaced, Child.toSource, Child.toSource, nodesSource_unplaced]

theorem nodesSource_unplaced : ∀ nodes : List Node,
    nodesSource (nodesUnplaced nodes) = nodesSource nodes
  | [] => rfl
  | node :: nodes => by
    rw [nodesUnplaced, nodesSource, nodesSource, node.toSource_unplaced, nodesSource_unplaced]

theorem attributesSource_unplaced : ∀ attributes : List Attribute,
    attributesSource (attributesUnplaced attributes) = attributesSource attributes
  | [] => rfl
  | a :: attributes => by
    rw [attributesUnplaced, attributesSource, attributesSource, a.toSource_unplaced,
      attributesSource_unplaced]

theorem childrenSource_unplaced : ∀ children : List Child,
    childrenSource (childrenUnplaced children) = childrenSource children
  | [] => rfl
  | child :: children => by
    rw [childrenUnplaced, childrenSource, childrenSource, child.toSource_unplaced,
      childrenSource_unplaced]

end

end JsxTemplate
