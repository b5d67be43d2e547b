import JsxTemplate.Markup.Basic

/-
  The elements of an expression at every depth: bare ones and arguments of calls, children, and
  those in the holes of attributes and children. An element comes before those inside it, and
  otherwise they come in the order in which they are written.
-/

namespace JsxTemplate

mutual

def Node.elements : Node → List Element
  | .code _ => []
  | .markup element => element :: element.inside
  | .call _ element => element :: element.inside
  | .template _ => []
  | .tagged _ _ => []

/-- The elements inside an element. -/
def Element.inside : Element → List Element
  | ⟨_, attributes, children, _, _, _⟩ =>
    attributesElements attributes ++ childrenElements children

def Attribute.elements : Attribute → List Element
  | .literal _ _ => []
  | .hole _ nodes => nodesElements nodes
  | .bare _ => []

def Child.elements : Child → List Element
  | .element element => element :: element.inside
  | .text _ => []
  | .hole nodes => nodesElements nodes

def nodesElements : List Node → List Element
  | [] => []
  | node :: nodes => node.elements ++ nodesElements nodes

def attributesElements : List Attribute → List Element
  | [] => []
  | a :: attributes => a.elements ++ attributesElements attributes

def childrenElements : List Child → List Element
  | [] => []
  | child :: children => child.elements ++ childrenElements children

end

def Expression.elements (expression : Expression) : List Element := nodesElements expression

theorem nodesElements_append (nodes others : List Node) :
    nodesElements (nodes ++ others) = nodesElements nodes ++ nodesElements others := by
  induction nodes with
  | nil => rw [List.nil_append, nodesElements, List.nil_append]
  | cons node nodes ih =>
    rw [List.cons_append, nodesElements, nodesElements, ih, List.append_assoc]

end JsxTemplate
