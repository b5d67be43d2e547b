import JsxTemplate.Markup.Basic

/-
  Markup whose elements stand elsewhere: every span is replaced by another one, and all else stays.
  `Element.moved` replaces each span by the one as far behind a given place as it was behind the
  start of its source.
-/

namespace JsxTemplate

mutual

def Node.respanned (f : Span → Span) : Node → Node
  | .code text => .code text
  | .markup element => .markup (element.respanned f)
  | .call callee element => .call callee (element.respanned f)
  | .template template => .template template
  | .tagged tag template => .tagged tag template

def Element.respanned (f : Span → Span) : Element → Element
  | ⟨tag, attributes, children, selfClosing, closing, span⟩ =>
    ⟨tag, attributesRespanned f attributes, childrenRespanned f children, selfClosing, closing,
      f span⟩

def Attribute.respanned (f : Span → Span) : Attribute → Attribute
  | .literal name raw => .literal name raw
  | .hole name nodes => .hole name (nodesRespanned f nodes)
  | .bare name => .bare name

def Child.respanned (f : Span → Span) : Child → Child
  | .element element => .element (element.respanned f)
  | .text text => .text text
  | .hole nodes => .hole (nodesRespanned f nodes)

def nodesRespanned (f : Span → Span) : List Node → List Node
  | [] => []
  | node :: nodes => node.respanned f :: nodesRespanned f nodes

def attributesRespanned (f : Span → Span) : List Attribute → List Attribute
  | [] => []
  | a :: attributes => a.respanned f :: attributesRespanned f attributes

def childrenRespanned (f : Span → Span) : List Child → List Child
  | [] => []
  | child :: children => child.respanned f :: childrenRespanned f children

end

/-! ## Lists -/

theorem nodesRespanned_eq_map (f : Span → Span) (nodes : List Node) :
    nodesRespanned f nodes = nodes.map (Node.respanned f) := by
  induction nodes with
  | nil => rw [nodesRespanned, List.map_nil]
  | cons node nodes ih => rw [nodesRespanned, ih, List.map_cons]

theorem attributesRespanned_eq_map (f : Span → Span) (attributes : List Attribute) :
    attributesRespanned f attributes = attributes.map (Attribute.respanned f) := by
  induction attributes with
  | nil => rw [attributesRespanned, List.map_nil]
  | cons a attributes ih => rw [attributesRespanned, ih, List.map_cons]

theorem childrenRespanned_eq_map (f : Span → Span) (children : List Child) :
    childrenRespanned f children = children.map (Child.respanned f) := by
  induction children with
  | nil => rw [childrenRespanned, List.map_nil]
  | cons child children ih => rw [childrenRespanned, ih, List.map_cons]

theorem nodesRespanned_reverse (f : Span → Span) (nodes : List Node) :
    nodesRespanned f nodes.reverse = (nodesRespanned f nodes).reverse := by
  rw [nodesRespanned_eq_map, nodesRespanned_eq_map, List.map_reverse]

theorem attributesRespanned_reverse (f : Span → Span) (attributes : List Attribute) :
    attributesRespanned f attributes.reverse = (attributesRespanned f attributes).reverse := by
  rw [attributesRespanned_eq_map, attributesRespanned_eq_map, List.map_reverse]

theorem childrenRespanned_reverse (f : Span → Span) (children : List Child) :
    childrenRespanned f children.reverse = (childrenRespanned f children).reverse := by
  rw [childrenRespanned_eq_map, childrenRespanned_eq_map, List.map_reverse]

/-! ## Spans that stay -/

mutual

theorem Node.respanned_id : ∀ node : Node, node.respanned id = node
  | .code text => rfl
  | .markup element => by rw [Node.respanned, element.respanned_id]
  | .call callee element => by rw [Node.respanned, element.respanned_id]
  | .template template => rfl
  | .tagged tag template => rfl

theorem Element.respanned_id : ∀ element : Element, element.respanned id = element
  | ⟨tag, attributes, children, selfClosing, closing, span⟩ => by
    rw [Element.respanned, attributesRespanned_id, childrenRespanned_id, id]

theorem Attribute.respanned_id : ∀ a : Attribute, a.respanned id = a
  | .literal name raw => rfl
  | .hole name nodes => by rw [Attribute.respanned, nodesRespanned_id]
  | .bare name => rfl

theorem Child.respanned_id : ∀ child : Child, child.respanned id = child
  | .element element => by rw [Child.respanned, element.respanned_id]
  | .text text => rfl
  | .hole nodes => by rw [Child.respanned, nodesRespanned_id]

theorem nodesRespanned_id : ∀ nodes : List Node, nodesRespanned id nodes = nodes
  | [] => rfl
  | node :: nodes => by rw [nodesRespanned, node.respanned_id, nodesRespanned_id]

theorem attributesRespanned_id : ∀ attributes : List Attribute,
    attributesRespanned id attributes = attributes
  | [] => rfl
  | a :: attributes => by rw [attributesRespanned, a.respanned_id, attributesRespanned_id]

theorem childrenRespanned_id : ∀ children : List Child, childrenRespanned id children = children
  | [] => rfl
  | child :: children => by rw [childrenRespanned, child.respanned_id, childrenRespanned_id]

end

/-! ## Spans that move -/

/-- The place as far behind `base` as `place` is behind the start of a text. Only on its first line
do the columns of the two differ. -/
def Place.beyond (base place : Place) : Place :=
  ⟨base.offset + place.offset, base.line + (place.line - 1),
    if place.line ≤ 1 then base.column + (place.column - 1) else place.column⟩

theorem Place.beyond_origin (base : Place) : base.beyond .origin = base := rfl

theorem Place.beyond_step {base place : Place} (hline : 1 ≤ place.line)
    (hcolumn : 1 ≤ place.column) (c : Char) :
    base.beyond (place.step c) = (base.beyond place).step c := by
  obtain ⟨offset, line, column⟩ := place
  dsimp only at hline hcolumn
  unfold beyond step
  split
  · rw [if_neg (by dsimp only; omega)]
    simp only [Place.mk.injEq, and_true]
    omega
  · simp only [Place.mk.injEq]
    refine ⟨by omega, trivial, ?_⟩
    split <;> omega

/-- Where a span begins. -/
def Span.begin (span : Span) : Place := ⟨span.start, span.line, span.column⟩

/-- The span as far behind `base` as `span` is behind the start of a text. -/
def Span.moved (base : Place) (span : Span) : Span :=
  ⟨(base.beyond span.begin).offset, base.offset + span.stop, (base.beyond span.begin).line,
    (base.beyond span.begin).column⟩

/-- The element of a text that begins at `base`. -/
def Element.moved (base : Place) (element : Element) : Element :=
  element.respanned (Span.moved base)

end JsxTemplate
