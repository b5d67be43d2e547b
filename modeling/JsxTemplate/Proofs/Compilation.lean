import Mathlib.Data.List.Forall2
import JsxTemplate.Proofs.Fragments
import JsxTemplate.Proofs.Output

/-
  What elements compile to, told without buffers. An element is a flat list of fragments, those of
  its tags, texts and children in order, where each hole is a slot with the compiled text of its
  nodes. The template of an element is the template of its fragments (`compileTemplate_fragments`).
  In particular compiling never fails, so that a source has an output if and only if it can be read
  (`transform_total`).
-/

namespace JsxTemplate

open Fragment

theorem ok_bind {ε α β : Type} (a : α) (f : α → Except ε β) : (Except.ok a >>= f) = f a := rfl

/-! ## The fragments of an element -/

/-- The closing tag, if there is one. -/
def closingFragments : Option Text → List Fragment
  | none => []
  | some tag => [.literal (['<', '/'] ++ tag ++ ['>'])]

mutual

/-- The children of a self-closing element are left out, its closing tag is not. -/
def Element.fragments (options : Options) : Element → List Fragment
  | ⟨tag, attributes, children, selfClosing, closing, _⟩ =>
    .literal ('<' :: tag) :: attributesFragments options attributes ++
      (if selfClosing then [.literal ['/', '>']]
        else .literal ['>'] :: childrenFragments options children) ++
      closingFragments closing

def Attribute.fragments (options : Options) : Attribute → List Fragment
  | .literal name raw => [.literal ([' '] ++ options.resolve name ++ ['='] ++ raw)]
  | .hole name nodes =>
    [.literal ([' '] ++ options.resolve name ++ ['=', '"']), .slot (nodesOutput options nodes),
      .literal ['"']]
  | .bare name => [.literal ([' '] ++ options.resolve name)]

def attributesFragments (options : Options) : List Attribute → List Fragment
  | [] => []
  | a :: attributes => a.fragments options ++ attributesFragments options attributes

def Child.fragments (options : Options) : Child → List Fragment
  | .element element => element.fragments options
  | .text text => [.literal (options.trim text)]
  | .hole nodes => [.slot (nodesOutput options nodes)]

def childrenFragments (options : Options) : List Child → List Fragment
  | [] => []
  | child :: children => child.fragments options ++ childrenFragments options children

/-- The text of a node with its element, if it has one, as a template. -/
def Node.output (options : Options) : Node → Text
  | .code text => text
  | .markup element => (Template.ofFragments (element.fragments options)).toSource
  | .call callee element =>
    callee ++ (Template.ofFragments (element.fragments options)).toSource
  | .template template => template.toSource
  | .tagged tag template => tag ++ template.toSource

def nodesOutput (options : Options) : List Node → Text
  | [] => []
  | node :: nodes => node.output options ++ nodesOutput options nodes

end

/-- A node with its element, if it has one, as a template. -/
def Node.compiled (options : Options) : Node → Node
  | .markup element => .template (.ofFragments (element.fragments options))
  | .call callee element => .tagged callee (.ofFragments (element.fragments options))
  | .code text => .code text
  | .template found => .template found
  | .tagged tag found => .tagged tag found

theorem nodesSource_compiled (options : Options) (nodes : List Node) :
    nodesSource (nodes.map (Node.compiled options)) = nodesOutput options nodes := by
  induction nodes with
  | nil => rw [List.map_nil, nodesSource, nodesOutput]
  | cons node nodes ih =>
    have hnode : (node.compiled options).toSource = node.output options := by
      cases node <;> rw [Node.compiled, Node.toSource, Node.output]
    rw [List.map_cons, nodesSource, nodesOutput, hnode, ih]

/-! ## Compiling is listing fragments -/

theorem closingBuffer_eq (closing : Option Text) :
    closingBuffer closing = .ofFragments (closingFragments closing) := by
  cases closing with
  | none => rfl
  | some tag =>
    rw [closingBuffer, ← Buffer.ofFragments_nil, Buffer.addLiteral_ofFragments]
    rfl

mutual

theorem compileElement_eq (options : Options) : ∀ element : Element,
    compileElement options element = .ok (.ofFragments (element.fragments options))
  | ⟨tag, attributes, children, selfClosing, closing, span⟩ => by
    rw [compileElement, ← Buffer.ofFragments_nil, Buffer.addLiteral_ofFragments,
      compileAttributes_eq options attributes, ok_bind, closingBuffer_eq, Element.fragments]
    cases selfClosing with
    | true =>
      rw [if_pos rfl, if_pos rfl, Buffer.addLiteral_ofFragments, Buffer.concat_ofFragments]
      rfl
    | false =>
      rw [if_neg (by simp), if_neg (by simp), compileChildren_eq options children, ok_bind,
        Buffer.addLiteral_ofFragments, Buffer.concat_ofFragments, ok_bind,
        Buffer.concat_ofFragments]
      simp

theorem compileAttributes_eq (options : Options) : ∀ (attributes : List Attribute)
    (added : List Fragment), compileAttributes options (.ofFragments added) attributes =
      .ok (.ofFragments (added ++ attributesFragments options attributes))
  | [], added => by rw [compileAttributes, attributesFragments, List.append_nil]
  | a :: attributes, added => by
    rw [compileAttributes, compileAttribute_eq options a, ok_bind,
      compileAttributes_eq options attributes, attributesFragments, List.append_assoc]

theorem compileAttribute_eq (options : Options) : ∀ (a : Attribute) (added : List Fragment),
    compileAttribute options (.ofFragments added) a =
      .ok (.ofFragments (added ++ a.fragments options))
  | .literal name raw, added => by
    rw [compileAttribute, Buffer.addLiteral_ofFragments, Attribute.fragments]
  | .hole name nodes, added => by
    rw [compileAttribute, unlessPlain_compileNodes, compileNodes_eq options nodes, ok_bind,
      nodesSource_compiled, Buffer.addLiteral_ofFragments, Buffer.addExpression_ofFragments,
      Buffer.addLiteral_ofFragments, Attribute.fragments, List.append_assoc, List.append_assoc]
    rfl
  | .bare name, added => by
    rw [compileAttribute, Buffer.addLiteral_ofFragments, Attribute.fragments]

theorem compileChildren_eq (options : Options) : ∀ (children : List Child) (added : List Fragment),
    compileChildren options (.ofFragments added) children =
      .ok (.ofFragments (added ++ childrenFragments options children))
  | [], added => by rw [compileChildren, childrenFragments, List.append_nil]
  | child :: children, added => by
    rw [compileChildren, compileChild_eq options child, ok_bind,
      compileChildren_eq options children, childrenFragments, List.append_assoc]

theorem compileChild_eq (options : Options) : ∀ (child : Child) (added : List Fragment),
    compileChild options (.ofFragments added) child =
      .ok (.ofFragments (added ++ child.fragments options))
  | .element element, added => by
    rw [compileChild, compileElement_eq options element, ok_bind, Buffer.concat_ofFragments,
      Child.fragments]
  | .text text, added => by
    rw [compileChild, Buffer.addLiteral_ofFragments, Child.fragments]
  | .hole nodes, added => by
    rw [compileChild, unlessPlain_compileNodes, compileNodes_eq options nodes, ok_bind,
      nodesSource_compiled, Buffer.addExpression_ofFragments, Child.fragments]

theorem compileNode_eq (options : Options) : ∀ node : Node,
    compileNode options node = .ok (node.compiled options)
  | .markup element => by
    rw [compileNode, compileElement_eq options element, ok_bind, Buffer.materialize_ofFragments]
    rfl
  | .call callee element => by
    rw [compileNode, compileElement_eq options element, ok_bind, Buffer.materialize_ofFragments]
    rfl
  | .code text => by rw [compileNode]; rfl
  | .template template => by rw [compileNode]; rfl
  | .tagged tag template => by rw [compileNode]; rfl

theorem compileNodes_eq (options : Options) : ∀ nodes : List Node,
    compileNodes options nodes = .ok (nodes.map (Node.compiled options))
  | [] => by rw [compileNodes]; rfl
  | node :: nodes => by
    rw [compileNodes, compileNode_eq options node, ok_bind, compileNodes_eq options nodes]
    rfl

end

/-- Any element compiles. The slots of its template are the slots of its fragments in order, and the
segments are the texts between them, each escaped as a whole; the last segment is the tail. -/
theorem compileTemplate_fragments (options : Options) (element : Element) :
    ∃ template, compileTemplate options element = .ok template ∧
      template.expressions = slots (element.fragments options) ∧
      template.segments.length = template.expressions.length + 1 ∧
      ∀ i segment, template.segments[i]? = some segment →
        (gaps (element.fragments options))[i]? = some segment.cooked ∧
        segment.raw = escape segment.cooked ∧
        (segment.tail = true ↔ i = template.expressions.length) := by
  refine ⟨.ofFragments (element.fragments options), ?_, rfl, ?_, ?_⟩
  · rw [compileTemplate, compileElement_eq, ok_bind, Buffer.materialize_ofFragments]
  · rw [Template.ofFragments, List.length_mapIdx, length_gaps]
  · intro i segment hsegment
    rw [Template.ofFragments, List.getElem?_mapIdx] at hsegment
    obtain ⟨text, htext, rfl⟩ := Option.map_eq_some_iff.1 hsegment
    exact ⟨htext, rfl, beq_iff_eq⟩

/-! ## Whole programs -/

/-- What a node may become: an element a template, a call a template with the callee as its tag, and
every other node itself. -/
def Node.Becomes : Node → Node → Prop
  | .markup _, found => ∃ template, found = .template template
  | .call callee _, found => ∃ template, found = .tagged callee template
  | node, found => found = node

theorem Node.becomes_compiled (options : Options) (node : Node) :
    node.Becomes (node.compiled options) := by
  cases node with
  | markup element => exact ⟨_, rfl⟩
  | call callee element => exact ⟨_, rfl⟩
  | code text => rfl
  | template template => rfl
  | tagged tag template => rfl

/-- Nothing is left to compile. -/
theorem compiled_plain (options : Options) (nodes : List Node) :
    (nodes.map (Node.compiled options)).any Node.isMarkup = false := by
  rw [List.any_map, List.any_eq_false]
  intro node _
  cases node <;> simp [Node.compiled, Node.isMarkup]

/-- A source without an output is one that cannot be read. -/
theorem transformSource_eq_error_iff {overrides : Overrides} {source : Text}
    {error : TransformError} :
    transformSource overrides source = .error error ↔
      ∃ fault, parse source = .error fault ∧ error = .parse fault := by
  cases hparse : parse source with
  | error fault =>
    have hsource : transformSource overrides source = .error (.parse fault) := by
      rw [transformSource, hparse]
      rfl
    rw [hsource]
    constructor
    · intro h
      exact ⟨fault, rfl, (Except.error.inj h).symm⟩
    · rintro ⟨other, hother, rfl⟩
      rw [Except.error.inj hother]
  | ok program =>
    have hsource : transformSource overrides source = .ok _ :=
      transformSource_eq_ok_iff.2 ⟨program, _, hparse, compileNodes_eq _ program, rfl⟩
    rw [hsource]
    simp

/-- Every program compiles, as a whole and as the content of a hole, to the same nodes; each node
becomes what its kind says, and compiled again, whatever the options, they stay as they are. Hence
a source has an output unless it has a fault, and then the fault is the error. -/
theorem transform_total :
    (∀ (options : Options) (program : Expression), ∃ compiled : Expression,
      transform options program = .ok compiled ∧
      compileExpression options program = .ok compiled ∧
      compiled.length = program.length ∧
      List.Forall₂ Node.Becomes program compiled ∧
      ∀ others : Options, transform others compiled = .ok compiled) ∧
    ∀ (overrides : Overrides) (source : Text) (error : TransformError),
      transformSource overrides source = .error error ↔
        ∃ fault, parse source = .error fault ∧ error = .parse fault := by
  refine ⟨fun options program => ⟨program.map (Node.compiled options), ?_, ?_, ?_, ?_, ?_⟩,
    fun overrides source error => transformSource_eq_error_iff⟩
  · exact compileNodes_eq options program
  · rw [compileExpression, unlessPlain_compileNodes, compileNodes_eq]
  · exact List.length_map _
  · rw [List.forall₂_map_right_iff]
    exact List.forall₂_same.2 fun node _ => node.becomes_compiled options
  · intro others
    exact compileNodes_plain others (compiled_plain options program)

end JsxTemplate
