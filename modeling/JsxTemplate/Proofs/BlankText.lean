import JsxTemplate.Proofs.Compilation

/-
  Dropping blank text. With blanks not kept, a blank text still adds an empty literal to a buffer.
  Empty literals leave no trace in a template (`ofFragments_visible`), so compiling without blanks is
  the same as first deleting every blank text, at every depth, and then compiling with all text kept
  (`transform_stripped`).
-/

namespace JsxTemplate

open Fragment

/-! ## Deleting blank text -/

mutual

def Node.stripped : Node → Node
  | .code text => .code text
  | .markup element => .markup element.stripped
  | .call callee element => .call callee element.stripped
  | .template template => .template template
  | .tagged tag template => .tagged tag template

def Element.stripped : Element → Element
  | ⟨tag, attributes, children, selfClosing, closing, span⟩ =>
    ⟨tag, attributesStripped attributes, childrenStripped children, selfClosing, closing, span⟩

def Attribute.stripped : Attribute → Attribute
  | .literal name raw => .literal name raw
  | .hole name nodes => .hole name (nodesStripped nodes)
  | .bare name => .bare name

def nodesStripped : List Node → List Node
  | [] => []
  | node :: nodes => node.stripped :: nodesStripped nodes

def attributesStripped : List Attribute → List Attribute
  | [] => []
  | a :: attributes => a.stripped :: attributesStripped attributes

/-- Only here something is deleted. -/
def childrenStripped : List Child → List Child
  | [] => []
  | .element element :: children => .element element.stripped :: childrenStripped children
  | .text text :: children =>
    if text.isBlank then childrenStripped children else .text text :: childrenStripped children
  | .hole nodes :: children => .hole (nodesStripped nodes) :: childrenStripped children

end

/-- The expression without the texts between tags that hold only blanks. -/
def Expression.stripped (expression : Expression) : Expression := nodesStripped expression

/-! ## Empty literals -/

namespace Fragment

/-- The fragments that add something to a template. A slot does, even if its code is empty. -/
def visible (fragments : List Fragment) : List Fragment := fragments.filter (· ≠ .literal [])

theorem visible_append (fragments others : List Fragment) :
    visible (fragments ++ others) = visible fragments ++ visible others :=
  List.filter_append fragments others

theorem visible_empty (fragments : List Fragment) :
    visible (.literal [] :: fragments) = visible fragments :=
  List.filter_cons_of_neg (by simp)

theorem visible_cons {fragment : Fragment} (h : fragment ≠ .literal [])
    (fragments : List Fragment) : visible (fragment :: fragments) = fragment :: visible fragments :=
  List.filter_cons_of_pos (by simpa using h)

theorem slots_visible (fragments : List Fragment) :
    slots (visible fragments) = slots fragments := by
  have hcode : (fun fragment => if decide (fragment ≠ .literal []) then code? fragment else none) =
      code? := by
    funext fragment
    split
    next => rfl
    next hempty =>
      have hempty : fragment = .literal [] := by simpa using hempty
      rw [hempty]
      rfl
  rw [slots, visible, List.filterMap_filter, hcode, slots]

theorem gaps_visible (fragments : List Fragment) :
    gaps (visible fragments) = gaps fragments := by
  induction fragments with
  | nil => rfl
  | cons fragment fragments ih =>
    by_cases hempty : fragment = .literal []
    · rw [hempty, visible_empty, gaps_literal, ih]
      -- Nothing is put before the first gap.
      cases gaps fragments with
      | nil => rfl
      | cons first rest => rfl
    · rw [visible_cons hempty]
      exact gaps_append_congr [fragment] ih

end Fragment

/-- Empty literals leave no trace. -/
theorem Template.ofFragments_visible (fragments : List Fragment) :
    Template.ofFragments (visible fragments) = Template.ofFragments fragments := by
  rw [Template.ofFragments, Template.ofFragments, gaps_visible, slots_visible]

theorem Template.ofFragments_congr {fragments others : List Fragment}
    (h : visible fragments = visible others) :
    Template.ofFragments fragments = Template.ofFragments others := by
  rw [← ofFragments_visible fragments, h, ofFragments_visible]

/-! ## Compiling with blanks kept -/

/-- The same options, with blank text kept. -/
def Options.keepingBlanks (options : Options) : Options := { options with preserveWhitespace := true }

theorem Options.trim_keepingBlanks (options : Options) (text : Text) :
    options.keepingBlanks.trim text = text := rfl

theorem Options.trim_eq {options : Options} (h : options.preserveWhitespace = false) (text : Text) :
    options.trim text = if text.isBlank then [] else text := by
  rw [trim, h]
  cases text.isBlank <;> rfl

-- The fragments of an element differ in its children only, and there by empty literals. What a hole
-- holds does not differ at all, since it is made of whole templates.
mutual

theorem Element.visible_stripped {options : Options} (h : options.preserveWhitespace = false) :
    ∀ element : Element, visible (element.stripped.fragments options.keepingBlanks) =
      visible (element.fragments options)
  | ⟨tag, attributes, children, selfClosing, closing, span⟩ => by
    rw [Element.stripped, Element.fragments, Element.fragments,
      attributesFragments_stripped h attributes, visible_append,
      visible_append _ (closingFragments _), visible_append, visible_append]
    cases selfClosing with
    | true => rfl
    | false =>
      have hne : Fragment.literal ['>'] ≠ .literal [] := by simp
      rw [if_neg (by simp), if_neg (by simp), visible_cons hne, visible_cons hne,
        visible_childrenStripped h children]

theorem attributesFragments_stripped {options : Options}
    (h : options.preserveWhitespace = false) : ∀ attributes : List Attribute,
    attributesFragments options.keepingBlanks (attributesStripped attributes) =
      attributesFragments options attributes
  | [] => by rw [attributesStripped, attributesFragments, attributesFragments]
  | a :: attributes => by
    rw [attributesStripped, attributesFragments, attributesFragments, a.fragments_stripped h,
      attributesFragments_stripped h attributes]

theorem Attribute.fragments_stripped {options : Options}
    (h : options.preserveWhitespace = false) : ∀ a : Attribute,
    a.stripped.fragments options.keepingBlanks = a.fragments options
  | .literal name raw => by
    rw [Attribute.stripped, Attribute.fragments, Attribute.fragments]
    rfl
  | .hole name nodes => by
    rw [Attribute.stripped, Attribute.fragments, Attribute.fragments, ← nodesSource_compiled,
      map_compiled_stripped h nodes, nodesSource_compiled]
    rfl
  | .bare name => by
    rw [Attribute.stripped, Attribute.fragments, Attribute.fragments]
    rfl

theorem visible_childrenStripped {options : Options} (h : options.preserveWhitespace = false) :
    ∀ children : List Child,
    visible (childrenFragments options.keepingBlanks (childrenStripped children)) =
      visible (childrenFragments options children)
  | [] => by rw [childrenStripped, childrenFragments, childrenFragments]
  | .element element :: children => by
    rw [childrenStripped, childrenFragments, childrenFragments, visible_append, visible_append,
      Child.fragments, Child.fragments, element.visible_stripped h,
      visible_childrenStripped h children]
  | .text text :: children => by
    have hrest := visible_childrenStripped h children
    rw [childrenStripped, childrenFragments, Child.fragments, Options.trim_eq h]
    by_cases hblank : text.isBlank
    · rw [if_pos hblank, if_pos hblank, List.singleton_append, visible_empty, hrest]
    · rw [if_neg hblank, if_neg hblank, childrenFragments, Child.fragments,
        Options.trim_keepingBlanks, visible_append, visible_append, hrest]
  | .hole nodes :: children => by
    rw [childrenStripped, childrenFragments, childrenFragments, visible_append, visible_append,
      Child.fragments, Child.fragments, ← nodesSource_compiled, map_compiled_stripped h nodes,
      nodesSource_compiled, visible_childrenStripped h children]

theorem Node.compiled_stripped {options : Options} (h : options.preserveWhitespace = false) :
    ∀ node : Node, node.stripped.compiled options.keepingBlanks = node.compiled options
  | .code text => by rw [Node.stripped, Node.compiled, Node.compiled]
  | .markup element => by
    rw [Node.stripped, Node.compiled, Node.compiled,
      Template.ofFragments_congr (element.visible_stripped h)]
  | .call callee element => by
    rw [Node.stripped, Node.compiled, Node.compiled,
      Template.ofFragments_congr (element.visible_stripped h)]
  | .template template => by rw [Node.stripped, Node.compiled, Node.compiled]
  | .tagged tag template => by rw [Node.stripped, Node.compiled, Node.compiled]

theorem map_compiled_stripped {options : Options} (h : options.preserveWhitespace = false) :
    ∀ nodes : List Node, (nodesStripped nodes).map (Node.compiled options.keepingBlanks) =
      nodes.map (Node.compiled options)
  | [] => by rw [nodesStripped, List.map_nil, List.map_nil]
  | node :: nodes => by
    rw [nodesStripped, List.map_cons, List.map_cons, node.compiled_stripped h,
      map_compiled_stripped h nodes]

end

/-- A program compiled without blank text is the program from which blank text was deleted at every
depth, compiled with all text kept: the same nodes, down to segments and slots. -/
theorem transform_stripped {options : Options} (h : options.preserveWhitespace = false)
    (program : Expression) :
    ∃ compiled : Expression, transform options program = .ok compiled ∧
      transform { options with preserveWhitespace := true } program.stripped = .ok compiled := by
  refine ⟨program.map (Node.compiled options), compileNodes_eq options program, ?_⟩
  rw [← map_compiled_stripped h program]
  exact compileNodes_eq options.keepingBlanks (nodesStripped program)

/-- Blank text in an element and in an element in each of its holes; text with a blank in it
stays. -/
theorem transform_stripped_holes :
    let bold : Element := ⟨['b'], [],
      [.text [' '], .hole [.code ['x']], .text " y".toList, .text []], false, some ['b'], .nowhere⟩
    let program : Expression := [.call ['f'] ⟨['i'], [.hole "id".toList [.markup bold]],
      [.text ['\n'], .hole [.code "c ? ".toList, .markup bold], .text ['\t']], false, some ['i'],
      .nowhere⟩]
    Options.default.preserveWhitespace = false ∧
      (∃ compiled : Expression, transform .default program = .ok compiled ∧
        transform { Options.default with preserveWhitespace := true } program.stripped =
          .ok compiled) ∧
      program.stripped.toSource =
        "f(<i id={<b>{x} y</b>}>{c ? <b>{x} y</b>}</i>)".toList ∧
      (transform .default program).toOption.map Expression.toSource =
        some ("f`<i id=\"$\x7b`<b>$\x7bx\x7d y</b>`\x7d\">".toList ++
          "$\x7bc ? `<b>$\x7bx\x7d y</b>`\x7d</i>`".toList) := by
  intro bold program
  exact ⟨rfl, transform_stripped rfl program, by decide +kernel, by decide +kernel⟩

end JsxTemplate
