import JsxTemplate.Proofs.Compilation

/-
  Static markup: elements whose tags hold no code, whose names are kept and whose holes hold no
  markup. Printing and compiling walk over such an element on their own, and both list the same
  fragments in order; only the slots look different. Main statement: the template of a static
  element, with its slots in braces, is the element as it is printed (`compileTemplate_static`).
-/

namespace JsxTemplate

open Fragment

/-! ## Static elements -/

/-- An attribute without code in it whose name stays as it is. -/
def Attribute.isStatic (options : Options) : Attribute → Bool
  | .literal name _ => options.resolve name == name
  | .hole _ _ => false
  | .bare name => options.resolve name == name

mutual

/-- An element whose tags can be written as they are. A closing tag of an element that closes
itself could not: it is compiled, but not printed. -/
def Element.isStatic (options : Options) : Element → Bool
  | ⟨_, attributes, children, selfClosing, closing, _⟩ =>
    (!selfClosing || closing.isNone) && attributes.all (Attribute.isStatic options) &&
      childrenStatic options children

/-- Elements among the children are static too, and no hole holds markup. -/
def childrenStatic (options : Options) : List Child → Bool
  | [] => true
  | .element element :: children => element.isStatic options && childrenStatic options children
  | .text _ :: children => childrenStatic options children
  | .hole nodes :: children =>
    !Expression.containsMarkup nodes && childrenStatic options children

end

/-! ## Holes in braces -/

/-- A fragment as it stands in markup. -/
def Fragment.shown : Fragment → Text
  | literal text => text
  | slot code => ['{'] ++ code ++ ['}']

/-- Texts, and code in braces between them. -/
def braced : List Text → List Text → Text
  | [], _ => []
  | text :: texts, [] => text ++ braced texts []
  | text :: texts, code :: codes => text ++ ['{'] ++ code ++ ['}'] ++ braced texts codes

/-- What the segments evaluate to, with the slots in braces between them. -/
def Template.shown (template : Template) : Text :=
  braced (template.segments.map Segment.cooked) template.expressions

theorem braced_modifyHead (own : Text) {texts : List Text} (h : texts ≠ []) (codes : List Text) :
    braced (texts.modifyHead (own ++ ·)) codes = own ++ braced texts codes := by
  cases texts with
  | nil => exact absurd rfl h
  | cons text texts =>
    rw [List.modifyHead_cons]
    cases codes with
    | nil => rw [braced, braced, List.append_assoc]
    | cons code codes => simp only [braced, List.append_assoc]

/-- Between slots it does not matter where one literal ends and the next begins. -/
theorem braced_gaps (fragments : List Fragment) :
    braced (gaps fragments) (slots fragments) = fragments.flatMap Fragment.shown := by
  induction fragments with
  | nil => rfl
  | cons fragment fragments ih =>
    rw [List.flatMap_cons, ← ih]
    cases fragment with
    | literal text =>
      rw [gaps_literal]
      exact braced_modifyHead text (gaps_ne_nil fragments) _
    | slot code =>
      rw [gaps_slot]
      rfl

theorem Template.cooked_ofFragments (fragments : List Fragment) :
    (Template.ofFragments fragments).segments.map Segment.cooked = gaps fragments := by
  refine List.ext_getElem? fun i => ?_
  rw [Template.ofFragments, List.getElem?_map, List.getElem?_mapIdx, Option.map_map]
  exact Option.map_id_apply

theorem Template.shown_ofFragments (fragments : List Fragment) :
    (Template.ofFragments fragments).shown = fragments.flatMap Fragment.shown := by
  rw [Template.shown, cooked_ofFragments]
  exact braced_gaps fragments

/-! ## The fragments of a static element -/

/-- The nodes of a hole without markup compile to themselves. -/
theorem nodesOutput_of_plain (options : Options) {nodes : List Node}
    (h : Expression.containsMarkup nodes = false) :
    nodesOutput options nodes = nodesSource nodes := by
  have hnodes : nodes.map (Node.compiled options) = nodes :=
    Except.ok.inj ((compileNodes_eq options nodes).symm.trans (compileNodes_plain options h))
  rw [← nodesSource_compiled, hnodes]

theorem closingFragments_shown (closing : Option Text) :
    (closingFragments closing).flatMap Fragment.shown = closingSource closing := by
  cases closing with
  | none => rfl
  | some tag => exact List.append_nil _

theorem Attribute.fragments_shown {options : Options} {a : Attribute}
    (h : a.isStatic options = true) :
    (a.fragments options).flatMap Fragment.shown = a.toSource := by
  cases a with
  | literal name raw =>
    have hname : options.resolve name = name := beq_iff_eq.1 h
    rw [Attribute.fragments, Attribute.toSource, hname]
    exact List.append_nil _
  | hole name nodes => cases h
  | bare name =>
    have hname : options.resolve name = name := beq_iff_eq.1 h
    rw [Attribute.fragments, Attribute.toSource, hname]
    exact List.append_nil _

theorem attributesFragments_shown {options : Options} {attributes : List Attribute}
    (h : attributes.all (Attribute.isStatic options) = true) :
    (attributesFragments options attributes).flatMap Fragment.shown =
      attributesSource attributes := by
  induction attributes with
  | nil => rw [attributesFragments, attributesSource, List.flatMap_nil]
  | cons a attributes ih =>
    rw [List.all_cons, Bool.and_eq_true] at h
    rw [attributesFragments, attributesSource, List.flatMap_append, a.fragments_shown h.1, ih h.2]

mutual

theorem Element.fragments_shown {options : Options} (hkeep : options.preserveWhitespace = true) :
    ∀ {element : Element}, element.isStatic options = true →
      (element.fragments options).flatMap Fragment.shown = element.toSource
  | ⟨tag, attributes, children, selfClosing, closing, span⟩, h => by
    rw [Element.isStatic, Bool.and_eq_true, Bool.and_eq_true] at h
    obtain ⟨⟨hclosing, hattributes⟩, hchildren⟩ := h
    rw [Element.fragments, Element.toSource, List.flatMap_append, List.flatMap_append,
      List.flatMap_cons, attributesFragments_shown hattributes, closingFragments_shown]
    cases selfClosing with
    | true =>
      obtain rfl : closing = none := Option.isNone_iff_eq_none.1 hclosing
      simp [Fragment.shown, closingSource]
    | false =>
      simp [Fragment.shown, childrenFragments_shown hkeep hchildren]

theorem childrenFragments_shown {options : Options} (hkeep : options.preserveWhitespace = true) :
    ∀ {children : List Child}, childrenStatic options children = true →
      (childrenFragments options children).flatMap Fragment.shown = childrenSource children
  | [], _ => by rw [childrenFragments, childrenSource, List.flatMap_nil]
  | .element element :: children, h => by
    rw [childrenStatic, Bool.and_eq_true] at h
    rw [childrenFragments, childrenSource, Child.fragments, Child.toSource, List.flatMap_append,
      Element.fragments_shown hkeep h.1, childrenFragments_shown hkeep h.2]
  | .text text :: children, h => by
    rw [childrenStatic] at h
    have htrim : options.trim text = text := by rw [Options.trim, hkeep]; rfl
    rw [childrenFragments, childrenSource, Child.fragments, Child.toSource, List.flatMap_append,
      htrim, childrenFragments_shown hkeep h, List.flatMap_singleton]
    rfl
  | .hole nodes :: children, h => by
    rw [childrenStatic, Bool.and_eq_true, Bool.not_eq_true'] at h
    rw [childrenFragments, childrenSource, Child.fragments, Child.toSource, List.flatMap_append,
      nodesOutput_of_plain options h.1, childrenFragments_shown hkeep h.2,
      List.flatMap_singleton]
    rfl

end

/-- A static element compiles, with blanks kept, to a template that is the element again: its
segments, as they evaluate, with the slots in braces between them are the element as it is printed.
Without slots there is one segment, and it evaluates to the printed element. -/
theorem compileTemplate_static {options : Options} {element : Element}
    (hkeep : options.preserveWhitespace = true) (hstatic : element.isStatic options = true) :
    ∃ template, compileTemplate options element = .ok template ∧
      template.segments.length = template.expressions.length + 1 ∧
      element.toSource = template.shown ∧
      (template.expressions = [] → template.segments.map Segment.cooked = [element.toSource]) := by
  have hshown : (Template.ofFragments (element.fragments options)).shown = element.toSource :=
    (Template.shown_ofFragments _).trans (Element.fragments_shown hkeep hstatic)
  have hlength : (Template.ofFragments (element.fragments options)).segments.length =
      (slots (element.fragments options)).length + 1 := by
    rw [Template.ofFragments, List.length_mapIdx, length_gaps]
  refine ⟨.ofFragments (element.fragments options), ?_, hlength, hshown.symm, fun hnone => ?_⟩
  · rw [compileTemplate, compileElement_eq, ok_bind, Buffer.materialize_ofFragments]
  · have hnone : slots (element.fragments options) = [] := hnone
    rw [hnone] at hlength
    obtain ⟨segment, hsegment⟩ := List.length_eq_one_iff.1 hlength
    rw [← hshown, Template.shown, hsegment]
    show [segment.cooked] = [braced [segment.cooked] (slots (element.fragments options))]
    rw [hnone, braced, braced, List.append_nil]

/-- Blank text, a child that closes itself, one without a closing tag, and a hole between
backticks. -/
theorem compileTemplate_static_list :
    let options : Options := ⟨true, [("label".toList, "title".toList)], none⟩
    let list : Element := ⟨"ul".toList, [.literal "id".toList "'x'".toList, .bare "hidden".toList],
      [.text ['\n'], .element ⟨"br".toList, [], [], true, none, .nowhere⟩, .text ['\x60'],
        .hole [.code "f(".toList, .code "1)".toList], .text ['\x60'],
        .element ⟨"li".toList, [], [.hole []], false, none, .nowhere⟩],
      false, some "ul".toList, .nowhere⟩
    options.preserveWhitespace = true ∧ list.isStatic options = true ∧
      (∃ template, compileTemplate options list = .ok template ∧
        template.segments.length = template.expressions.length + 1 ∧
        list.toSource = template.shown ∧
        (template.expressions = [] → template.segments.map Segment.cooked = [list.toSource])) ∧
      list.toSource = "<ul id='x' hidden>\n<br/>`\x7bf(1)\x7d`<li>\x7b\x7d</ul>".toList ∧
      (compileTemplate options list).toOption.map Template.expressions =
        some ["f(1)".toList, []] := by
  intro options list
  exact ⟨rfl, by decide +kernel, compileTemplate_static rfl (by decide +kernel),
    by decide +kernel, by decide +kernel⟩

end JsxTemplate
