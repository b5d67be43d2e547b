import JsxTemplate.Markup.Elements
import JsxTemplate.Proofs.Completeness
import JsxTemplate.Proofs.Soundness

/-
  How tags begin. In code a `<` opens an element only before a character that may begin a tag; among
  children every `<` opens one, and any character of a tag may come first there. Main statement: the
  tags of elements in code begin as names do, so all tags of a source do if those of the children do
  (`tagBegins_of_parse`). For a child there is no such rule: any tag is read (`parse_enclosing`).
-/

namespace JsxTemplate

/-- The tag begins with a character that satisfies `p`. -/
def Element.tagBegins (p : Char → Bool) (element : Element) : Bool := element.tag.head?.any p

def Node.element? : Node → Option Element
  | markup element => some element
  | call _ element => some element
  | _ => none

/-- The elements that are nodes themselves. -/
def nodesHeld (nodes : List Node) : List Element := nodes.filterMap Node.element?

def Attribute.held : Attribute → List Element
  | hole _ nodes => nodesHeld nodes
  | _ => []

def Child.held : Child → List Element
  | hole nodes => nodesHeld nodes
  | _ => []

/-- The elements that are nodes in the holes of an element. -/
def Element.held (element : Element) : List Element :=
  element.attributes.flatMap Attribute.held ++ element.children.flatMap Child.held

/-- The elements that stand in code, at every depth: in the expression itself or in a hole. -/
def Expression.inCode (expression : Expression) : List Element :=
  nodesHeld expression ++ expression.elements.flatMap Element.held

def Child.element? : Child → Option Element
  | .element child => some child
  | _ => none

/-- The elements that are children of an element. -/
def Element.nested (element : Element) : List Element := element.children.filterMap Child.element?

/-- The elements that stand among children, at every depth. -/
def Expression.amongChildren (expression : Expression) : List Element :=
  expression.elements.flatMap Element.nested

/-- The tag begins with some character of a tag, and those of the elements in holes with one that
may begin a tag in code. -/
def Element.Starts (element : Element) : Prop :=
  element.tagBegins isTagChar = true ∧ ∀ held ∈ element.held, held.tagBegins isTagStart = true

/-- How tags begin among `elements`, of which `held` stand in code and `nested` are children. -/
structure AllStart (elements held nested : List Element) : Prop where
  starts : ∀ element ∈ elements, element.Starts
  held : ∀ element ∈ held, element.tagBegins isTagStart = true
  begins : ∀ element ∈ elements, element.tagBegins isTagStart = true ∨ element ∈ nested ∨
    ∃ holder ∈ elements, element ∈ holder.nested

theorem allStart_nil : AllStart [] [] [] := ⟨nofun, nofun, nofun⟩

theorem AllStart.append {elements elements' held held' nested nested' : List Element}
    (h : AllStart elements held nested) (h' : AllStart elements' held' nested') :
    AllStart (elements ++ elements') (held ++ held') (nested ++ nested') := by
  constructor
  · intro element hmem
    exact (List.mem_append.1 hmem).elim (h.starts element) (h'.starts element)
  · intro element hmem
    exact (List.mem_append.1 hmem).elim (h.held element) (h'.held element)
  · intro element hmem
    rcases List.mem_append.1 hmem with hmem | hmem
    · rcases h.begins element hmem with hstart | hnested | ⟨holder, hholder, hnested⟩
      · exact .inl hstart
      · exact .inr (.inl (List.mem_append_left _ hnested))
      · exact .inr (.inr ⟨holder, List.mem_append_left _ hholder, hnested⟩)
    · rcases h'.begins element hmem with hstart | hnested | ⟨holder, hholder, hnested⟩
      · exact .inl hstart
      · exact .inr (.inl (List.mem_append_right _ hnested))
      · exact .inr (.inr ⟨holder, List.mem_append_right _ hholder, hnested⟩)

/-- An element with those inside it, from what its attributes and children hold. -/
theorem AllStart.cons_inside {element : Element} {held nested : List Element}
    (htag : element.tagBegins isTagChar = true) (hheld : held = element.held)
    (hnested : nested = element.nested) (h : AllStart element.inside held nested) :
    AllStart (element :: element.inside) [] [element] := by
  subst hheld hnested
  constructor
  · intro inner hmem
    rcases List.mem_cons.1 hmem with rfl | hmem
    · exact ⟨htag, h.held⟩
    · exact h.starts inner hmem
  · nofun
  · intro inner hmem
    rcases List.mem_cons.1 hmem with rfl | hmem
    · exact .inr (.inl List.mem_cons_self)
    · rcases h.begins inner hmem with hstart | hnested | ⟨holder, hholder, hnested⟩
      · exact .inl hstart
      · exact .inr (.inr ⟨element, List.mem_cons_self, hnested⟩)
      · exact .inr (.inr ⟨holder, List.mem_cons_of_mem _ hholder, hnested⟩)

/-- The same for an element in code. -/
theorem AllStart.in_code {element : Element}
    (h : AllStart (element :: element.inside) [] [element])
    (hstart : element.tagBegins isTagStart = true) :
    AllStart (element :: element.inside) [element] [] := by
  refine ⟨h.starts, List.forall_mem_singleton.2 hstart, ?_⟩
  intro inner hmem
  rcases h.begins inner hmem with hinner | hnested | hholder
  · exact .inl hinner
  · rw [List.mem_singleton.1 hnested]
    exact .inl hstart
  · exact .inr (.inr hholder)

theorem Element.Spelled.tagBegins {element : Element} {own : Text} (h : element.Spelled own) :
    element.tagBegins isTagChar = true := by
  obtain ⟨tag, attributes, children, selfClosing, closing, span⟩ := element
  unfold Element.Spelled at h
  obtain ⟨c, rest, rfl⟩ := List.exists_cons_of_ne_nil h.1
  exact h.2.1 c List.mem_cons_self

/-- Where a `<` opens an element in code, the tag behind it begins as names do. -/
theorem Element.Spelled.tagBegins_of_opens {element : Element} {own : Text} {draft : Draft}
    (h : element.Spelled own) (hopens : Reader.opensElement draft (.ofText own) = true) :
    element.tagBegins isTagStart = true := by
  obtain ⟨tag, attributes, children, selfClosing, closing, span⟩ := element
  unfold Element.Spelled at h
  obtain ⟨hne, htag, inside, -, h⟩ := h
  obtain ⟨c, tag, rfl⟩ := List.exists_cons_of_ne_nil hne
  have hchar : isTagChar c = true := htag c List.mem_cons_self
  obtain ⟨rest, rfl⟩ : ∃ rest, own = '<' :: c :: rest := by
    split at h
    · exact ⟨_, h.2.2⟩
    · obtain ⟨-, content, -, hown⟩ := h
      exact ⟨_, hown⟩
  have hnext : (Cursor.ofText ('<' :: c :: rest)).peekNext = c := rfl
  rw [Reader.opensElement, hnext, Bool.and_eq_true, Bool.or_eq_true] at hopens
  rcases hopens.1 with hstart | hclose
  · exact hstart
  · rw [beq_iff_eq.1 hclose] at hchar
    exact absurd hchar (by decide)

/-! ## What is spelled begins well -/

mutual

theorem Element.Spelled.starts : ∀ {element : Element} {own : Text}, element.Spelled own →
    AllStart (element :: element.inside) [] [element]
  | ⟨tag, attributes, children, selfClosing, closing, span⟩, own, h => by
    have htag := h.tagBegins
    unfold Element.Spelled at h
    obtain ⟨-, -, inside, hinside, h⟩ := h
    have hchildren : AllStart (childrenElements children) (children.flatMap Child.held)
        (children.filterMap Child.element?) := by
      split at h
      next =>
        obtain ⟨rfl, -, -⟩ := h
        rw [childrenElements]
        exact allStart_nil
      next =>
        obtain ⟨-, content, hcontent, -⟩ := h
        exact childrenSpelled_starts hcontent
    have hall := (attributesSpelled_starts hinside).append hchildren
    refine AllStart.cons_inside htag rfl rfl ?_
    rw [Element.inside]
    exact hall

theorem attributesSpelled_starts : ∀ {attributes : List Attribute} {named : Bool} {inside : Text},
    attributesSpelled named attributes inside →
    AllStart (attributesElements attributes) (attributes.flatMap Attribute.held) []
  | [], named, inside, h => by
    rw [attributesElements]
    exact allStart_nil
  | a :: attributes, named, inside, h => by
    unfold attributesSpelled at h
    obtain ⟨blanks, own, rest, -, -, hown, hrest, -⟩ := h
    rw [attributesElements, List.flatMap_cons]
    exact hown.starts.append (attributesSpelled_starts hrest)

theorem Attribute.Spelled.starts : ∀ {a : Attribute} {own : Text}, a.Spelled own →
    AllStart a.elements a.held []
  | .literal name raw, own, h => by
    rw [Attribute.elements]
    exact allStart_nil
  | .hole name nodes, own, h => by
    unfold Attribute.Spelled at h
    obtain ⟨-, before, behind, code, -, -, hcode, -⟩ := h
    rw [Attribute.elements]
    exact nodesSpelled_starts hcode
  | .bare name, own, h => by
    rw [Attribute.elements]
    exact allStart_nil

theorem childrenSpelled_starts : ∀ {children : List Child} {tag : Text} {texted : Bool}
    {content : Text}, childrenSpelled tag texted children content →
    AllStart (childrenElements children) (children.flatMap Child.held)
      (children.filterMap Child.element?)
  | [], tag, texted, content, h => by
    rw [childrenElements]
    exact allStart_nil
  | .element element :: children, tag, texted, content, h => by
    unfold childrenSpelled at h
    obtain ⟨own, rest, hown, hrest, -⟩ := h
    rw [childrenElements, Child.elements, List.flatMap_cons]
    -- Nothing more is known of the tag of a child than that it is one.
    exact hown.starts.append (childrenSpelled_starts hrest)
  | .text own :: children, tag, texted, content, h => by
    unfold childrenSpelled at h
    obtain ⟨-, -, -, rest, hrest, -⟩ := h
    rw [childrenElements, Child.elements, List.flatMap_cons]
    exact childrenSpelled_starts hrest
  | .hole nodes :: children, tag, texted, content, h => by
    unfold childrenSpelled at h
    obtain ⟨code, rest, hcode, hrest, -⟩ := h
    rw [childrenElements, Child.elements, List.flatMap_cons]
    exact AllStart.append (nodesSpelled_starts hcode) (childrenSpelled_starts hrest)

theorem nodesSpelled_starts : ∀ {nodes : List Node} {close : Option Char} {lexer : Lexer}
    {draft : Draft} {text : Text}, nodesSpelled close lexer draft nodes text →
    AllStart (nodesElements nodes) (nodesHeld nodes) []
  | [], close, lexer, draft, text, h => by
    rw [nodesElements]
    exact allStart_nil
  | .code own :: nodes, close, lexer, draft, text, h => by
    unfold nodesSpelled at h
    obtain ⟨-, -, rest, -, hrest, -⟩ := h
    rw [nodesElements, Node.elements]
    exact nodesSpelled_starts hrest
  | .markup element :: nodes, close, lexer, draft, text, h => by
    unfold nodesSpelled at h
    obtain ⟨own, rest, hown, -, hopens, -, hrest, -⟩ := h
    rw [nodesElements, Node.elements]
    exact (hown.starts.in_code (hown.tagBegins_of_opens hopens)).append (nodesSpelled_starts hrest)
  | .call callee element :: nodes, close, lexer, draft, text, h => by
    unfold nodesSpelled at h
    obtain ⟨before, behind, own, blanks, rest, -, -, -, hown, -, -, hopens, -, hrest, -⟩ := h
    rw [nodesElements, Node.elements]
    exact (hown.starts.in_code (hown.tagBegins_of_opens hopens)).append (nodesSpelled_starts hrest)
  | .template _ :: nodes, close, lexer, draft, text, h => by
    unfold nodesSpelled at h
    exact h.elim
  | .tagged _ _ :: nodes, close, lexer, draft, text, h => by
    unfold nodesSpelled at h
    exact h.elim

end

/-! ## Any tag of a child -/

/-- An element that closes itself and holds nothing. -/
def emptyElement (tag : Text) : Element := ⟨tag, [], [], true, none, .nowhere⟩

/-- An element with nothing but one empty element in it. -/
def enclosing (outer inner : Text) : Element :=
  ⟨outer, [], [.element (emptyElement inner)], false, some outer, .nowhere⟩

theorem attributesSpelled_nil (named : Bool) : attributesSpelled named [] [] := by
  unfold attributesSpelled
  rfl

theorem emptyElement_spelled {tag : Text} (hne : tag ≠ []) (htag : ∀ c ∈ tag, isTagChar c = true) :
    (emptyElement tag).Spelled (['<'] ++ tag ++ ['/', '>']) := by
  unfold emptyElement Element.Spelled
  refine ⟨hne, htag, [], attributesSpelled_nil true, rfl, rfl, ?_⟩
  rw [List.append_nil]
  rfl

theorem enclosing_spelled {outer inner : Text} (houter : outer ≠ [])
    (htag : ∀ c ∈ outer, isTagChar c = true) (hinner : inner ≠ [])
    (htag' : ∀ c ∈ inner, isTagChar c = true) :
    (enclosing outer inner).Spelled (enclosing outer inner).toSource := by
  have hclosing : childrenSpelled outer false [] (['<', '/'] ++ outer ++ ['>']) := by
    unfold childrenSpelled
    exact ⟨[], [], rfl, rfl, by simp⟩
  have hchildren : childrenSpelled outer false [.element (emptyElement inner)]
      (['<'] ++ inner ++ ['/', '>'] ++ (['<', '/'] ++ outer ++ ['>'])) := by
    unfold childrenSpelled
    exact ⟨_, _, emptyElement_spelled hinner htag', hclosing, rfl⟩
  unfold enclosing Element.Spelled
  refine ⟨houter, htag, [], attributesSpelled_nil true, rfl, _, hchildren, ?_⟩
  simp [Element.toSource, attributesSource, childrenSource, Child.toSource, closingSource,
    emptyElement]

/-- An element alone is spelled as it is, if its tag may begin in code. -/
theorem markup_spelled {element : Element} {own : Text} (hown : element.Spelled own)
    (hstart : element.tagBegins isTagStart = true) : Expression.Spelled [.markup element] own := by
  have hopens : Reader.opensElement .empty (.ofText own) = true := by
    obtain ⟨tag, attributes, children, selfClosing, closing, span⟩ := element
    obtain ⟨c, rest, rfl⟩ : ∃ c rest, tag = c :: rest := by
      cases tag with
      | nil => cases hstart
      | cons c rest => exact ⟨c, rest, rfl⟩
    have hstart : isTagStart c = true := hstart
    have hnext : (Cursor.ofText own).peekNext = c := by
      unfold Element.Spelled at hown
      obtain ⟨-, -, inside, -, hown⟩ := hown
      split at hown
      next =>
        rw [hown.2.2]
        rfl
      next =>
        obtain ⟨-, content, -, rfl⟩ := hown
        rfl
    rw [Reader.opensElement, hnext, hstart]
    rfl
  have hrest : nodesSpelled none Lexer.initial.inCode (Draft.empty.add (.markup element)) [] [] := by
    unfold nodesSpelled
    exact ⟨⟨trivial, rfl, nofun⟩, rfl⟩
  unfold Expression.Spelled nodesSpelled
  exact ⟨own, [], hown, trivial, hopens, rfl, hrest, (List.append_nil own).symm⟩

theorem eq_of_unplaced_enclosing {found : Expression} {outer inner : Text}
    (h : found.unplaced = [.markup (enclosing outer inner)]) :
    ∃ span span', found = [.markup ⟨outer, [], [.element ⟨inner, [], [], true, none, span⟩], false,
      some outer, span'⟩] := by
  match found with
  | [.markup ⟨tag, [], [.element ⟨tag', [], [], selfClosing', closing', span⟩], selfClosing,
      closing, span'⟩] =>
    simp only [Expression.unplaced, nodesUnplaced, Node.unplaced, Element.unplaced,
      attributesUnplaced, childrenUnplaced, Child.unplaced, enclosing, emptyElement] at h
    cases h
    exact ⟨span, span', rfl⟩

/-- Any tag is read in a child of an element that may stand in code. -/
theorem parse_enclosing {outer inner : Text} (hstart : outer.head?.any isTagStart = true)
    (htag : ∀ c ∈ outer, isTagChar c = true) (hinner : inner ≠ [])
    (htag' : ∀ c ∈ inner, isTagChar c = true) :
    ∃ span span', parse (enclosing outer inner).toSource =
      .ok [.markup ⟨outer, [], [.element ⟨inner, [], [], true, none, span⟩], false, some outer,
        span'⟩] := by
  have houter : outer ≠ [] := by
    rintro rfl
    cases hstart
  have hspelled := markup_spelled (enclosing_spelled houter htag hinner htag') hstart
  obtain ⟨found, hparse, hfound⟩ := parse_of_spelled hspelled
  obtain ⟨span, span', rfl⟩ := eq_of_unplaced_enclosing hfound
  exact ⟨span, span', hparse⟩

/-! ## Tags of a source -/

/-- How the tags of a source begin: those of elements in code as names do, and all of them with some
character of tags. So they all begin as names do exactly if those of the children do. -/
theorem tagBegins_of_parse {source : Text} {expression : Expression}
    (h : parse source = .ok expression) :
    (∀ element ∈ expression.inCode, element.tagBegins isTagStart = true) ∧
      (∀ element ∈ expression.elements, element.tagBegins isTagChar = true) ∧
      ((∀ element ∈ expression.elements, element.tagBegins isTagStart = true) ↔
        ∀ element ∈ expression.elements, element ∈ expression.amongChildren →
          element.tagBegins isTagStart = true) := by
  have hall := nodesSpelled_starts (spelled_of_parse h)
  refine ⟨?_, fun element hmem => (hall.starts element hmem).1, ?_, ?_⟩
  · intro element hmem
    rcases List.mem_append.1 hmem with hmem | hmem
    · exact hall.held element hmem
    · obtain ⟨holder, hholder, hmem⟩ := List.mem_flatMap.1 hmem
      exact (hall.starts holder hholder).2 element hmem
  · intro hstart element hmem _
    exact hstart element hmem
  · intro hchildren element hmem
    rcases hall.begins element hmem with hstart | hnested | ⟨holder, hholder, hnested⟩
    · exact hstart
    · exact absurd hnested List.not_mem_nil
    · exact hchildren element hmem (List.mem_flatMap.2 ⟨holder, hholder, hnested⟩)

/-- A child with a digit for a tag. -/
theorem tagBegins_of_parse_digit :
    ∃ expression : Expression, parse "<a><1/></a>".toList = .ok expression ∧
      expression.elements.map Element.tag = [['a'], ['1']] ∧
      (∀ element ∈ expression.inCode, element.tagBegins isTagStart = true) ∧
      (∀ element ∈ expression.elements, element.tagBegins isTagChar = true) ∧
      (¬ ∀ element ∈ expression.elements, element.tagBegins isTagStart = true) ∧
      ¬ ∀ element ∈ expression.elements, element ∈ expression.amongChildren →
        element.tagBegins isTagStart = true := by
  have hstart : (['a'] : Text).head?.any isTagStart = true := by decide
  have houter : ∀ c ∈ (['a'] : Text), isTagChar c = true := List.all_eq_true.1 (by decide)
  have hinner : ∀ c ∈ (['1'] : Text), isTagChar c = true := List.all_eq_true.1 (by decide)
  obtain ⟨span, span', hparse⟩ := parse_enclosing hstart houter (List.cons_ne_nil _ _) hinner
  obtain ⟨hcode, hchars, hstarts⟩ := tagBegins_of_parse hparse
  have hnot : ¬ ∀ element ∈ Expression.elements [.markup ⟨['a'], [],
      [.element ⟨['1'], [], [], true, none, span⟩], false, some ['a'], span'⟩],
      element.tagBegins isTagStart = true := by
    intro hall
    have hdigit : isTagStart '1' = true :=
      hall ⟨['1'], [], [], true, none, span⟩ (List.mem_cons_of_mem _ List.mem_cons_self)
    exact absurd hdigit (by decide)
  exact ⟨_, hparse, rfl, hcode, hchars, hnot, mt hstarts.2 hnot⟩

end JsxTemplate
