import Mathlib.Data.List.Chain
import JsxTemplate.Proofs.Soundness

/-
  Well-formed expressions: what every reader of an expression may rely on, at every depth. Runs of
  code and texts are whole, names are names, values keep their quotes, and elements close as they
  open. Main statement: a source reads as a well-formed expression (`wellFormed_of_parse`).
-/

namespace JsxTemplate

def Node.isCode : Node → Bool
  | code _ => true
  | _ => false

def Child.isText : Child → Bool
  | text _ => true
  | _ => false

/-- No two neighbours are both of the kind `p`. -/
def Apart {α : Type} (p : α → Bool) (list : List α) : Prop :=
  list.IsChain fun a b => ¬ (p a = true ∧ p b = true)

/-- What is called ends in an identifier or a group in brackets, and begins with an identifier
that is no number, and no keyword but for a `new`. -/
structure Called (callee : Text) : Prop where
  last : ∃ c, callee.getLast? = some c ∧ (c = ')' ∨ c = ']' ∨ isIdentifierChar c = true)
  root : ∃ c rest, callee.takeWhile isIdentifierChar = c :: rest ∧ c.isDigit = false ∧
    (isKeyword (c :: rest) = true → c :: rest = "new".toList)

mutual

/-- Nothing compiled stands among what is read. -/
def Node.WellFormed : Node → Prop
  | .code text => text ≠ []
  | .markup element => element.WellFormed
  | .call callee element => Called callee ∧ element.WellFormed
  | .template _ => False
  | .tagged _ _ => False

/-- An element closes itself and is empty, or is closed by its own tag. -/
def Element.WellFormed : Element → Prop
  | ⟨tag, attributes, children, selfClosing, closing, _⟩ =>
    tag ≠ [] ∧ (∀ c ∈ tag, isTagChar c = true) ∧
      (if selfClosing then children = [] ∧ closing = none else closing = some tag) ∧
      attributesWellFormed attributes ∧ Apart Child.isText children ∧ childrenWellFormed children

def Attribute.WellFormed : Attribute → Prop
  | .literal name raw => IsAttributeName name ∧ IsQuoted raw
  | .hole name nodes => IsAttributeName name ∧ Apart Node.isCode nodes ∧ nodesWellFormed nodes
  | .bare name => IsAttributeName name

def Child.WellFormed : Child → Prop
  | .element element => element.WellFormed
  | .text text => text ≠ [] ∧ ∀ c ∈ text, c ≠ '<' ∧ c ≠ '{'
  | .hole nodes => Apart Node.isCode nodes ∧ nodesWellFormed nodes

def nodesWellFormed : List Node → Prop
  | [] => True
  | node :: nodes => node.WellFormed ∧ nodesWellFormed nodes

def attributesWellFormed : List Attribute → Prop
  | [] => True
  | a :: attributes => a.WellFormed ∧ attributesWellFormed attributes

def childrenWellFormed : List Child → Prop
  | [] => True
  | child :: children => child.WellFormed ∧ childrenWellFormed children

end

def Expression.WellFormed (expression : Expression) : Prop :=
  Apart Node.isCode expression ∧ nodesWellFormed expression

/-! ## Neighbours -/

section Apart

variable {α : Type} {p : α → Bool} {a : α} {list : List α}

theorem Apart.cons_of_not (hp : p a = false) (h : Apart p list) : Apart p (a :: list) := by
  refine List.isChain_cons.2 ⟨fun b _ hab => ?_, h⟩
  rw [hp] at hab
  cases hab.1

theorem Apart.cons_of_head (hhead : ∀ b ∈ list.head?, p b = false) (h : Apart p list) :
    Apart p (a :: list) := by
  refine List.isChain_cons.2 ⟨fun b hb hab => ?_, h⟩
  rw [hhead b hb] at hab
  cases hab.2

end Apart

/-- Code that is still growing is not followed by more code. -/
theorem nodesSpelled_pending {close : Option Char} {lexer : Lexer} {draft : Draft}
    {nodes : List Node} {text : Text} (h : nodesSpelled close lexer draft nodes text)
    (hpending : draft.pending ≠ []) : ∀ node ∈ nodes.head?, node.isCode = false := by
  intro node hnode
  obtain ⟨others, rfl⟩ := List.head?_eq_some_iff.1 hnode
  cases node with
  | code own =>
    unfold nodesSpelled at h
    exact absurd h.2.1 hpending
  | _ => rfl

theorem childrenSpelled_behind_text {tag : Text} {children : List Child} {text : Text}
    (h : childrenSpelled tag true children text) :
    ∀ child ∈ children.head?, child.isText = false := by
  intro child hchild
  obtain ⟨others, rfl⟩ := List.head?_eq_some_iff.1 hchild
  cases child with
  | text own =>
    unfold childrenSpelled at h
    cases h.1
  | _ => rfl

/-! ## What is spelled is well-formed -/

mutual

theorem Element.Spelled.wellFormed : ∀ {element : Element} {own : Text}, element.Spelled own →
    element.WellFormed
  | ⟨tag, attributes, children, selfClosing, closing, span⟩, own, h => by
    unfold Element.Spelled at h
    unfold Element.WellFormed
    obtain ⟨hne, htag, inside, hinside, h⟩ := h
    cases selfClosing with
    | true =>
      obtain ⟨rfl, rfl, -⟩ := h
      refine ⟨hne, htag, ⟨rfl, rfl⟩, attributesSpelled_wellFormed hinside, .nil, ?_⟩
      unfold childrenWellFormed
      trivial
    | false =>
      obtain ⟨rfl, content, hcontent, -⟩ := h
      exact ⟨hne, htag, rfl, attributesSpelled_wellFormed hinside,
        childrenSpelled_wellFormed hcontent⟩

theorem attributesSpelled_wellFormed : ∀ {attributes : List Attribute} {named : Bool}
    {inside : Text}, attributesSpelled named attributes inside → attributesWellFormed attributes
  | [], named, inside, h => by
    unfold attributesWellFormed
    trivial
  | a :: attributes, named, inside, h => by
    unfold attributesSpelled at h
    unfold attributesWellFormed
    obtain ⟨blanks, own, rest, -, -, hown, hrest, -⟩ := h
    exact ⟨hown.wellFormed, attributesSpelled_wellFormed hrest⟩

theorem Attribute.Spelled.wellFormed : ∀ {a : Attribute} {own : Text}, a.Spelled own →
    a.WellFormed
  | .literal name raw, own, h => by
    unfold Attribute.Spelled at h
    unfold Attribute.WellFormed
    exact ⟨h.1, h.2.1⟩
  | .hole name nodes, own, h => by
    unfold Attribute.Spelled at h
    unfold Attribute.WellFormed
    obtain ⟨hname, before, behind, code, -, -, hcode, -⟩ := h
    exact ⟨hname, nodesSpelled_wellFormed hcode⟩
  | .bare name, own, h => by
    unfold Attribute.Spelled at h
    unfold Attribute.WellFormed
    exact h.1

theorem childrenSpelled_wellFormed : ∀ {children : List Child} {tag : Text} {texted : Bool}
    {content : Text}, childrenSpelled tag texted children content →
    Apart Child.isText children ∧ childrenWellFormed children
  | [], tag, texted, content, h => by
    unfold childrenWellFormed
    exact ⟨.nil, trivial⟩
  | .element element :: children, tag, texted, content, h => by
    unfold childrenSpelled at h
    unfold childrenWellFormed
    obtain ⟨own, rest, hown, hrest, -⟩ := h
    obtain ⟨hapart, hchildren⟩ := childrenSpelled_wellFormed hrest
    refine ⟨hapart.cons_of_not rfl, ?_, hchildren⟩
    unfold Child.WellFormed
    exact hown.wellFormed
  | .text own :: children, tag, texted, content, h => by
    unfold childrenSpelled at h
    unfold childrenWellFormed
    obtain ⟨-, hne, hown, rest, hrest, -⟩ := h
    obtain ⟨hapart, hchildren⟩ := childrenSpelled_wellFormed hrest
    refine ⟨hapart.cons_of_head (childrenSpelled_behind_text hrest), ?_, hchildren⟩
    unfold Child.WellFormed
    exact ⟨hne, hown⟩
  | .hole nodes :: children, tag, texted, content, h => by
    unfold childrenSpelled at h
    unfold childrenWellFormed
    obtain ⟨code, rest, hcode, hrest, -⟩ := h
    obtain ⟨hapart, hchildren⟩ := childrenSpelled_wellFormed hrest
    refine ⟨hapart.cons_of_not rfl, ?_, hchildren⟩
    unfold Child.WellFormed
    exact nodesSpelled_wellFormed hcode

theorem nodesSpelled_wellFormed : ∀ {nodes : List Node} {close : Option Char} {lexer : Lexer}
    {draft : Draft} {text : Text}, nodesSpelled close lexer draft nodes text →
    Apart Node.isCode nodes ∧ nodesWellFormed nodes
  | [], close, lexer, draft, text, h => by
    unfold nodesWellFormed
    exact ⟨.nil, trivial⟩
  | .code own :: nodes, close, lexer, draft, text, h => by
    unfold nodesSpelled at h
    unfold nodesWellFormed
    obtain ⟨hne, -, rest, -, hrest, -⟩ := h
    obtain ⟨hapart, hnodes⟩ := nodesSpelled_wellFormed hrest
    have hpending : (draft.pushAll own).pending ≠ [] := by simp [Draft.pushAll_pending, hne]
    refine ⟨hapart.cons_of_head (nodesSpelled_pending hrest hpending), ?_, hnodes⟩
    unfold Node.WellFormed
    exact hne
  | .markup element :: nodes, close, lexer, draft, text, h => by
    unfold nodesSpelled at h
    unfold nodesWellFormed
    obtain ⟨own, rest, hown, -, -, -, hrest, -⟩ := h
    obtain ⟨hapart, hnodes⟩ := nodesSpelled_wellFormed hrest
    refine ⟨hapart.cons_of_not rfl, ?_, hnodes⟩
    unfold Node.WellFormed
    exact hown.wellFormed
  | .call callee element :: nodes, close, lexer, draft, text, h => by
    unfold nodesSpelled at h
    unfold nodesWellFormed
    obtain ⟨before, behind, own, blanks, rest, -, -, -, hown, -, -, -, hpending, hrest, -⟩ := h
    obtain ⟨hapart, hnodes⟩ := nodesSpelled_wellFormed hrest
    refine ⟨hapart.cons_of_not rfl, ?_, hnodes⟩
    unfold Node.WellFormed
    exact ⟨⟨Callee.ofPending?_last hpending, Callee.ofPending?_root hpending⟩, hown.wellFormed⟩
  | .template _ :: nodes, close, lexer, draft, text, h => by
    unfold nodesSpelled at h
    exact h.elim
  | .tagged _ _ :: nodes, close, lexer, draft, text, h => by
    unfold nodesSpelled at h
    exact h.elim

end

/-- A source reads as a well-formed expression. -/
theorem wellFormed_of_parse {source : Text} {expression : Expression}
    (h : parse source = .ok expression) : expression.WellFormed :=
  nodesSpelled_wellFormed (spelled_of_parse h)

/-- A call on a new object, with markup in the hole of a template literal in an attribute. -/
theorem wellFormed_of_parse_new :
    ∃ expression : Expression,
      parse "x = new V().f(<a b='c' d=\x7b\x60$\x7b<i/>\x7d\x60\x7d>t\x7by\x7d u</a>) < 2".toList =
        .ok expression ∧
      expression.map Node.isCode = [true, false, true] ∧ expression.WellFormed := by
  have hkinds :
      (parse "x = new V().f(<a b='c' d=\x7b\x60$\x7b<i/>\x7d\x60\x7d>t\x7by\x7d u</a>) < 2".toList
        ).toOption.map (List.map Node.isCode) = some [true, false, true] := by
    decide +kernel
  cases h : parse
      "x = new V().f(<a b='c' d=\x7b\x60$\x7b<i/>\x7d\x60\x7d>t\x7by\x7d u</a>) < 2".toList with
  | error error => rw [h] at hkinds; cases hkinds
  | ok expression =>
    rw [h] at hkinds
    exact ⟨expression, rfl, Option.some.inj hkinds, wellFormed_of_parse h⟩

end JsxTemplate
