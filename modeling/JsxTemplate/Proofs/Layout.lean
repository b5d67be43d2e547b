import JsxTemplate.Markup.Printer
import JsxTemplate.Proofs.Soundness

/-
  Layouts: a source is its expression written out, with blanks wherever they mean nothing. They mean
  nothing inside tags, and around the parentheses of a call whose only argument is an element.
  Main statement: a source that reads is a layout of what it reads as (`layout_of_parse`).
-/

namespace JsxTemplate

mutual

/-- An element with blanks in its tags; it closes itself or ends in a closing tag of its name. -/
def Element.Layout : Element → Text → Prop
  | ⟨tag, attributes, children, selfClosing, closing, _⟩, text =>
    ∃ inside, attributesLayout true attributes inside ∧
      if selfClosing then
        children = [] ∧ closing = none ∧ text = '<' :: tag ++ inside ++ ['/', '>']
      else
        closing = some tag ∧
          ∃ content before behind : Text, childrenLayout children content ∧
            before.isBlank ∧ behind.isBlank ∧
            text = '<' :: tag ++ inside ++ '>' :: content ++
              '<' :: '/' :: before ++ tag ++ behind ++ ['>']

/-- Attributes with blanks before each and behind the last. Only behind a name (`named`) does an
attribute need a blank before it. -/
def attributesLayout (named : Bool) : List Attribute → Text → Prop
  | [], text => text.isBlank
  | a :: attributes, text =>
    ∃ blanks own rest : Text, blanks.isBlank ∧ (named = true → blanks ≠ []) ∧ a.Layout own ∧
      attributesLayout a.isBare attributes rest ∧ text = blanks ++ own ++ rest

def Attribute.Layout : Attribute → Text → Prop
  | .literal name raw, text =>
    ∃ before behind : Text, before.isBlank ∧ behind.isBlank ∧
      text = name ++ before ++ '=' :: behind ++ raw
  | .hole name nodes, text =>
    ∃ before behind code : Text, before.isBlank ∧ behind.isBlank ∧ nodesLayout nodes code ∧
      text = name ++ before ++ '=' :: behind ++ '{' :: code ++ ['}']
  | .bare name, text => text = name

def Child.Layout : Child → Text → Prop
  | .element element, text => element.Layout text
  | .text own, text => text = own
  | .hole nodes, text => ∃ code, nodesLayout nodes code ∧ text = '{' :: code ++ ['}']

def childrenLayout : List Child → Text → Prop
  | [], text => text = []
  | child :: children, text =>
    ∃ own rest, child.Layout own ∧ childrenLayout children rest ∧ text = own ++ rest

def Node.Layout : Node → Text → Prop
  | .code own, text => text = own
  | .markup element, text => element.Layout text
  | .call callee element, text =>
    ∃ before behind own blanks : Text, before.isBlank ∧ behind.isBlank ∧ blanks.isBlank ∧
      element.Layout own ∧ text = callee ++ before ++ '(' :: behind ++ own ++ blanks ++ [')']
  | .template _, _ => False
  | .tagged _ _, _ => False

def nodesLayout : List Node → Text → Prop
  | [], text => text = []
  | node :: nodes, text =>
    ∃ own rest, node.Layout own ∧ nodesLayout nodes rest ∧ text = own ++ rest

end

/-- The text is the expression written out, up to blanks. -/
def Expression.Layout (expression : Expression) (text : Text) : Prop :=
  nodesLayout expression text

/-! ## A spelling is a layout -/

mutual

theorem Element.Spelled.layout : ∀ {element : Element} {text : Text}, element.Spelled text →
    element.Layout text
  | ⟨tag, attributes, children, selfClosing, closing, span⟩, text, h => by
    unfold Element.Spelled at h
    unfold Element.Layout
    obtain ⟨-, -, inside, hinside, h⟩ := h
    refine ⟨inside, attributesSpelled_layout hinside, ?_⟩
    split at h
    next hself =>
      rw [if_pos hself]
      exact h
    next hself =>
      rw [if_neg hself]
      obtain ⟨hclosing, content, hcontent, rfl⟩ := h
      obtain ⟨own, before, behind, hown, hbefore, hbehind, rfl⟩ := childrenSpelled_layout hcontent
      exact ⟨hclosing, own, before, behind, hown, hbefore, hbehind, by simp⟩

theorem attributesSpelled_layout : ∀ {attributes : List Attribute} {named : Bool} {text : Text},
    attributesSpelled named attributes text → attributesLayout named attributes text
  | [], named, text, h => by
    unfold attributesSpelled at h
    unfold attributesLayout
    exact h
  | a :: attributes, named, text, h => by
    unfold attributesSpelled at h
    unfold attributesLayout
    obtain ⟨blanks, own, rest, hblanks, hne, hown, hrest, rfl⟩ := h
    exact ⟨blanks, own, rest, hblanks, hne, hown.layout, attributesSpelled_layout hrest, rfl⟩

theorem Attribute.Spelled.layout : ∀ {a : Attribute} {text : Text}, a.Spelled text → a.Layout text
  | .literal name raw, text, h => by
    unfold Attribute.Spelled at h
    unfold Attribute.Layout
    exact h.2.2
  | .hole name nodes, text, h => by
    unfold Attribute.Spelled at h
    unfold Attribute.Layout
    obtain ⟨-, before, behind, code, hbefore, hbehind, hcode, rfl⟩ := h
    exact ⟨before, behind, code, hbefore, hbehind, nodesSpelled_layout hcode, rfl⟩
  | .bare name, text, h => by
    unfold Attribute.Spelled at h
    unfold Attribute.Layout
    exact h.2

theorem childrenSpelled_layout : ∀ {children : List Child} {tag : Text} {texted : Bool}
    {text : Text}, childrenSpelled tag texted children text →
    ∃ content before behind : Text, childrenLayout children content ∧ before.isBlank ∧
      behind.isBlank ∧ text = content ++ '<' :: '/' :: before ++ tag ++ behind ++ ['>']
  | [], tag, texted, text, h => by
    unfold childrenSpelled at h
    obtain ⟨before, behind, hbefore, hbehind, rfl⟩ := h
    exact ⟨[], before, behind, by rw [childrenLayout], hbefore, hbehind, rfl⟩
  | .element element :: children, tag, texted, text, h => by
    unfold childrenSpelled at h
    obtain ⟨own, rest, hown, hrest, rfl⟩ := h
    obtain ⟨content, before, behind, hcontent, hbefore, hbehind, rfl⟩ :=
      childrenSpelled_layout hrest
    refine ⟨own ++ content, before, behind, ?_, hbefore, hbehind, by simp⟩
    unfold childrenLayout
    exact ⟨own, content, by rw [Child.Layout]; exact hown.layout, hcontent, rfl⟩
  | .text own :: children, tag, texted, text, h => by
    unfold childrenSpelled at h
    obtain ⟨-, -, -, rest, hrest, rfl⟩ := h
    obtain ⟨content, before, behind, hcontent, hbefore, hbehind, rfl⟩ :=
      childrenSpelled_layout hrest
    refine ⟨own ++ content, before, behind, ?_, hbefore, hbehind, by simp⟩
    unfold childrenLayout
    exact ⟨own, content, by rw [Child.Layout], hcontent, rfl⟩
  | .hole nodes :: children, tag, texted, text, h => by
    unfold childrenSpelled at h
    obtain ⟨code, rest, hcode, hrest, rfl⟩ := h
    obtain ⟨content, before, behind, hcontent, hbefore, hbehind, rfl⟩ :=
      childrenSpelled_layout hrest
    refine ⟨'{' :: code ++ ['}'] ++ content, before, behind, ?_, hbefore, hbehind, by simp⟩
    unfold childrenLayout
    refine ⟨_, content, ?_, hcontent, rfl⟩
    rw [Child.Layout]
    exact ⟨code, nodesSpelled_layout hcode, rfl⟩

theorem nodesSpelled_layout : ∀ {nodes : List Node} {close : Option Char} {lexer : Lexer}
    {draft : Draft} {text : Text}, nodesSpelled close lexer draft nodes text →
    nodesLayout nodes text
  | [], close, lexer, draft, text, h => by
    unfold nodesSpelled at h
    unfold nodesLayout
    exact h.2
  | .code own :: nodes, close, lexer, draft, text, h => by
    unfold nodesSpelled at h
    unfold nodesLayout
    obtain ⟨-, -, rest, -, hrest, rfl⟩ := h
    exact ⟨own, rest, by rw [Node.Layout], nodesSpelled_layout hrest, rfl⟩
  | .markup element :: nodes, close, lexer, draft, text, h => by
    unfold nodesSpelled at h
    unfold nodesLayout
    obtain ⟨own, rest, hown, -, -, -, hrest, rfl⟩ := h
    exact ⟨own, rest, by rw [Node.Layout]; exact hown.layout, nodesSpelled_layout hrest, rfl⟩
  | .call callee element :: nodes, close, lexer, draft, text, h => by
    unfold nodesSpelled at h
    unfold nodesLayout
    obtain ⟨before, behind, own, blanks, rest, hbefore, hbehind, hblanks, hown, -, -, -, -, hrest,
      rfl⟩ := h
    refine ⟨callee ++ before ++ '(' :: behind ++ own ++ blanks ++ [')'], rest, ?_,
      nodesSpelled_layout hrest, by simp⟩
    rw [Node.Layout]
    exact ⟨before, behind, own, blanks, hbefore, hbehind, hblanks, hown.layout, rfl⟩
  | .template _ :: nodes, close, lexer, draft, text, h => by
    unfold nodesSpelled at h
    exact h.elim
  | .tagged _ _ :: nodes, close, lexer, draft, text, h => by
    unfold nodesSpelled at h
    exact h.elim

end

/-! ## Sources are layouts -/

/-- Without markup, nothing stands before or behind the code. -/
theorem eq_code_of_spelled {expression : Expression} {text : Text} (h : expression.Spelled text)
    (hplain : expression.containsMarkup = false) (hne : text ≠ []) :
    expression = [.code text] := by
  unfold Expression.Spelled at h
  match expression with
  | [] =>
    unfold nodesSpelled at h
    exact absurd h.2 hne
  | .code own :: nodes =>
    unfold nodesSpelled at h
    obtain ⟨hown, -, rest, -, hrest, rfl⟩ := h
    match nodes with
    | [] =>
      unfold nodesSpelled at hrest
      rw [hrest.2, List.append_nil]
    | .code next :: nodes =>
      -- Two runs of code in a row would be one.
      rw [nodesSpelled, Draft.pushAll_pending] at hrest
      have hnil := List.append_eq_nil_iff.1 hrest.2.1
      exact absurd (List.reverse_eq_nil_iff.1 hnil.1) hown
    | .markup element :: nodes => cases hplain
    | .call callee element :: nodes => cases hplain
    | .template _ :: nodes => rw [nodesSpelled] at hrest; exact hrest.elim
    | .tagged _ _ :: nodes => rw [nodesSpelled] at hrest; exact hrest.elim
  | .markup element :: nodes => cases hplain
  | .call callee element :: nodes => cases hplain
  | .template _ :: nodes => rw [nodesSpelled] at h; exact h.elim
  | .tagged _ _ :: nodes => rw [nodesSpelled] at h; exact h.elim

/-- Nothing of a source is lost, doubled, moved or made up, but for blanks in tags and around the
only argument of a call; and code without markup stays in one piece. -/
theorem layout_of_parse {source : Text} {expression : Expression}
    (h : parse source = .ok expression) :
    expression.Layout source ∧
      (expression.containsMarkup = false → source ≠ [] → expression = [.code source]) :=
  ⟨nodesSpelled_layout (spelled_of_parse h), eq_code_of_spelled (spelled_of_parse h)⟩

/-- Blanks inside tags and around the argument of a call, which is read with its element. -/
theorem layout_of_parse_spaced_call :
    ∃ expression : Expression,
      parse "x=f ( <a b = 'x' c>t{y}</ a > )".toList = .ok expression ∧
      (expression matches [.code _,
        .call _ ⟨_, [.literal _ _, .bare _], [.text _, .hole [.code _]], _, _, _⟩]) ∧
      expression.toSource = "x=f(<a b='x' c>t{y}</a>)".toList ∧
      expression.Layout "x=f ( <a b = 'x' c>t{y}</ a > )".toList := by
  have hread : ((parse "x=f ( <a b = 'x' c>t{y}</ a > )".toList).toOption.any fun expression =>
      (expression matches [.code _,
        .call _ ⟨_, [.literal _ _, .bare _], [.text _, .hole [.code _]], _, _, _⟩]) &&
        Expression.toSource expression == "x=f(<a b='x' c>t{y}</a>)".toList) = true := by
    decide +kernel
  cases h : parse "x=f ( <a b = 'x' c>t{y}</ a > )".toList with
  | error e =>
    rw [h] at hread
    cases hread
  | ok expression =>
    rw [h] at hread
    obtain ⟨hshape, hsource⟩ := Bool.and_eq_true_iff.1 hread
    exact ⟨expression, rfl, hshape, beq_iff_eq.1 hsource, (layout_of_parse h).1⟩

end JsxTemplate
