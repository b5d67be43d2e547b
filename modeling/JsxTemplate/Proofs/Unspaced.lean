import JsxTemplate.Markup.Printer
import JsxTemplate.Proofs.Layout

/-
  Texts up to blanks. A layout differs from the printed expression only in blanks: without them the
  two are the same text (`Element.Layout.unspaced`).
-/

namespace JsxTemplate

/-- A text without its blanks. -/
def Text.unspaced (text : Text) : Text := text.filter fun c => !JsxTemplate.isBlank c

theorem unspaced_append (s t : Text) : Text.unspaced (s ++ t) = s.unspaced ++ t.unspaced :=
  List.filter_append ..

theorem unspaced_nil : Text.unspaced [] = [] := rfl

theorem unspaced_cons {c : Char} (h : isBlank c = false) (text : Text) :
    Text.unspaced (c :: text) = c :: text.unspaced :=
  List.filter_cons_of_pos (by simp [h])

theorem unspaced_of_isBlank {text : Text} (h : text.isBlank) : text.unspaced = [] := by
  unfold Text.unspaced
  rw [List.filter_eq_nil_iff]
  intro c hc
  simp [List.all_eq_true.1 h c hc]

/-- The blank that the printer writes before an attribute. -/
theorem unspaced_blank (text : Text) : Text.unspaced (' ' :: text) = text.unspaced :=
  List.filter_cons_of_neg (by decide)

mutual

theorem Element.Layout.unspaced : ∀ {element : Element} {text : Text}, element.Layout text →
    text.unspaced = element.toSource.unspaced
  | ⟨tag, attributes, children, selfClosing, closing, span⟩, text, h => by
    unfold Element.Layout at h
    obtain ⟨inside, hinside, h⟩ := h
    have hattributes := attributesLayout_unspaced hinside
    rw [Element.toSource]
    split at h
    next hself =>
      obtain ⟨-, -, rfl⟩ := h
      rw [if_pos hself]
      simp (disch := decide) only [unspaced_append, unspaced_cons, unspaced_nil, hattributes,
        List.cons_append, List.nil_append, List.append_assoc]
    next hself =>
      obtain ⟨rfl, content, before, behind, hcontent, hbefore, hbehind, rfl⟩ := h
      have hchildren := childrenLayout_unspaced hcontent
      rw [if_neg hself, closingSource]
      simp (disch := decide) only [unspaced_append, unspaced_cons, unspaced_nil, hattributes,
        hchildren, unspaced_of_isBlank hbefore, unspaced_of_isBlank hbehind, List.cons_append,
        List.nil_append, List.append_assoc]

theorem attributesLayout_unspaced : ∀ {attributes : List Attribute} {named : Bool} {text : Text},
    attributesLayout named attributes text → text.unspaced = (attributesSource attributes).unspaced
  | [], named, text, h => by
    unfold attributesLayout at h
    rw [unspaced_of_isBlank h, attributesSource]
    rfl
  | a :: attributes, named, text, h => by
    unfold attributesLayout at h
    obtain ⟨blanks, own, rest, hblanks, -, hown, hrest, rfl⟩ := h
    rw [attributesSource, unspaced_append, unspaced_append, unspaced_append,
      unspaced_of_isBlank hblanks, hown.unspaced, attributesLayout_unspaced hrest]
    rfl

theorem Attribute.Layout.unspaced : ∀ {a : Attribute} {text : Text}, a.Layout text →
    text.unspaced = a.toSource.unspaced
  | .literal name raw, text, h => by
    unfold Attribute.Layout at h
    obtain ⟨before, behind, hbefore, hbehind, rfl⟩ := h
    rw [Attribute.toSource]
    simp (disch := decide) only [unspaced_append, unspaced_cons, unspaced_blank,
      unspaced_of_isBlank hbefore, unspaced_of_isBlank hbehind, List.cons_append, List.nil_append,
      List.append_assoc]
  | .hole name nodes, text, h => by
    unfold Attribute.Layout at h
    obtain ⟨before, behind, code, hbefore, hbehind, hcode, rfl⟩ := h
    have hnodes := nodesLayout_unspaced hcode
    rw [Attribute.toSource]
    simp (disch := decide) only [unspaced_append, unspaced_cons, unspaced_nil, unspaced_blank,
      unspaced_of_isBlank hbefore, unspaced_of_isBlank hbehind, hnodes, List.cons_append,
      List.nil_append, List.append_assoc]
  | .bare name, text, h => by
    unfold Attribute.Layout at h
    rw [h, Attribute.toSource, unspaced_append]
    rfl

theorem Child.Layout.unspaced : ∀ {child : Child} {text : Text}, child.Layout text →
    text.unspaced = child.toSource.unspaced
  | .element element, text, h => by
    unfold Child.Layout at h
    rw [Child.toSource, h.unspaced]
  | .text own, text, h => by
    unfold Child.Layout at h
    rw [Child.toSource, h]
  | .hole nodes, text, h => by
    unfold Child.Layout at h
    obtain ⟨code, hcode, rfl⟩ := h
    have hnodes := nodesLayout_unspaced hcode
    rw [Child.toSource]
    simp (disch := decide) only [unspaced_append, unspaced_cons, unspaced_nil, hnodes,
      List.cons_append, List.nil_append]

theorem childrenLayout_unspaced : ∀ {children : List Child} {text : Text},
    childrenLayout children text → text.unspaced = (childrenSource children).unspaced
  | [], text, h => by
    unfold childrenLayout at h
    rw [h, childrenSource]
  | child :: children, text, h => by
    unfold childrenLayout at h
    obtain ⟨own, rest, hown, hrest, rfl⟩ := h
    rw [childrenSource, unspaced_append, unspaced_append, hown.unspaced,
      childrenLayout_unspaced hrest]

theorem Node.Layout.unspaced : ∀ {node : Node} {text : Text}, node.Layout text →
    text.unspaced = node.toSource.unspaced
  | .code own, text, h => by
    unfold Node.Layout at h
    rw [h, Node.toSource]
  | .markup element, text, h => by
    unfold Node.Layout at h
    rw [Node.toSource, h.unspaced]
  | .call callee element, text, h => by
    unfold Node.Layout at h
    obtain ⟨before, behind, own, blanks, hbefore, hbehind, hblanks, hown, rfl⟩ := h
    have helement := hown.unspaced
    rw [Node.toSource]
    simp (disch := decide) only [unspaced_append, unspaced_cons, unspaced_nil, helement,
      unspaced_of_isBlank hbefore, unspaced_of_isBlank hbehind, unspaced_of_isBlank hblanks,
      List.cons_append, List.nil_append, List.append_assoc]
  | .template _, text, h => by
    unfold Node.Layout at h
    exact h.elim
  | .tagged _ _, text, h => by
    unfold Node.Layout at h
    exact h.elim

theorem nodesLayout_unspaced : ∀ {nodes : List Node} {text : Text}, nodesLayout nodes text →
    text.unspaced = (nodesSource nodes).unspaced
  | [], text, h => by
    unfold nodesLayout at h
    rw [h, nodesSource]
  | node :: nodes, text, h => by
    unfold nodesLayout at h
    obtain ⟨own, rest, hown, hrest, rfl⟩ := h
    rw [nodesSource, unspaced_append, unspaced_append, hown.unspaced, nodesLayout_unspaced hrest]

end

end JsxTemplate
