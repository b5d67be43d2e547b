import JsxTemplate.Text.Blank
import JsxTemplate.Text.Identifier
import JsxTemplate.Markup.Basic

/-
  Drafts: what has been read of an expression so far. Everything is kept newest first, so that
  looking behind the cursor is looking at the head.
-/

namespace JsxTemplate

/-- The finished nodes, and the code after the last of them that is still growing. -/
structure Draft where
  nodes : List Node
  pending : Text

namespace Draft

def empty : Draft := ⟨[], []⟩

def push (draft : Draft) (c : Char) : Draft := { draft with pending := c :: draft.pending }

def pushAll (draft : Draft) (text : Text) : Draft :=
  { draft with pending := text.reverseAux draft.pending }

/-- Turns pending code, if there is any, into a node. -/
def settle (draft : Draft) : Draft :=
  if draft.pending.isEmpty then draft
  else ⟨.code draft.pending.reverse :: draft.nodes, []⟩

def add (draft : Draft) (node : Node) : Draft :=
  { draft.settle with nodes := node :: draft.settle.nodes }

def finish (draft : Draft) : Expression := draft.settle.nodes.reverse

/-- Whether an expression may begin here, so that a `<` opens an element and does not compare.
Decided by the last character or word of the pending code; with none pending, an expression
begins at the very start, and directly after a node it does not. -/
def atExpressionStart (draft : Draft) : Bool :=
  match draft.pending.dropWhile isBlank with
  | [] => draft.nodes.isEmpty
  | '+' :: '+' :: _ => false
  | '-' :: '-' :: _ => false
  | last :: before =>
    expressionPunctuation.contains last ||
      expressionKeywords.contains ((last :: before).takeWhile isIdentifierChar).reverse

theorem pushAll_append (draft : Draft) (s t : Text) :
    draft.pushAll (s ++ t) = (draft.pushAll s).pushAll t := by
  simp [pushAll, List.reverseAux_eq]

theorem pushAll_pending (draft : Draft) (text : Text) :
    (draft.pushAll text).pending = text.reverse ++ draft.pending := by
  simp [pushAll, List.reverseAux_eq]

theorem pushAll_reverse (draft : Draft) :
    (⟨draft.nodes, []⟩ : Draft).pushAll draft.pending.reverse = draft := by
  simp [pushAll, List.reverseAux_eq]

theorem settle_pending (draft : Draft) : draft.settle.pending = [] := by
  unfold settle
  split
  next h => exact List.isEmpty_iff.1 h
  next => rfl

theorem add_pending (draft : Draft) (node : Node) : (draft.add node).pending = [] :=
  draft.settle_pending

theorem finish_add (draft : Draft) (node : Node) :
    (draft.add node).finish = draft.finish ++ [node] := by
  have h : (draft.add node).pending.isEmpty = true := by rw [add_pending]; rfl
  rw [finish, settle, if_pos h, finish]
  simp [add]

end Draft

end JsxTemplate
