import Mathlib.Data.List.Basic
import JsxTemplate.Proofs.Lexer

/-
  Code that was read on its own, read again in the slot of a template literal. The lexer then counts
  the code around it too (`lift`), and the draft holds what stands before, templates where elements
  were (`Shadows`); neither changes what is copied (`Copies.lift`).
-/

namespace JsxTemplate

/-! ## The lexer -/

namespace Lexer

/-- The lexer with more code around it. -/
def lift (base : List Nat) (lexer : Lexer) : Lexer := { lexer with outer := lexer.outer ++ base }

variable {lexer : Lexer} {base : List Nat} {c : Char}

theorem lift_nil (lexer : Lexer) : lexer.lift [] = lexer := by
  unfold lift
  rw [List.append_nil]

/-- Only a brace that closes nothing shows whether there is code around. -/
theorem codeStep_lift (h : base ≠ [] → lexer.outer = [] → lexer.depth = 0 → c ≠ '}') :
    (lexer.lift base).codeStep c = (lexer.codeStep c).lift base := by
  obtain ⟨mode, depth, outer⟩ := lexer
  by_cases hcloser : isCloser c = true
  · by_cases hend : outer ≠ [] ∧ depth = 0 ∧ c = '}'
    · obtain ⟨houter, rfl, rfl⟩ := hend
      obtain ⟨inner, outer, rfl⟩ := List.exists_cons_of_ne_nil houter
      rfl
    · have hown : outer ≠ [] → depth = 0 → c ≠ '}' := fun houter hdepth hc =>
        hend ⟨houter, hdepth, hc⟩
      have hlift : (lift base ⟨mode, depth, outer⟩).outer ≠ [] → depth = 0 → c ≠ '}' := by
        intro hlift hdepth
        by_cases houter : outer = []
        · subst houter
          exact h hlift rfl hdepth
        · exact hown houter hdepth
      rw [codeStep_closer hcloser hlift, codeStep_closer hcloser hown]
      rfl
  · have hcloser : isCloser c = false := by simpa using hcloser
    simp only [codeStep, hcloser]
    split
    · rfl
    split
    · contradiction
    split
    · rfl
    split
    · rfl
    split <;> rfl

theorem rawStep_lift (lexer : Lexer) (base : List Nat) (c : Char) :
    (lexer.lift base).rawStep c = (lexer.rawStep c).lift base := by
  unfold rawStep
  split
  · rfl
  split
  · rfl
  split <;> rfl

theorem step_lift (rest : Text)
    (h : base ≠ [] → lexer.AtCode (c :: rest) → lexer.outer = [] → lexer.depth = 0 → c ≠ '}') :
    (lexer.lift base).step c = (lexer.step c).lift base := by
  obtain ⟨mode, depth, outer⟩ := lexer
  cases mode with
  | code => exact codeStep_lift fun hbase => h hbase trivial
  | slash =>
    by_cases hcode : AtCode ⟨.slash, depth, outer⟩ (c :: rest)
    · have hlift : (lift base ⟨.slash, depth, outer⟩).AtCode (c :: rest) := hcode
      rw [step_of_atCode hlift, step_of_atCode hcode]
      exact codeStep_lift fun hbase => h hbase hcode
    · simp only [AtCode, List.head?_cons, ne_eq, Option.some.injEq] at hcode
      simp only [step, lift]
      split
      · rfl
      split
      · rfl
      · simp_all
  | line => simp only [step, lift]; split <;> rfl
  | block => simp only [step, lift]; split <;> rfl
  | star =>
    simp only [step, lift]
    split
    · rfl
    split <;> rfl
  | string quote =>
    simp only [step, lift]
    split
    · rfl
    split <;> rfl
  | guarded quote => rfl
  | raw => exact rawStep_lift ..
  | rawGuarded => rfl
  | dollar =>
    by_cases hc : c = '{'
    · subst hc
      rfl
    · have hstep : ∀ outer, step ⟨.dollar, depth, outer⟩ c = rawStep ⟨.dollar, depth, outer⟩ c := by
        intro outer
        simp [step, hc]
      rw [hstep]
      exact (hstep _).trans (rawStep_lift ⟨.dollar, depth, outer⟩ base c)

end Lexer

/-! ## The draft -/

/-- The same pending code, but `out` is in the midst of something: behind a template where the draft
has just read a node, behind the brace that opens the slot where the draft begins. -/
def Draft.Shadows (out draft : Draft) : Prop :=
  ∃ before, out.pending = draft.pending ++ before ∧
    if draft.nodes.isEmpty then before.head? = some '{' ∨ before = [] ∧ out.nodes = []
    else before.head? = some '\x60'

namespace Draft

theorem Shadows.push {out draft : Draft} (h : out.Shadows draft) (c : Char) :
    (out.push c).Shadows (draft.push c) := by
  obtain ⟨before, hpending, hbefore⟩ := h
  refine ⟨before, ?_, hbefore⟩
  rw [Draft.push, Draft.push, hpending]
  rfl

theorem Shadows.pushAll {out draft : Draft} (h : out.Shadows draft) (text : Text) :
    (out.pushAll text).Shadows (draft.pushAll text) := by
  induction text generalizing out draft with
  | nil => exact h
  | cons c text ih => exact ih (h.push c)

/-- A template shadows the node it stands for. -/
theorem Shadows.of_template (out draft : Draft) (template : Template) (node : Node) :
    (out.pushAll template.toSource).Shadows (draft.add node) := by
  refine ⟨_, by rw [add_pending, List.nil_append], ?_⟩
  have hnodes : (draft.add node).nodes.isEmpty = false := rfl
  rw [hnodes, pushAll_pending, Template.toSource]
  simp

theorem Shadows.of_brace {out : Draft} (h : out.pending.head? = some '{') : out.Shadows empty :=
  ⟨out.pending, rfl, .inl h⟩

/-- The last character that is no blank decides, with the one before it if they may be a sign, or
with the word they are in. -/
theorem atExpressionStart_of_last {draft : Draft} {last : Char} {inner : Text}
    (h : draft.pending.dropWhile isBlank = last :: inner) :
    draft.atExpressionStart =
      (!((last == '+' || last == '-') && inner.head? == some last) &&
        (expressionPunctuation.contains last ||
          expressionKeywords.contains ((last :: inner).takeWhile isIdentifierChar).reverse)) := by
  unfold atExpressionStart
  rw [h]
  split
  next heq => cases heq
  next heq => cases heq; rfl
  next heq => cases heq; rfl
  next hplus hminus heq =>
    cases heq
    have hsign : ((last == '+' || last == '-') && inner.head? == some last) = false := by
      rw [Bool.eq_false_iff]
      intro hsign
      simp only [Bool.and_eq_true, Bool.or_eq_true, beq_iff_eq] at hsign
      obtain ⟨hlast, hhead⟩ := hsign
      obtain ⟨rest, rfl⟩ := List.head?_eq_some_iff.1 hhead
      rcases hlast with rfl | rfl
      · exact hplus _ rfl rfl
      · exact hminus _ rfl rfl
    rw [hsign]
    rfl

/-- What stands before the pending code does not matter, if it is neither sign nor name. -/
theorem atExpressionStart_append {nodes nodes' : List Node} {pending before : Text}
    (hpending : pending.dropWhile isBlank ≠ [])
    (hbefore : ∀ c ∈ before.head?, c ≠ '+' ∧ c ≠ '-' ∧ isIdentifierChar c = false) :
    atExpressionStart ⟨nodes, pending ++ before⟩ = atExpressionStart ⟨nodes', pending⟩ := by
  obtain ⟨last, inner, hinner⟩ := List.exists_cons_of_ne_nil hpending
  have hword : (last :: (inner ++ before)).takeWhile isIdentifierChar =
      (last :: inner).takeWhile isIdentifierChar := by
    rw [← List.cons_append, List.takeWhile_append]
    split
    next hall =>
      have hnone : before.takeWhile isIdentifierChar = [] := by
        cases before with
        | nil => rfl
        | cons c before => exact List.takeWhile_cons_of_neg (by simp [(hbefore c rfl).2.2])
      rw [hnone, List.append_nil]
      exact ((List.takeWhile_prefix _).eq_of_length hall).symm
    next => rfl
  have hsign : ((last == '+' || last == '-') && (inner ++ before).head? == some last) =
      ((last == '+' || last == '-') && inner.head? == some last) := by
    cases inner with
    | cons d inner => rfl
    | nil =>
      cases before with
      | nil => rfl
      | cons c before =>
        obtain ⟨hplus, hminus, -⟩ := hbefore c rfl
        by_cases hlast : last = '+' ∨ last = '-'
        · rcases hlast with rfl | rfl <;> simp [hplus, hminus]
        · simp_all
  have hdrop : (pending ++ before).dropWhile isBlank = last :: (inner ++ before) := by
    rw [List.dropWhile_append, if_neg (by simpa using hpending), hinner]
    rfl
  rw [atExpressionStart_of_last hdrop, atExpressionStart_of_last hinner, hword, hsign]

/-- An expression begins in the shadow where it begins in the draft. -/
theorem Shadows.atExpressionStart {out draft : Draft} (h : out.Shadows draft) :
    out.atExpressionStart = draft.atExpressionStart := by
  obtain ⟨nodes, pending⟩ := draft
  obtain ⟨outNodes, outPending⟩ := out
  obtain ⟨before, rfl, hbefore⟩ := h
  by_cases hblank : pending.dropWhile isBlank = []
  -- Nothing but blanks is pending, so that what stands before them decides.
  · have hdrop : (pending ++ before).dropWhile isBlank = before.dropWhile isBlank := by
      rw [List.dropWhile_append, if_pos (by simpa using hblank)]
    have hdraft : Draft.atExpressionStart ⟨nodes, pending⟩ = nodes.isEmpty := by
      unfold Draft.atExpressionStart
      rw [hblank]
    rw [hdraft]
    split at hbefore
    next hnodes =>
      rw [hnodes]
      rcases hbefore with hbrace | ⟨rfl, rfl⟩
      · obtain ⟨rest, rfl⟩ := List.head?_eq_some_iff.1 hbrace
        rw [atExpressionStart_of_last hdrop]
        rfl
      · unfold Draft.atExpressionStart
        rw [hdrop]
        rfl
    next hnodes =>
      obtain ⟨rest, rfl⟩ := List.head?_eq_some_iff.1 hbefore
      rw [atExpressionStart_of_last hdrop]
      rw [Bool.not_eq_true] at hnodes
      rw [hnodes]
      rfl
  · apply atExpressionStart_append hblank
    intro c hc
    split at hbefore
    · rcases hbefore with hbrace | ⟨rfl, -⟩
      · rw [hbrace] at hc
        cases hc
        decide
      · cases hc
    · rw [hbefore] at hc
      cases hc
      decide

end Draft

/-! ## Copying -/

namespace Lexer

variable {close : Option Char} {lexer : Lexer} {draft out : Draft} {base : List Nat}

/-- What stands behind a stretch of code, where a template may have taken the place of an
element. -/
def Follows (rest rest' : Text) : Prop := rest'.head? = rest.head? ∨ rest'.head? = some '\x60'

theorem Takes.lift (hshadows : out.Shadows draft) {c : Char} {rest rest' : Text}
    (hrest : Follows rest rest') (h : lexer.Takes close draft (c :: rest)) :
    (lexer.lift base).Takes none out (c :: rest') where
  goesOn := by
    rintro - ⟨-, -, d, hd, -⟩
    cases hd
  opensNothing := by
    intro hcode hlt
    obtain rfl : c = '<' := by simpa using hlt
    rcases hrest with hrest | hrest
    · have hopens := h.opensNothing hcode rfl
      rw [opensElement_congr hrest, ← hopens, Reader.opensElement, Reader.opensElement,
        hshadows.atExpressionStart]
    · obtain ⟨rest', rfl⟩ := List.head?_eq_some_iff.1 hrest
      rfl
  unbroken := h.unbroken

/-- What is copied on its own is copied in a slot. -/
theorem Copies.lift (hshadows : out.Shadows draft) (hbase : base ≠ [] → close = some '}')
    {text rest rest' : Text} (hrest : Follows rest rest') (h : lexer.Copies close draft text rest) :
    (lexer.lift base).Copies none out text rest' ∧
      (lexer.lift base).after text = (lexer.after text).lift base := by
  induction text generalizing lexer draft out with
  | nil => exact ⟨trivial, rfl⟩
  | cons c text ih =>
    -- The brace that ends the slot is the one at which the code stopped on its own.
    have hstep : (lexer.lift base).step c = (lexer.step c).lift base := by
      apply step_lift (text ++ rest)
      rintro hne hcode houter hdepth rfl
      exact h.1.goesOn hcode ⟨houter, hdepth, '}', hbase hne, rfl, rfl⟩
    have hfollows : Follows (text ++ rest) (text ++ rest') := by
      cases text with
      | nil => exact hrest
      | cons d text => exact .inl rfl
    obtain ⟨hcopies, hafter⟩ := ih (hshadows.push c) h.2
    rw [after_cons, hstep]
    exact ⟨⟨h.1.lift hshadows hfollows, hstep ▸ hcopies⟩, hafter⟩

end Lexer

end JsxTemplate
