import JsxTemplate.Proofs.Reprinting

/-
  A line comment begins with two slashes. Where a source has no two slashes next to each other, the
  lexer enters no line comment (`Quiet.after`), and no callee can be the end of one
  (`nodesSpelled_uncommented_of_quiet`).
-/

namespace JsxTemplate

/-- Two slashes next to each other. -/
def Text.HasDoubleSlash (text : Text) : Prop := ['/', '/'] <:+: text

namespace Lexer

/-- Neither in a line comment nor about to enter one. -/
def Quiet (lexer : Lexer) (rest : Text) : Prop :=
  lexer.mode ≠ .line ∧ (lexer.mode = .slash → rest.head? ≠ some '/')

theorem quiet_of_mode {lexer : Lexer} {rest : Text} (hline : lexer.mode ≠ .line)
    (hslash : lexer.mode ≠ .slash) : lexer.Quiet rest :=
  ⟨hline, fun h => absurd h hslash⟩

theorem quiet_initial (rest : Text) : initial.Quiet rest := quiet_of_mode nofun nofun

theorem quiet_inCode (lexer : Lexer) (rest : Text) : lexer.inCode.Quiet rest :=
  quiet_of_mode nofun nofun

theorem quiet_codeStep {c : Char} {rest : Text} (h : c = '/' → rest.head? ≠ some '/')
    (lexer : Lexer) : (lexer.codeStep c).Quiet rest := by
  unfold codeStep
  split
  · exact quiet_of_mode nofun nofun
  split
  · split
    · exact quiet_of_mode nofun nofun
    · split <;> exact quiet_of_mode nofun nofun
  split
  · exact quiet_of_mode nofun nofun
  split
  · exact quiet_of_mode nofun nofun
  split
  next hc => exact ⟨nofun, fun _ => h (by simpa using hc)⟩
  next => exact quiet_of_mode nofun nofun

theorem quiet_rawStep (lexer : Lexer) (c : Char) (rest : Text) : (lexer.rawStep c).Quiet rest := by
  unfold rawStep
  split
  · exact quiet_of_mode nofun nofun
  split
  · exact quiet_of_mode nofun nofun
  split <;> exact quiet_of_mode nofun nofun

theorem Quiet.step {lexer : Lexer} {c : Char} {rest : Text} (h : lexer.Quiet (c :: rest))
    (hrest : c = '/' → rest.head? ≠ some '/') : (lexer.step c).Quiet rest := by
  obtain ⟨mode, depth, outer⟩ := lexer
  obtain ⟨hline, hslash⟩ := h
  unfold Lexer.step
  cases mode with
  | code => exact quiet_codeStep hrest _
  | slash =>
    have hc : c ≠ '/' := by simpa using hslash rfl
    dsimp only
    rw [if_neg (by simpa using hc)]
    split
    · exact quiet_of_mode nofun nofun
    · exact quiet_codeStep hrest _
  | line => exact absurd rfl hline
  | block => dsimp only; split <;> exact quiet_of_mode nofun nofun
  | star =>
    dsimp only
    split
    · exact quiet_of_mode nofun nofun
    split <;> exact quiet_of_mode nofun nofun
  | string quote =>
    dsimp only
    split
    · exact quiet_of_mode nofun nofun
    split <;> exact quiet_of_mode nofun nofun
  | guarded quote => exact quiet_of_mode nofun nofun
  | raw => exact quiet_rawStep ..
  | rawGuarded => exact quiet_of_mode nofun nofun
  | dollar =>
    dsimp only
    split
    · exact quiet_of_mode nofun nofun
    · exact quiet_rawStep ..

/-- Without two slashes no line comment begins. -/
theorem Quiet.after {lexer : Lexer} {text rest : Text} (h : lexer.Quiet (text ++ rest))
    (hno : ¬ Text.HasDoubleSlash (text ++ rest)) : (lexer.after text).Quiet rest := by
  induction text generalizing lexer with
  | nil => exact h
  | cons c text ih =>
    have hrest : c = '/' → (text ++ rest).head? ≠ some '/' := by
      rintro rfl hhead
      obtain ⟨tail, htail⟩ := List.head?_eq_some_iff.1 hhead
      exact hno ⟨[], tail, by rw [List.cons_append, htail]; rfl⟩
    exact ih (h.step hrest) fun hcomment => hno (hcomment.trans (List.suffix_cons ..).isInfix)

end Lexer

/-- A part of a text without line comments has none. -/
theorem not_hasDoubleSlash_part {text own : Text} (hno : ¬ text.HasDoubleSlash)
    (before behind : Text) (h : text = before ++ own ++ behind) : ¬ own.HasDoubleSlash :=
  fun hcomment => hno (hcomment.trans ⟨before, behind, h.symm⟩)

mutual

theorem Element.Spelled.uncommented_of_quiet : ∀ {element : Element} {own : Text},
    element.Spelled own → ¬ own.HasDoubleSlash → element.uncommented = true
  | ⟨tag, attributes, children, selfClosing, closing, span⟩, own, h, hno => by
    unfold Element.Spelled at h
    obtain ⟨-, -, inside, hinside, h⟩ := h
    rw [Element.uncommented, Bool.and_eq_true]
    cases selfClosing with
    | true =>
      obtain ⟨rfl, -, rfl⟩ := h
      have hnone : ¬ inside.HasDoubleSlash :=
        not_hasDoubleSlash_part hno ('<' :: tag) ['/', '>'] rfl
      exact ⟨attributesSpelled_uncommented_of_quiet hinside hnone, rfl⟩
    | false =>
      obtain ⟨-, content, hcontent, rfl⟩ := h
      have hnone : ¬ inside.HasDoubleSlash :=
        not_hasDoubleSlash_part hno ('<' :: tag) ('>' :: content) rfl
      have hnone' : ¬ content.HasDoubleSlash :=
        not_hasDoubleSlash_part hno ('<' :: tag ++ inside ++ ['>']) [] (by simp)
      exact ⟨attributesSpelled_uncommented_of_quiet hinside hnone,
        childrenSpelled_uncommented_of_quiet hcontent hnone'⟩

theorem attributesSpelled_uncommented_of_quiet : ∀ {attributes : List Attribute} {named : Bool}
    {inside : Text}, attributesSpelled named attributes inside → ¬ inside.HasDoubleSlash →
    attributesUncommented attributes = true
  | [], named, inside, _, _ => rfl
  | a :: attributes, named, inside, h, hno => by
    unfold attributesSpelled at h
    obtain ⟨blanks, own, rest, -, -, hown, hrest, rfl⟩ := h
    have hnone : ¬ own.HasDoubleSlash := not_hasDoubleSlash_part hno blanks rest rfl
    have hnone' : ¬ rest.HasDoubleSlash := not_hasDoubleSlash_part hno (blanks ++ own) [] (by simp)
    rw [attributesUncommented, Bool.and_eq_true]
    exact ⟨hown.uncommented_of_quiet hnone, attributesSpelled_uncommented_of_quiet hrest hnone'⟩

theorem Attribute.Spelled.uncommented_of_quiet : ∀ {a : Attribute} {own : Text}, a.Spelled own →
    ¬ own.HasDoubleSlash → a.uncommented = true
  | .literal name raw, own, _, _ => rfl
  | .hole name nodes, own, h, hno => by
    unfold Attribute.Spelled at h
    obtain ⟨-, before, behind, code, -, -, hcode, rfl⟩ := h
    have hnone : ¬ code.HasDoubleSlash :=
      not_hasDoubleSlash_part hno (name ++ before ++ '=' :: behind ++ ['{']) ['}'] (by simp)
    unfold Attribute.uncommented
    exact nodesSpelled_uncommented_of_quiet hcode Lexer.proper_initial
      (Lexer.quiet_initial code) hnone
  | .bare name, own, _, _ => rfl

theorem childrenSpelled_uncommented_of_quiet : ∀ {children : List Child} {tag : Text}
    {texted : Bool} {content : Text}, childrenSpelled tag texted children content →
    ¬ content.HasDoubleSlash → childrenUncommented children = true
  | [], tag, texted, content, _, _ => rfl
  | .element element :: children, tag, texted, content, h, hno => by
    unfold childrenSpelled at h
    obtain ⟨own, rest, hown, hrest, rfl⟩ := h
    have hnone : ¬ own.HasDoubleSlash := not_hasDoubleSlash_part hno [] rest rfl
    have hnone' : ¬ rest.HasDoubleSlash := not_hasDoubleSlash_part hno own [] (by simp)
    rw [childrenUncommented, Bool.and_eq_true]
    exact ⟨hown.uncommented_of_quiet hnone, childrenSpelled_uncommented_of_quiet hrest hnone'⟩
  | .text own :: children, tag, texted, content, h, hno => by
    unfold childrenSpelled at h
    obtain ⟨-, -, -, rest, hrest, rfl⟩ := h
    have hnone : ¬ rest.HasDoubleSlash := not_hasDoubleSlash_part hno own [] (by simp)
    rw [childrenUncommented, Bool.and_eq_true]
    exact ⟨rfl, childrenSpelled_uncommented_of_quiet hrest hnone⟩
  | .hole nodes :: children, tag, texted, content, h, hno => by
    unfold childrenSpelled at h
    obtain ⟨code, rest, hcode, hrest, rfl⟩ := h
    have hnone : ¬ code.HasDoubleSlash := not_hasDoubleSlash_part hno ['{'] ('}' :: rest) rfl
    have hnone' : ¬ rest.HasDoubleSlash :=
      not_hasDoubleSlash_part hno ('{' :: code ++ ['}']) [] (by simp)
    rw [childrenUncommented, Bool.and_eq_true, Child.uncommented]
    exact ⟨nodesSpelled_uncommented_of_quiet hcode Lexer.proper_initial
      (Lexer.quiet_initial code) hnone, childrenSpelled_uncommented_of_quiet hrest hnone'⟩

theorem nodesSpelled_uncommented_of_quiet : ∀ {nodes : List Node} {close : Option Char}
    {lexer : Lexer} {draft : Draft} {text : Text}, nodesSpelled close lexer draft nodes text →
    lexer.Proper → lexer.Quiet text → ¬ text.HasDoubleSlash → nodesUncommented lexer nodes = true
  | [], close, lexer, draft, text, _, _, _, _ => rfl
  | .code own :: nodes, close, lexer, draft, text, h, hproper, hquiet, hno => by
    unfold nodesSpelled at h
    obtain ⟨-, -, rest, -, hrest, rfl⟩ := h
    have hnone : ¬ rest.HasDoubleSlash := not_hasDoubleSlash_part hno own [] (by simp)
    unfold nodesUncommented
    exact nodesSpelled_uncommented_of_quiet hrest (hproper.after own) (hquiet.after hno) hnone
  | .markup element :: nodes, close, lexer, draft, text, h, hproper, hquiet, hno => by
    unfold nodesSpelled at h
    obtain ⟨own, rest, hown, -, -, -, hrest, rfl⟩ := h
    have hnone : ¬ own.HasDoubleSlash := not_hasDoubleSlash_part hno [] rest rfl
    have hnone' : ¬ rest.HasDoubleSlash := not_hasDoubleSlash_part hno own [] (by simp)
    rw [nodesUncommented, Bool.and_eq_true]
    exact ⟨hown.uncommented_of_quiet hnone, nodesSpelled_uncommented_of_quiet hrest
      (Lexer.proper_inCode lexer) (Lexer.quiet_inCode lexer rest) hnone'⟩
  | .call callee element :: nodes, close, lexer, draft, text, h, hproper, hquiet, hno => by
    unfold nodesSpelled at h
    obtain ⟨before, behind, own, blanks, rest, hbefore, hbehind, -, hown, -, hcode, -, -, hrest,
      htext⟩ := h
    have hnone : ¬ own.HasDoubleSlash :=
      not_hasDoubleSlash_part hno (callee ++ before ++ '(' :: behind) (blanks ++ ')' :: rest)
        (by simp [htext])
    have hnone' : ¬ rest.HasDoubleSlash :=
      not_hasDoubleSlash_part hno (callee ++ before ++ '(' :: behind ++ own ++ blanks ++ [')']) []
        (by simp [htext])
    have hline : (lexer.after callee).mode ≠ .line := by
      have hcallee : text =
          callee ++ (before ++ '(' :: behind ++ own ++ blanks ++ ')' :: rest) := by
        simp [htext]
      rw [hcallee] at hquiet hno
      exact (hquiet.after hno).1
    have hopen := open_of_uncommented hproper hbefore hbehind hcode hline
    rw [leaveCall_after hopen hbefore hbehind] at hrest
    simp only [nodesUncommented, Bool.and_eq_true, bne_iff_ne]
    exact ⟨⟨hline, hown.uncommented_of_quiet hnone⟩, nodesSpelled_uncommented_of_quiet hrest
      (Lexer.proper_inCode _) (Lexer.quiet_inCode _ rest) hnone'⟩
  | .template _ :: nodes, close, lexer, draft, text, h, _, _, _ => by
    unfold nodesSpelled at h
    exact h.elim
  | .tagged _ _ :: nodes, close, lexer, draft, text, h, _, _, _ => by
    unfold nodesSpelled at h
    exact h.elim

end

end JsxTemplate
