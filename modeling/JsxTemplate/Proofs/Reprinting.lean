import JsxTemplate.Proofs.Completeness

/-
  Printing an expression that was read, and reading it again. The printer drops the blanks around
  the parenthesis of a call. Those may hold the newline that ends a line comment: a callee is looked
  for in comments too, so that one of them can be taken for a callee, and then the printed call
  stands in the comment. `parse_toSource_iff`: nothing else goes wrong.
-/

namespace JsxTemplate

mutual

/-- No callee in the element is the end of a line comment. -/
def Element.uncommented : Element → Bool
  | ⟨_, attributes, children, _, _, _⟩ =>
    attributesUncommented attributes && childrenUncommented children

def Attribute.uncommented : Attribute → Bool
  | .literal _ _ => true
  | .hole _ nodes => nodesUncommented .initial nodes
  | .bare _ => true

def attributesUncommented : List Attribute → Bool
  | [] => true
  | a :: attributes => a.uncommented && attributesUncommented attributes

def Child.uncommented : Child → Bool
  | .element element => element.uncommented
  | .text _ => true
  | .hole nodes => nodesUncommented .initial nodes

def childrenUncommented : List Child → Bool
  | [] => true
  | child :: children => child.uncommented && childrenUncommented children

/-- No callee in the nodes is the end of a line comment, where the code before them leaves the
lexer as given. -/
def nodesUncommented : Lexer → List Node → Bool
  | _, [] => true
  | lexer, .code own :: nodes => nodesUncommented (lexer.after own) nodes
  | lexer, .markup element :: nodes =>
    element.uncommented && nodesUncommented lexer.inCode nodes
  | lexer, .call callee element :: nodes =>
    (lexer.after callee).mode != .line && element.uncommented &&
      nodesUncommented (lexer.after callee).inCode nodes
  | lexer, .template _ :: nodes => nodesUncommented lexer nodes
  | lexer, .tagged _ _ :: nodes => nodesUncommented lexer nodes

end

/-- No callee is the end of a line comment. -/
def Expression.uncommented (expression : Expression) : Bool :=
  nodesUncommented .initial expression

/-! ## Calls with blanks and without -/

theorem aroundCall_of_mem {before behind : Text} (hbefore : before.isBlank)
    (hbehind : behind.isBlank) :
    ∀ c ∈ before ++ '(' :: behind, Lexer.aroundCall c = true := by
  intro c hc
  have hblank : ∀ {blanks : Text}, blanks.isBlank → c ∈ blanks → Lexer.aroundCall c = true := by
    intro blanks hb hmem
    rw [Lexer.aroundCall, List.all_eq_true.1 hb c hmem]
    rfl
  rcases List.mem_append.1 hc with hc | hc
  · exact hblank hbefore hc
  · rcases List.mem_cons.1 hc with rfl | hc
    · rfl
    · exact hblank hbehind hc

section Call

variable {close : Option Char} {lexer : Lexer} {draft : Draft} {callee before behind own : Text}

/-- A callee that is not the end of a line comment ends in code. -/
theorem open_of_uncommented (hproper : lexer.Proper) (hbefore : before.isBlank)
    (hbehind : behind.isBlank)
    (hcode : (lexer.after (callee ++ before ++ '(' :: behind)).AtCode own)
    (hline : (lexer.after callee).mode ≠ .line) : (lexer.after callee).Open := by
  rw [List.append_assoc, Lexer.after_append] at hcode
  have haround := aroundCall_of_mem hbefore hbehind
  rcases Lexer.mode_of_aroundCall (hproper.after callee) haround hcode with hm | hm | hm
  · exact .inl hm
  · exact .inr hm
  · exact absurd hm hline

/-- Behind the call, the lexer is where it was behind the callee. -/
theorem leaveCall_after (hopen : (lexer.after callee).Open) (hbefore : before.isBlank)
    (hbehind : behind.isBlank) :
    (lexer.after (callee ++ before ++ '(' :: behind)).leaveCall = (lexer.after callee).inCode := by
  rw [List.append_assoc, Lexer.after_append, hopen.after_paren hbefore hbehind]
  rfl

/-- The callee and its parenthesis are copied without the blanks too. -/
theorem copies_callee {own' : Text} (hopen : (lexer.after callee).Open)
    (hcopies : lexer.Copies close draft (callee ++ before ++ '(' :: behind) own)
    (hlast : ∀ c ∈ callee.getLast?, c ≠ '<') : lexer.Copies close draft (callee ++ ['(']) own' := by
  rw [List.append_assoc, Lexer.copies_append] at hcopies
  rw [Lexer.copies_append]
  refine ⟨hcopies.1.congr_of_last hlast, Lexer.takes_of_atCode ?_ (fun h => absurd h (by decide))
    (fun h => absurd h (by decide)), trivial⟩
  rcases hopen with hm | hm <;> simp [Lexer.AtCode, hm]

end Call

/-! ## What nodes begin with -/

theorem Element.toSource_head {element : Element} {own : Text} (h : element.Spelled own) :
    ∃ c inner inner', own = '<' :: c :: inner ∧ element.toSource = '<' :: c :: inner' := by
  obtain ⟨tag, attributes, children, selfClosing, closing, span⟩ := element
  unfold Element.Spelled at h
  obtain ⟨hne, -, inside, -, h⟩ := h
  cases tag with
  | nil => exact absurd rfl hne
  | cons c tag =>
    have hsource : ∃ inner', Element.toSource
        ⟨c :: tag, attributes, children, selfClosing, closing, span⟩ = '<' :: c :: inner' := by
      rw [Element.toSource]
      exact ⟨_, rfl⟩
    obtain ⟨inner', hinner'⟩ := hsource
    cases selfClosing with
    | true => exact ⟨c, _, inner', h.2.2, hinner'⟩
    | false =>
      obtain ⟨-, content, -, rfl⟩ := h
      exact ⟨c, _, inner', rfl, hinner'⟩

theorem Attribute.toSource_head {a : Attribute} {own : Text} (h : a.Spelled own) :
    ∃ c inner inner', own = c :: inner ∧ a.toSource = ' ' :: c :: inner' ∧
      isAttributeStart c = true := by
  cases a with
  | literal name raw =>
    unfold Attribute.Spelled at h
    obtain ⟨⟨⟨c, tail, rfl, hc⟩, -⟩, -, before, behind, -, -, rfl⟩ := h
    rw [Attribute.toSource]
    exact ⟨c, _, _, rfl, rfl, hc⟩
  | hole name nodes =>
    unfold Attribute.Spelled at h
    obtain ⟨⟨⟨c, tail, rfl, hc⟩, -⟩, before, behind, code, -, -, -, rfl⟩ := h
    rw [Attribute.toSource]
    exact ⟨c, _, _, rfl, rfl, hc⟩
  | bare name =>
    unfold Attribute.Spelled at h
    obtain ⟨⟨⟨c, tail, rfl, hc⟩, -⟩, rfl⟩ := h
    rw [Attribute.toSource]
    exact ⟨c, _, _, rfl, rfl, hc⟩

/-- Printed nodes begin as they are spelled, seen with blanks or past them. -/
theorem nodesSpelled_head {close : Option Char} : ∀ {nodes : List Node} {lexer : Lexer}
    {draft : Draft} {text : Text}, nodesSpelled close lexer draft nodes text → ∀ tail : Text,
    (text ++ tail).head? = (nodesSource nodes ++ tail).head? ∧
      ((text ++ tail).dropWhile isBlank).head? =
        ((nodesSource nodes ++ tail).dropWhile isBlank).head?
  | [], lexer, draft, text, h, tail => by
    unfold nodesSpelled at h
    rw [h.2, nodesSource]
    exact ⟨rfl, rfl⟩
  | .code own :: nodes, lexer, draft, text, h, tail => by
    unfold nodesSpelled at h
    obtain ⟨hne, -, rest, -, hrest, rfl⟩ := h
    obtain ⟨-, hblanks⟩ := nodesSpelled_head hrest tail
    rw [nodesSource, Node.toSource, List.append_assoc, List.append_assoc]
    have hhead : ∀ {text : Text}, text ≠ [] → ∀ rest rest' : Text,
        (text ++ rest).head? = (text ++ rest').head? := by
      intro text hne rest rest'
      cases text with
      | nil => exact absurd rfl hne
      | cons c text => rfl
    have hdrop : ∀ rest : Text, (own ++ rest).dropWhile isBlank =
        if (own.dropWhile isBlank).isEmpty then rest.dropWhile isBlank
        else own.dropWhile isBlank ++ rest := fun rest => List.dropWhile_append
    refine ⟨hhead hne _ _, ?_⟩
    rw [hdrop, hdrop]
    split
    · exact hblanks
    next hown => exact hhead (by simpa using hown) _ _
  | .markup element :: nodes, lexer, draft, text, h, tail => by
    unfold nodesSpelled at h
    obtain ⟨own, rest, hown, -, -, -, -, rfl⟩ := h
    obtain ⟨c, inner, inner', rfl, hsource⟩ := Element.toSource_head hown
    rw [nodesSource, Node.toSource, hsource]
    exact ⟨rfl, rfl⟩
  | .call callee element :: nodes, lexer, draft, text, h, tail => by
    unfold nodesSpelled at h
    obtain ⟨before, behind, own, blanks, rest, -, -, -, -, -, -, -, hpending, -, rfl⟩ := h
    obtain ⟨c, name, hname, hc⟩ := Callee.ofPending?_head hpending
    have hname : callee = c :: name := hname
    have hblank := not_isBlank_of_isIdentifierChar hc
    rw [nodesSource, Node.toSource, hname]
    simp [hblank]
  | .template _ :: nodes, lexer, draft, text, h, tail => by
    unfold nodesSpelled at h
    exact h.elim
  | .tagged _ _ :: nodes, lexer, draft, text, h, tail => by
    unfold nodesSpelled at h
    exact h.elim

/-! ## Printed expressions are spelled -/

mutual

theorem Element.Spelled.toSource : ∀ {element : Element} {own : Text}, element.Spelled own →
    element.uncommented = true → element.Spelled element.toSource
  | ⟨tag, attributes, children, selfClosing, closing, span⟩, own, h, hun => by
    rw [Element.uncommented, Bool.and_eq_true] at hun
    unfold Element.Spelled at h
    obtain ⟨hne, htag, inside, hinside, h⟩ := h
    rw [Element.toSource, Element.Spelled]
    refine ⟨hne, htag, attributesSource attributes, attributesSpelled_toSource hinside hun.1 true,
      ?_⟩
    cases selfClosing with
    | true =>
      obtain ⟨hchildren, hclosing, -⟩ := h
      exact ⟨hchildren, hclosing, rfl⟩
    | false =>
      obtain ⟨rfl, content, hcontent, -⟩ := h
      refine ⟨rfl, childrenSource children ++ closingSource (some tag),
        childrenSpelled_toSource hcontent hun.2, ?_⟩
      simp

theorem attributesSpelled_toSource : ∀ {attributes : List Attribute} {named : Bool} {inside : Text},
    attributesSpelled named attributes inside → attributesUncommented attributes = true →
    ∀ named', attributesSpelled named' attributes (attributesSource attributes)
  | [], named, inside, h, hun, named' => by
    rw [attributesSource, attributesSpelled]
    rfl
  | a :: attributes, named, inside, h, hun, named' => by
    rw [attributesUncommented, Bool.and_eq_true] at hun
    unfold attributesSpelled at h
    obtain ⟨blanks, own, rest, -, -, hown, hrest, -⟩ := h
    obtain ⟨own', hsource, hown'⟩ := hown.toSource hun.1
    rw [attributesSource, hsource, attributesSpelled]
    exact ⟨[' '], own', attributesSource attributes, by decide, by simp, hown',
      attributesSpelled_toSource hrest hun.2 _, rfl⟩

theorem Attribute.Spelled.toSource : ∀ {a : Attribute} {own : Text}, a.Spelled own →
    a.uncommented = true → ∃ own', a.toSource = ' ' :: own' ∧ a.Spelled own'
  | .literal name raw, own, h, _ => by
    unfold Attribute.Spelled at h
    obtain ⟨hname, hraw, -⟩ := h
    refine ⟨name ++ '=' :: raw, by rw [Attribute.toSource]; simp, ?_⟩
    unfold Attribute.Spelled
    exact ⟨hname, hraw, [], [], rfl, rfl, by simp⟩
  | .hole name nodes, own, h, hun => by
    unfold Attribute.Spelled at h
    unfold Attribute.uncommented at hun
    obtain ⟨hname, before, behind, code, -, -, hcode, -⟩ := h
    refine ⟨name ++ '=' :: '{' :: nodesSource nodes ++ ['}'], by rw [Attribute.toSource]; simp, ?_⟩
    unfold Attribute.Spelled
    exact ⟨hname, [], [], nodesSource nodes, rfl, rfl,
      nodesSpelled_toSource hcode Lexer.proper_initial hun, by simp⟩
  | .bare name, own, h, _ => by
    unfold Attribute.Spelled at h
    refine ⟨name, by rw [Attribute.toSource]; simp, ?_⟩
    unfold Attribute.Spelled
    exact ⟨h.1, rfl⟩

theorem childrenSpelled_toSource : ∀ {children : List Child} {tag : Text} {texted : Bool}
    {content : Text}, childrenSpelled tag texted children content →
    childrenUncommented children = true →
    childrenSpelled tag texted children (childrenSource children ++ closingSource (some tag))
  | [], tag, texted, content, h, _ => by
    rw [childrenSource, childrenSpelled]
    exact ⟨[], [], rfl, rfl, by simp [closingSource]⟩
  | .element element :: children, tag, texted, content, h, hun => by
    rw [childrenUncommented, Bool.and_eq_true, Child.uncommented] at hun
    unfold childrenSpelled at h
    obtain ⟨own, rest, hown, hrest, -⟩ := h
    rw [childrenSource, Child.toSource, List.append_assoc, childrenSpelled]
    exact ⟨_, _, hown.toSource hun.1, childrenSpelled_toSource hrest hun.2, rfl⟩
  | .text own :: children, tag, texted, content, h, hun => by
    rw [childrenUncommented, Bool.and_eq_true] at hun
    unfold childrenSpelled at h
    obtain ⟨htexted, hne, hchars, rest, hrest, -⟩ := h
    rw [childrenSource, Child.toSource, List.append_assoc, childrenSpelled]
    exact ⟨htexted, hne, hchars, _, childrenSpelled_toSource hrest hun.2, rfl⟩
  | .hole nodes :: children, tag, texted, content, h, hun => by
    rw [childrenUncommented, Bool.and_eq_true, Child.uncommented] at hun
    unfold childrenSpelled at h
    obtain ⟨code, rest, hcode, hrest, -⟩ := h
    rw [childrenSource, Child.toSource, List.append_assoc, childrenSpelled]
    exact ⟨_, _, nodesSpelled_toSource hcode Lexer.proper_initial hun.1,
      childrenSpelled_toSource hrest hun.2, by simp⟩

theorem nodesSpelled_toSource : ∀ {nodes : List Node} {close : Option Char} {lexer : Lexer}
    {draft : Draft} {text : Text}, nodesSpelled close lexer draft nodes text → lexer.Proper →
    nodesUncommented lexer nodes = true → nodesSpelled close lexer draft nodes (nodesSource nodes)
  | [], close, lexer, draft, text, h, _, _ => by
    unfold nodesSpelled at h
    rw [nodesSource, nodesSpelled]
    exact ⟨h.1, rfl⟩
  | .code own :: nodes, close, lexer, draft, text, h, hproper, hun => by
    unfold nodesUncommented at hun
    unfold nodesSpelled at h
    obtain ⟨hne, hpending, rest, hcopies, hrest, -⟩ := h
    rw [nodesSource, Node.toSource, nodesSpelled]
    exact ⟨hne, hpending, _, hcopies.congr (nodesSpelled_head hrest _).1,
      nodesSpelled_toSource hrest (hproper.after own) hun, rfl⟩
  | .markup element :: nodes, close, lexer, draft, text, h, hproper, hun => by
    rw [nodesUncommented, Bool.and_eq_true] at hun
    unfold nodesSpelled at h
    obtain ⟨own, rest, hown, hcode, hopens, hnone, hrest, -⟩ := h
    obtain ⟨c, inner, inner', hinner, hinner'⟩ := Element.toSource_head hown
    have hnone' : Reader.callee? draft (.ofText (nodesSource nodes ++ close.toList)) = none := by
      rw [← hnone, Reader.callee?, Reader.callee?]
      have hp : (Cursor.ofText (nodesSource nodes ++ close.toList)).peekPastBlanks =
          (Cursor.ofText (rest ++ close.toList)).peekPastBlanks := by
        simp only [Cursor.peekPastBlanks, Cursor.ofText, List.headD_eq_head?_getD]
        rw [(nodesSpelled_head hrest close.toList).2]
      rw [hp]
    rw [nodesSource, Node.toSource, nodesSpelled]
    refine ⟨_, _, hown.toSource hun.1, hcode.congr (by rw [hinner, hinner']; rfl), ?_, hnone',
      nodesSpelled_toSource hrest (Lexer.proper_inCode lexer) hun.2, rfl⟩
    rw [← hopens, hinner, hinner']
    exact Lexer.opensElement_congr rfl
  | .call callee element :: nodes, close, lexer, draft, text, h, hproper, hun => by
    simp only [nodesUncommented, Bool.and_eq_true, bne_iff_ne] at hun
    obtain ⟨⟨hline, hel⟩, hun⟩ := hun
    unfold nodesSpelled at h
    obtain ⟨before, behind, own, blanks, rest, hbefore, hbehind, -, hown, hcopies, hcode, hopens,
      hpending, hrest, -⟩ := h
    obtain ⟨c, inner, inner', hinner, hinner'⟩ := Element.toSource_head hown
    have hopen := open_of_uncommented hproper hbefore hbehind hcode hline
    have hnil : Text.isBlank [] := rfl
    have hparen : lexer.after (callee ++ ['(']) =
        ⟨.code, (lexer.after callee).depth + 1, (lexer.after callee).outer⟩ := by
      rw [Lexer.after_append]
      exact hopen.after_paren hnil hnil
    have hlast : ∀ c ∈ callee.getLast?, c ≠ '<' := by
      obtain ⟨d, hd, hend⟩ := Callee.ofPending?_last hpending
      have hd : callee.getLast? = some d := hd
      rw [hd]
      rintro c ⟨⟩ rfl
      revert hend
      decide
    rw [leaveCall_after hopen hbefore hbehind] at hrest
    rw [nodesSource, Node.toSource, nodesSpelled]
    have hopens' : Reader.opensElement (draft.pushAll (callee ++ [] ++ '(' :: []))
        (.ofText element.toSource) = true := by
      rw [hinner, Reader.opensElement, Bool.and_eq_true] at hopens
      rw [hinner', Reader.opensElement, Bool.and_eq_true]
      exact ⟨hopens.1, atExpressionStart_call hnil draft callee []⟩
    have hpending' : Callee.ofPending? (draft.pushAll (callee ++ [] ++ '(' :: [])).pending =
        some ⟨callee, draft.pending⟩ := by
      rw [ofPending?_call hnil hnil, ← ofPending?_call hbefore hbehind, hpending]
    refine ⟨[], [], element.toSource, [], nodesSource nodes, hnil, hnil, hnil, hown.toSource hel,
      ?_, ?_, hopens', hpending', ?_, by simp⟩
    all_goals rw [List.append_nil]
    · exact copies_callee hopen hcopies hlast
    · rw [hparen]
      trivial
    · rw [hparen]
      exact nodesSpelled_toSource hrest (Lexer.proper_inCode _) hun
  | .template _ :: nodes, close, lexer, draft, text, h, _, _ => by
    unfold nodesSpelled at h
    exact h.elim
  | .tagged _ _ :: nodes, close, lexer, draft, text, h, _, _ => by
    unfold nodesSpelled at h
    exact h.elim

end

/-! ## What is spelled as it is printed -/

theorem eq_nil_of_blanks {blanks s t : Text} (hb : blanks.isBlank)
    (ht : ∀ c ∈ t.head?, isBlank c = false) (h : blanks ++ s = t) : blanks = [] := by
  cases blanks with
  | nil => rfl
  | cons c blanks =>
    simp only [Text.isBlank, List.all_cons, Bool.and_eq_true] at hb
    have hc := ht c (by rw [← h]; rfl)
    rw [hb.1] at hc
    cases hc

theorem isBlank_of_head?_quoted {raw : Text} (h : IsQuoted raw) (rest : Text) :
    ∀ c ∈ (raw ++ rest).head?, isBlank c = false := by
  obtain ⟨quote, body, hquote, -, rfl⟩ := h
  rcases hquote with rfl | rfl <;> simp <;> decide

mutual

theorem Element.Spelled.uncommented : ∀ {element : Element} {own : Text}, element.Spelled own →
    ∀ {x y : Text}, own ++ x = element.toSource ++ y → x = y ∧ element.uncommented = true
  | ⟨tag, attributes, children, selfClosing, closing, span⟩, own, h, x, y, heq => by
    unfold Element.Spelled at h
    rw [Element.toSource] at heq
    rw [Element.uncommented, Bool.and_eq_true]
    obtain ⟨hne, htag, inside, hinside, h⟩ := h
    cases selfClosing with
    | true =>
      obtain ⟨rfl, rfl, rfl⟩ := h
      have heq : inside ++ ('/' :: '>' :: x) =
          attributesSource attributes ++ ('/' :: '>' :: y) := by
        simpa using heq
      obtain ⟨hxy, hattributes⟩ := attributesSpelled_uncommented hinside (by simp; decide) heq
      exact ⟨by simpa using hxy, hattributes, rfl⟩
    | false =>
      obtain ⟨rfl, content, hcontent, rfl⟩ := h
      have heq : inside ++ ('>' :: (content ++ x)) = attributesSource attributes ++
          ('>' :: (childrenSource children ++ closingSource (some tag) ++ y)) := by
        simpa using heq
      obtain ⟨hxy, hattributes⟩ := attributesSpelled_uncommented hinside (by simp; decide) heq
      obtain ⟨hxy, hchildren⟩ :=
        childrenSpelled_uncommented hne htag hcontent (List.cons_inj_right _ |>.1 hxy)
      exact ⟨hxy, hattributes, hchildren⟩

theorem attributesSpelled_uncommented : ∀ {attributes : List Attribute} {named : Bool}
    {inside : Text}, attributesSpelled named attributes inside →
    ∀ {x y : Text}, (∀ c ∈ y.head?, isBlank c = false) →
    inside ++ x = attributesSource attributes ++ y →
    x = y ∧ attributesUncommented attributes = true
  | [], named, inside, h, x, y, hy, heq => by
    unfold attributesSpelled at h
    rw [attributesSource, List.nil_append] at heq
    rw [eq_nil_of_blanks h hy heq] at heq
    exact ⟨heq, rfl⟩
  | a :: attributes, named, inside, h, x, y, hy, heq => by
    unfold attributesSpelled at h
    obtain ⟨blanks, own, rest, hblanks, -, hown, hrest, rfl⟩ := h
    rw [attributesUncommented, Bool.and_eq_true]
    obtain ⟨c, inner, inner', hinner, hinner', hc⟩ := Attribute.toSource_head hown
    have hblank : isBlank c = false :=
      not_isBlank_of_isAttributeChar (isAttributeChar_of_isAttributeStart hc)
    have hone : blanks = [' '] := by
      rw [attributesSource, hinner, hinner'] at heq
      cases blanks with
      | nil =>
        obtain rfl : c = ' ' := by simp at heq; exact heq.1
        exact absurd hblank (by decide)
      | cons d blanks =>
        simp only [Text.isBlank, List.all_cons, Bool.and_eq_true] at hblanks
        simp only [List.cons_append, List.append_assoc, List.cons.injEq] at heq
        rw [heq.1, eq_nil_of_blanks hblanks.2 (by simpa using hblank) heq.2]
    rw [attributesSource, hone] at heq
    obtain ⟨hxy, ha⟩ := hown.uncommented (show ' ' :: own ++ (rest ++ x) =
      a.toSource ++ (attributesSource attributes ++ y) by simpa using heq)
    obtain ⟨hxy, hattributes⟩ := attributesSpelled_uncommented hrest hy hxy
    exact ⟨hxy, ha, hattributes⟩

theorem Attribute.Spelled.uncommented : ∀ {a : Attribute} {own : Text}, a.Spelled own →
    ∀ {x y : Text}, ' ' :: own ++ x = a.toSource ++ y → x = y ∧ a.uncommented = true
  | .literal name raw, own, h, x, y, heq => by
    unfold Attribute.Spelled at h
    obtain ⟨-, hraw, before, behind, hbefore, hbehind, rfl⟩ := h
    rw [Attribute.toSource] at heq
    have heq : before ++ ('=' :: (behind ++ (raw ++ x))) = '=' :: (raw ++ y) := by simpa using heq
    rw [eq_nil_of_blanks hbefore (by simp; decide) heq] at heq
    have heq : behind ++ (raw ++ x) = raw ++ y := by simpa using heq
    rw [eq_nil_of_blanks hbehind (isBlank_of_head?_quoted hraw y) heq] at heq
    exact ⟨by simpa using heq, rfl⟩
  | .hole name nodes, own, h, x, y, heq => by
    unfold Attribute.Spelled at h
    obtain ⟨-, before, behind, code, hbefore, hbehind, hcode, rfl⟩ := h
    rw [Attribute.toSource] at heq
    have heq : before ++ ('=' :: (behind ++ ('{' :: (code ++ '}' :: x)))) =
        '=' :: '{' :: (nodesSource nodes ++ '}' :: y) := by simpa using heq
    rw [eq_nil_of_blanks hbefore (by simp; decide) heq] at heq
    have heq : behind ++ ('{' :: (code ++ '}' :: x)) = '{' :: (nodesSource nodes ++ '}' :: y) := by
      simpa using heq
    rw [eq_nil_of_blanks hbehind (by simp; decide) heq] at heq
    obtain ⟨hxy, hnodes⟩ := nodesSpelled_uncommented hcode Lexer.proper_initial
      (show code ++ '}' :: x = nodesSource nodes ++ '}' :: y by simpa using heq)
    exact ⟨by simpa using hxy, hnodes⟩
  | .bare name, own, h, x, y, heq => by
    unfold Attribute.Spelled at h
    rw [Attribute.toSource, h.2] at heq
    exact ⟨by simpa using heq, rfl⟩

theorem childrenSpelled_uncommented : ∀ {children : List Child} {tag : Text} {texted : Bool}
    {content : Text}, tag ≠ [] → (∀ c ∈ tag, isTagChar c = true) →
    childrenSpelled tag texted children content → ∀ {x y : Text},
    content ++ x = childrenSource children ++ closingSource (some tag) ++ y →
    x = y ∧ childrenUncommented children = true
  | [], tag, texted, content, hne, htag, h, x, y, heq => by
    unfold childrenSpelled at h
    obtain ⟨before, behind, hbefore, hbehind, rfl⟩ := h
    have heq : before ++ (tag ++ (behind ++ '>' :: x)) = tag ++ '>' :: y := by
      simpa [childrenSource, closingSource] using heq
    have hhead : ∀ c ∈ (tag ++ '>' :: y).head?, isBlank c = false := by
      cases tag with
      | nil => exact absurd rfl hne
      | cons d tag => simpa using not_isBlank_of_isTagChar (htag d (by simp))
    rw [eq_nil_of_blanks hbefore hhead heq] at heq
    have heq : behind ++ '>' :: x = '>' :: y := by simpa using heq
    rw [eq_nil_of_blanks hbehind (by simp; decide) heq] at heq
    exact ⟨by simpa using heq, rfl⟩
  | .element element :: children, tag, texted, content, hne, htag, h, x, y, heq => by
    unfold childrenSpelled at h
    obtain ⟨own, rest, hown, hrest, rfl⟩ := h
    rw [childrenSource, Child.toSource] at heq
    rw [childrenUncommented, Bool.and_eq_true, Child.uncommented]
    obtain ⟨hxy, helement⟩ := hown.uncommented (show own ++ (rest ++ x) = element.toSource ++
      (childrenSource children ++ closingSource (some tag) ++ y) by simpa using heq)
    obtain ⟨hxy, hchildren⟩ := childrenSpelled_uncommented hne htag hrest hxy
    exact ⟨hxy, helement, hchildren⟩
  | .text own :: children, tag, texted, content, hne, htag, h, x, y, heq => by
    unfold childrenSpelled at h
    obtain ⟨-, -, -, rest, hrest, rfl⟩ := h
    rw [childrenSource, Child.toSource] at heq
    rw [childrenUncommented, Bool.and_eq_true, Child.uncommented]
    obtain ⟨hxy, hchildren⟩ := childrenSpelled_uncommented hne htag hrest (show rest ++ x =
      childrenSource children ++ closingSource (some tag) ++ y by simpa using heq)
    exact ⟨hxy, rfl, hchildren⟩
  | .hole nodes :: children, tag, texted, content, hne, htag, h, x, y, heq => by
    unfold childrenSpelled at h
    obtain ⟨code, rest, hcode, hrest, rfl⟩ := h
    rw [childrenSource, Child.toSource] at heq
    rw [childrenUncommented, Bool.and_eq_true, Child.uncommented]
    obtain ⟨hxy, hnodes⟩ := nodesSpelled_uncommented hcode Lexer.proper_initial
      (show code ++ '}' :: (rest ++ x) = nodesSource nodes ++
        '}' :: (childrenSource children ++ closingSource (some tag) ++ y) by simpa using heq)
    obtain ⟨hxy, hchildren⟩ :=
      childrenSpelled_uncommented hne htag hrest (List.cons_inj_right _ |>.1 hxy)
    exact ⟨hxy, hnodes, hchildren⟩

theorem nodesSpelled_uncommented : ∀ {nodes : List Node} {close : Option Char} {lexer : Lexer}
    {draft : Draft} {text : Text}, nodesSpelled close lexer draft nodes text → lexer.Proper →
    ∀ {x y : Text}, text ++ x = nodesSource nodes ++ y →
    x = y ∧ nodesUncommented lexer nodes = true
  | [], close, lexer, draft, text, h, _, x, y, heq => by
    unfold nodesSpelled at h
    rw [h.2, nodesSource] at heq
    exact ⟨heq, rfl⟩
  | .code own :: nodes, close, lexer, draft, text, h, hproper, x, y, heq => by
    unfold nodesSpelled at h
    obtain ⟨-, -, rest, -, hrest, rfl⟩ := h
    rw [nodesSource, Node.toSource] at heq
    unfold nodesUncommented
    exact nodesSpelled_uncommented hrest (hproper.after own) (by simpa using heq)
  | .markup element :: nodes, close, lexer, draft, text, h, hproper, x, y, heq => by
    unfold nodesSpelled at h
    obtain ⟨own, rest, hown, -, -, -, hrest, rfl⟩ := h
    rw [nodesSource, Node.toSource] at heq
    rw [nodesUncommented, Bool.and_eq_true]
    obtain ⟨hxy, helement⟩ := hown.uncommented
      (show own ++ (rest ++ x) = element.toSource ++ (nodesSource nodes ++ y) by simpa using heq)
    obtain ⟨hxy, hnodes⟩ := nodesSpelled_uncommented hrest (Lexer.proper_inCode lexer) hxy
    exact ⟨hxy, helement, hnodes⟩
  | .call callee element :: nodes, close, lexer, draft, text, h, hproper, x, y, heq => by
    unfold nodesSpelled at h
    obtain ⟨before, behind, own, blanks, rest, hbefore, hbehind, hblanks, hown, -, hcode, -, -,
      hrest, rfl⟩ := h
    obtain ⟨c, inner, inner', hinner, hinner'⟩ := Element.toSource_head hown
    rw [nodesSource, Node.toSource] at heq
    have heq : before ++ ('(' :: (behind ++ (own ++ (blanks ++ ')' :: (rest ++ x))))) =
        '(' :: (element.toSource ++ ')' :: (nodesSource nodes ++ y)) := by simpa using heq
    obtain rfl := eq_nil_of_blanks hbefore (by simp; decide) heq
    have heq : behind ++ (own ++ (blanks ++ ')' :: (rest ++ x))) =
        element.toSource ++ ')' :: (nodesSource nodes ++ y) := by simpa using heq
    obtain rfl := eq_nil_of_blanks hbehind (by rw [hinner']; simp; decide) heq
    obtain ⟨heq, helement⟩ := hown.uncommented heq
    obtain rfl := eq_nil_of_blanks hblanks (by simp; decide) heq
    have hline : (lexer.after callee).mode ≠ .line := by
      -- The comment would go on over the parenthesis and the element.
      intro hm
      have hparen : lexer.after (callee ++ [] ++ ['(']) = lexer.after callee := by
        simp [Lexer.after_append, Lexer.after_cons, Lexer.after_nil, Lexer.step, hm]
      rw [hparen, hinner, Lexer.AtCode, hm] at hcode
      exact absurd (hcode '<' rfl) (by decide)
    have hopen := open_of_uncommented hproper hbefore hbehind hcode hline
    rw [leaveCall_after hopen hbefore hbehind] at hrest
    obtain ⟨hxy, hnodes⟩ := nodesSpelled_uncommented hrest (Lexer.proper_inCode _)
      (show rest ++ x = nodesSource nodes ++ y by simpa using heq)
    simp only [nodesUncommented, Bool.and_eq_true, bne_iff_ne]
    exact ⟨hxy, ⟨hline, helement⟩, hnodes⟩
  | .template _ :: nodes, close, lexer, draft, text, h, _, x, y, heq => by
    unfold nodesSpelled at h
    exact h.elim
  | .tagged _ _ :: nodes, close, lexer, draft, text, h, _, x, y, heq => by
    unfold nodesSpelled at h
    exact h.elim

end

/-! ## Places do not matter -/

mutual

theorem Element.uncommented_unplaced : ∀ element : Element,
    element.unplaced.uncommented = element.uncommented
  | ⟨tag, attributes, children, selfClosing, closing, span⟩ => by
    rw [Element.unplaced, Element.uncommented, Element.uncommented,
      attributesUncommented_unplaced, childrenUncommented_unplaced]

theorem attributesUncommented_unplaced : ∀ attributes : List Attribute,
    attributesUncommented (attributesUnplaced attributes) = attributesUncommented attributes
  | [] => rfl
  | .literal name raw :: attributes => by
    rw [attributesUnplaced, attributesUncommented, attributesUncommented,
      attributesUncommented_unplaced, Attribute.unplaced]
  | .hole name nodes :: attributes => by
    rw [attributesUnplaced, attributesUncommented, attributesUncommented,
      attributesUncommented_unplaced, Attribute.unplaced, Attribute.uncommented,
      Attribute.uncommented, nodesUncommented_unplaced]
  | .bare name :: attributes => by
    rw [attributesUnplaced, attributesUncommented, attributesUncommented,
      attributesUncommented_unplaced, Attribute.unplaced]

theorem childrenUncommented_unplaced : ∀ children : List Child,
    childrenUncommented (childrenUnplaced children) = childrenUncommented children
  | [] => rfl
  | .element element :: children => by
    rw [childrenUnplaced, childrenUncommented, childrenUncommented, childrenUncommented_unplaced,
      Child.unplaced, Child.uncommented, Child.uncommented, element.uncommented_unplaced]
  | .text own :: children => by
    rw [childrenUnplaced, childrenUncommented, childrenUncommented, childrenUncommented_unplaced,
      Child.unplaced]
  | .hole nodes :: children => by
    rw [childrenUnplaced, childrenUncommented, childrenUncommented, childrenUncommented_unplaced,
      Child.unplaced, Child.uncommented, Child.uncommented, nodesUncommented_unplaced]

theorem nodesUncommented_unplaced : ∀ (nodes : List Node) (lexer : Lexer),
    nodesUncommented lexer (nodesUnplaced nodes) = nodesUncommented lexer nodes
  | [], lexer => rfl
  | .code own :: nodes, lexer => by
    rw [nodesUnplaced, Node.unplaced, nodesUncommented, nodesUncommented, nodesUncommented_unplaced]
  | .markup element :: nodes, lexer => by
    rw [nodesUnplaced, Node.unplaced, nodesUncommented, nodesUncommented, nodesUncommented_unplaced,
      element.uncommented_unplaced]
  | .call callee element :: nodes, lexer => by
    rw [nodesUnplaced, Node.unplaced, nodesUncommented, nodesUncommented, nodesUncommented_unplaced,
      element.uncommented_unplaced]
  | .template _ :: nodes, lexer => by
    rw [nodesUnplaced, Node.unplaced, nodesUncommented, nodesUncommented, nodesUncommented_unplaced]
  | .tagged _ _ :: nodes, lexer => by
    rw [nodesUnplaced, Node.unplaced, nodesUncommented, nodesUncommented, nodesUncommented_unplaced]

end

/-- An expression that was read is printed as a text that reads the same, if and only if no callee
in it is the end of a line comment. -/
theorem parse_toSource_iff {source : Text} {expression : Expression}
    (h : parse source = .ok expression) :
    (∃ found : Expression, parse expression.toSource = .ok found ∧
      found.unplaced = expression.unplaced) ↔ expression.uncommented = true := by
  constructor
  · rintro ⟨found, hparse, hsame⟩
    have hsource : found.toSource = expression.toSource := by
      rw [Expression.toSource, ← nodesSource_unplaced, ← Expression.unplaced, hsame,
        Expression.unplaced, nodesSource_unplaced, Expression.toSource]
    have hspelled : found.Spelled found.toSource := by
      rw [hsource]
      exact spelled_of_parse hparse
    have hempty : found.toSource ++ [] = nodesSource found ++ [] := rfl
    have huncommented : found.uncommented = true :=
      (nodesSpelled_uncommented hspelled Lexer.proper_initial hempty).2
    rw [Expression.uncommented, ← nodesUncommented_unplaced, ← Expression.unplaced, ← hsame,
      Expression.unplaced, nodesUncommented_unplaced]
    exact huncommented
  · intro huncommented
    exact parse_of_spelled
      (nodesSpelled_toSource (spelled_of_parse h) Lexer.proper_initial huncommented)

/-- Blanks around a parenthesis are dropped safely; a comment before it swallows the call. -/
theorem parse_toSource_note :
    (∃ expression : Expression, parse "x = render (\n<a/> )".toList = .ok expression ∧
      ∃ found : Expression, parse expression.toSource = .ok found ∧
        found.unplaced = expression.unplaced) ∧
    ∃ expression : Expression, parse "render // note\n(<a/>)".toList = .ok expression ∧
      ¬ ∃ found : Expression, parse expression.toSource = .ok found ∧
        found.unplaced = expression.unplaced := by
  have hkept : ((parse "x = render (\n<a/> )".toList).toOption.map Expression.uncommented) =
      some true := by decide +kernel
  have hlost : ((parse "render // note\n(<a/>)".toList).toOption.map Expression.uncommented) =
      some false := by decide +kernel
  constructor
  · cases h : parse "x = render (\n<a/> )".toList with
    | error error => rw [h] at hkept; cases hkept
    | ok expression =>
      rw [h] at hkept
      exact ⟨expression, rfl, (parse_toSource_iff h).2 (by simpa [Except.toOption] using hkept)⟩
  · cases h : parse "render // note\n(<a/>)".toList with
    | error error => rw [h] at hlost; cases hlost
    | ok expression =>
      rw [h] at hlost
      refine ⟨expression, rfl, fun hfound => ?_⟩
      have huncommented := (parse_toSource_iff h).1 hfound
      simp [Except.toOption, huncommented] at hlost

end JsxTemplate
