import JsxTemplate.Markup.Unplaced
import JsxTemplate.Proofs.Resuming
import JsxTemplate.Proofs.Soundness

/-
  What is spelled is read: every spelling of an expression reads as that expression, up to the
  places of its elements (`parse_of_spelled`). The induction follows the expression; code is driven
  step by step, and the steps make up a reading.
-/

namespace JsxTemplate

/-! ## Drafts that look the same -/

/-- The reader looks at the pending code of a draft, and at whether there is a node before it. -/
structure Draft.Alike (draft draft' : Draft) : Prop where
  pending : draft.pending = draft'.pending
  isEmpty : draft.nodes.isEmpty = draft'.nodes.isEmpty

namespace Draft

variable {draft draft' : Draft}

theorem Alike.rfl : draft.Alike draft := ⟨Eq.refl _, Eq.refl _⟩

theorem Alike.pushAll (h : draft.Alike draft') (text : Text) :
    (draft.pushAll text).Alike (draft'.pushAll text) :=
  ⟨by rw [pushAll_pending, pushAll_pending, h.pending], h.isEmpty⟩

theorem Alike.add (node node' : Node) : (draft.add node).Alike (draft'.add node') :=
  ⟨by rw [add_pending, add_pending], Eq.refl _⟩

theorem Alike.opensElement (h : draft.Alike draft') (cursor : Cursor) :
    Reader.opensElement draft cursor = Reader.opensElement draft' cursor := by
  unfold Reader.opensElement atExpressionStart
  rw [h.pending, h.isEmpty]

theorem Alike.callee? (h : draft.Alike draft') (cursor : Cursor) :
    Reader.callee? draft cursor = Reader.callee? draft' cursor := by
  rw [Reader.callee?, Reader.callee?, h.pending]

theorem Alike.copies (h : draft.Alike draft') {close : Option Char} {lexer : Lexer}
    {text rest : Text} (hcopies : lexer.Copies close draft text rest) :
    lexer.Copies close draft' text rest := by
  induction text generalizing lexer draft draft' with
  | nil => trivial
  | cons c text ih =>
    obtain ⟨ht, hcopies⟩ := hcopies
    refine ⟨⟨ht.goesOn, fun hc hlt => ?_, ht.unbroken⟩, ih (h.pushAll [c]) hcopies⟩
    rw [← h.opensElement]
    exact ht.opensNothing hc hlt

theorem finish_pushAll (hp : draft.pending = []) {own : Text} (hne : own ≠ []) :
    (draft.pushAll own).finish = draft.finish ++ [.code own] := by
  simp [finish, settle, pushAll, List.reverseAux_eq, hp, hne]

end Draft

/-! ## What tags go on with -/

/-- An attribute begins with its name. -/
theorem Attribute.Spelled.head {a : Attribute} {own : Text} (h : a.Spelled own) :
    ∃ c rest, own = c :: rest ∧ isAttributeStart c = true := by
  have hname : ∀ {name : Text}, IsAttributeName name → name <+: own →
      ∃ c rest, own = c :: rest ∧ isAttributeStart c = true := by
    rintro name ⟨⟨c, tail, rfl, hc⟩, -⟩ ⟨rest, rfl⟩
    exact ⟨c, tail ++ rest, rfl, hc⟩
  cases a with
  | literal name raw =>
    unfold Attribute.Spelled at h
    obtain ⟨hn, -, before, behind, -, -, hown⟩ := h
    exact hname hn ⟨before ++ '=' :: behind ++ raw, by simp [hown]⟩
  | hole name nodes =>
    unfold Attribute.Spelled at h
    obtain ⟨hn, before, behind, code, -, -, -, hown⟩ := h
    exact hname hn ⟨before ++ '=' :: behind ++ '{' :: code ++ ['}'], by simp [hown]⟩
  | bare name =>
    unfold Attribute.Spelled at h
    exact hname h.1 ⟨[], by simp [h.2]⟩

theorem isTagChar_of_head?_tagEnd {selfClosing : Bool} {tail : Text} :
    ∀ c ∈ (tagEnd selfClosing ++ tail).head?, isTagChar c = false := by
  cases selfClosing <;> simp [tagEnd] <;> decide

theorem isBlank_of_head?_tagEnd {selfClosing : Bool} {tail : Text} :
    ∀ c ∈ (tagEnd selfClosing ++ tail).head?, isBlank c = false := by
  cases selfClosing <;> simp [tagEnd] <;> decide

/-- Behind a name, its tag does not go on as a name. -/
theorem attributesSpelled_named {attributes : List Attribute} {inside tail : Text}
    {selfClosing : Bool} (h : attributesSpelled true attributes inside) :
    ∀ c ∈ (inside ++ (tagEnd selfClosing ++ tail)).head?, isTagChar c = false := by
  cases attributes with
  | nil =>
    unfold attributesSpelled at h
    exact not_of_head?_blanks (fun _ => not_isBlank_of_isTagChar) h isTagChar_of_head?_tagEnd
  | cons a attributes =>
    unfold attributesSpelled at h
    obtain ⟨blanks, own, rest, hblanks, hne, -, -, rfl⟩ := h
    cases blanks with
    | nil => exact absurd rfl (hne rfl)
    | cons d blanks =>
      simp only [Text.isBlank, List.all_cons, Bool.and_eq_true] at hblanks
      intro c hc
      obtain rfl : d = c := by simpa using hc
      rw [← Bool.not_eq_true]
      intro hd
      rw [not_isBlank_of_isTagChar hd] at hblanks
      cases hblanks.1

/-- Past blanks, a tag goes on with an attribute or ends. -/
theorem attributesSpelled_skipBlanks {attributes : List Attribute} {named selfClosing : Bool}
    {inside tail : Text} (h : attributesSpelled named attributes inside) {cursor : Cursor}
    (hr : cursor.rest = inside ++ (tagEnd selfClosing ++ tail)) :
    cursor.skipBlanks.rest.head? ≠ some '=' := by
  cases attributes with
  | nil =>
    unfold attributesSpelled at h
    rw [Reader.skipBlanks_eq hr h isBlank_of_head?_tagEnd, Cursor.rest_past hr]
    cases selfClosing <;> simp [tagEnd]
  | cons a attributes =>
    unfold attributesSpelled at h
    obtain ⟨blanks, own, rest, hblanks, -, hown, -, rfl⟩ := h
    obtain ⟨c, name, rfl, hc⟩ := hown.head
    have hr : cursor.rest = blanks ++ (c :: name ++ (rest ++ (tagEnd selfClosing ++ tail))) := by
      rw [hr]; simp
    have hblank : isBlank c = false :=
      not_isBlank_of_isAttributeChar (isAttributeChar_of_isAttributeStart hc)
    rw [Reader.skipBlanks_eq hr hblanks (by simpa using hblank), Cursor.rest_past hr]
    intro heq
    obtain rfl : c = '=' := by simpa using heq
    exact absurd hc (by decide)

/-- Behind a text, children go on with markup or a hole. -/
theorem childrenSpelled_texted {children : List Child} {tag content tail : Text}
    (h : childrenSpelled tag true children content) :
    ∀ c ∈ (content ++ tail).head?, c = '<' ∨ c = '{' := by
  match children with
  | [] =>
    unfold childrenSpelled at h
    obtain ⟨before, behind, -, -, rfl⟩ := h
    simp
  | .element element :: children =>
    unfold childrenSpelled at h
    obtain ⟨own, rest, hown, -, rfl⟩ := h
    obtain ⟨c, inner, rfl, -⟩ := hown.head
    simp
  | .text own :: children =>
    unfold childrenSpelled at h
    exact absurd h.1 (by simp)
  | .hole nodes :: children =>
    unfold childrenSpelled at h
    obtain ⟨code, rest, -, -, rfl⟩ := h
    simp

/-! ## Steps for what is spelled -/

theorem steps_of_copies {reads : Cursor → Element → Cursor → Prop} {close : Option Char}
    {lexer : Lexer} {draft : Draft} {text rest : Text} (h : lexer.Copies close draft text rest)
    {cursor : Cursor} (hr : cursor.rest = text ++ rest) :
    Steps reads close ⟨lexer, draft, cursor⟩
      ⟨lexer.after text, draft.pushAll text, cursor.past text⟩ := by
  induction text generalizing lexer draft cursor with
  | nil => exact .refl
  | cons c text ih =>
    obtain ⟨ht, hcopies⟩ := h
    have hr' : cursor.rest = c :: (text ++ rest) := hr
    rw [Cursor.past_cons hr']
    exact .copy hr' (by rw [hr]; exact ht) (ih hcopies (Cursor.rest_next hr'))

theorem callee?_of_paren {draft : Draft} {cursor : Cursor} {blanks rest : Text}
    (hb : blanks.isBlank) (hr : cursor.rest = blanks ++ ')' :: rest) :
    Reader.callee? draft cursor = Callee.ofPending? draft.pending := by
  have hp : cursor.peekPastBlanks = ')' := by
    rw [Cursor.peekPastBlanks, hr, List.dropWhile_append_of_pos (by simpa [Text.isBlank] using hb),
      List.dropWhile_cons_of_neg (by decide)]
    rfl
  rw [Reader.callee?, if_pos (by simpa using hp)]

/-- The parenthesis of a call in pending code. -/
theorem pending_call (draft : Draft) (callee before behind : Text) :
    (draft.pushAll (callee ++ before ++ '(' :: behind)).pending =
      behind.reverse ++ '(' :: before.reverse ++ (callee.reverse ++ draft.pending) := by
  simp [Draft.pushAll_pending]

theorem ofPending?_call {before behind : Text} (hbefore : before.isBlank) (hbehind : behind.isBlank)
    (draft : Draft) (callee : Text) :
    Callee.ofPending? (draft.pushAll (callee ++ before ++ '(' :: behind)).pending =
      Callee.ofPending? ('(' :: (callee.reverse ++ draft.pending)) := by
  rw [pending_call]
  exact Callee.ofPending?_blanks (by simpa [Text.isBlank] using hbefore)
    (by simpa [Text.isBlank] using hbehind) _

/-- Behind a parenthesis an expression begins. -/
theorem atExpressionStart_call {behind : Text} (hbehind : behind.isBlank) (draft : Draft)
    (callee before : Text) :
    (draft.pushAll (callee ++ before ++ '(' :: behind)).atExpressionStart = true := by
  have hdrop : (draft.pushAll (callee ++ before ++ '(' :: behind)).pending.dropWhile isBlank =
      '(' :: (before.reverse ++ (callee.reverse ++ draft.pending)) := by
    rw [pending_call, List.append_assoc,
      List.dropWhile_append_of_pos (by simpa [Text.isBlank] using hbehind)]
    exact List.dropWhile_cons_of_neg (by decide)
  unfold Draft.atExpressionStart
  rw [hdrop]
  rfl

/-- Steps that read nodes which are the given ones, up to places. -/
def NodesRead (close : Option Char) (lexer : Lexer) (draft : Draft) (nodes : List Node)
    (cursor behind : Cursor) : Prop :=
  ∃ found lexer' final, nodesUnplaced found = nodesUnplaced nodes ∧
    Steps Reader.ElementReads close ⟨lexer, draft, cursor⟩ ⟨lexer', final, behind⟩ ∧
    lexer'.Ends close ∧ final.finish = draft.finish ++ found

section Nodes

variable {close : Option Char} {lexer lexer₁ : Lexer} {draft draft₁ : Draft} {nodes : List Node}
  {cursor cursor₁ behind : Cursor}

/-- One more node before the others. -/
theorem NodesRead.cons {node found : Node} (hfound : found.unplaced = node.unplaced)
    (hsteps : Steps Reader.ElementReads close ⟨lexer, draft, cursor⟩ ⟨lexer₁, draft₁, cursor₁⟩)
    (hfinish : draft₁.finish = draft.finish ++ [found])
    (h : NodesRead close lexer₁ draft₁ nodes cursor₁ behind) :
    NodesRead close lexer draft (node :: nodes) cursor behind := by
  obtain ⟨others, lexer', final, hothers, hrest, hends, hfinal⟩ := h
  refine ⟨found :: others, lexer', final, ?_, hsteps.trans hrest, hends, ?_⟩
  · rw [nodesUnplaced, nodesUnplaced, hfound, hothers]
  · rw [hfinal, hfinish, List.append_assoc, List.singleton_append]

/-- Nodes read from scratch are what the code reads as. -/
theorem NodesRead.codeReads (h : NodesRead close .initial .empty nodes cursor behind)
    (hclose : ∀ c ∈ close, isCloser c = true) (hbehind : behind.rest.head? = close.toList.head?) :
    ∃ final : Draft, nodesUnplaced final.finish = nodesUnplaced nodes ∧
      Reader.CodeReads close 0 .empty cursor (final, behind) := by
  obtain ⟨found, lexer', final, hfound, hsteps, ⟨hc, houter, hdepth⟩, hfinish⟩ := h
  have hempty : Draft.empty.finish ++ found = found := rfl
  rw [hempty] at hfinish
  refine ⟨final, by rw [hfinish, hfound], Reader.codeReads_of_steps hsteps houter
    (hc.congr hbehind.symm) ?_⟩
  cases close with
  | none =>
    show behind.rest = []
    exact List.head?_eq_none_iff.1 hbehind
  | some c => exact ⟨hdepth rfl, hclose c rfl, hbehind⟩

theorem NodesRead.holeReads {code rest : Text} (hr : cursor.rest = '{' :: code ++ '}' :: rest)
    (h : NodesRead (some '}') .initial .empty nodes cursor.next (cursor.next.past code)) :
    ∃ found : Expression, nodesUnplaced found = nodesUnplaced nodes ∧
      Reader.HoleReads cursor found (cursor.past ('{' :: code ++ ['}'])) := by
  have hr₁ : cursor.next.rest = code ++ '}' :: rest := Cursor.rest_next hr
  have hr₂ : (cursor.next.past code).rest = '}' :: rest := Cursor.rest_past hr₁
  obtain ⟨final, hfinal, hreads⟩ := h.codeReads (by simp; decide) (by rw [hr₂]; rfl)
  refine ⟨final.finish, hfinal, ?_⟩
  have hpast : cursor.past ('{' :: code ++ ['}']) = (cursor.next.past code).next := by
    rw [Cursor.next_eq_past hr₂, ← Cursor.past_append, ← Cursor.past_cons hr]
    rfl
  rw [hpast]
  exact Reader.HoleReads.of_code hr hreads hr₂

end Nodes

/-! ## Spellings are read -/

mutual

theorem Element.Spelled.reads : ∀ {element : Element} {own : Text}, element.Spelled own →
    ∀ {cursor : Cursor} {tail : Text}, cursor.rest = own ++ tail →
    ∃ found : Element, found.unplaced = element.unplaced ∧
      Reader.ElementReads cursor found (cursor.past own)
  | ⟨tag, attributes, children, selfClosing, closing, span⟩, own, h, cursor, tail, hr => by
    unfold Element.Spelled at h
    obtain ⟨hne, htag, inside, hinside, h⟩ := h
    cases selfClosing with
    | true =>
      obtain ⟨rfl, rfl, rfl⟩ := h
      have hr : cursor.rest = '<' :: tag ++ (inside ++ (tagEnd true ++ tail)) := by
        rw [hr]; simp [tagEnd]
      have hr' : (cursor.past ('<' :: tag)).rest = inside ++ (tagEnd true ++ tail) :=
        Cursor.rest_past hr
      obtain ⟨found, hfound, hreads⟩ := attributesReads_of_spelled hinside hr'
      have hbehind : cursor.past ('<' :: tag ++ inside ++ ['/', '>']) =
          (cursor.past ('<' :: tag)).past (inside ++ tagEnd true) := by
        rw [← Cursor.past_append, tagEnd, if_pos rfl, List.append_assoc]
      have hattributes : Reader.AttributesReads tag [] (cursor.past ('<' :: tag)) found true _ :=
        hreads tag [] _ rfl
      rw [hbehind]
      refine ⟨_, ?_, Reader.ElementReads.selfClosing hr hne htag (attributesSpelled_named hinside)
        hattributes⟩
      rw [Element.unplaced, Element.unplaced, hfound]
    | false =>
      obtain ⟨rfl, content, hcontent, rfl⟩ := h
      have hr : cursor.rest = '<' :: tag ++ (inside ++ (tagEnd false ++ (content ++ tail))) := by
        rw [hr]; simp [tagEnd]
      have hr' : (cursor.past ('<' :: tag)).rest = inside ++ (tagEnd false ++ (content ++ tail)) :=
        Cursor.rest_past hr
      obtain ⟨found, hfound, hreads⟩ := attributesReads_of_spelled hinside hr'
      have hr'' : ((cursor.past ('<' :: tag)).past (inside ++ tagEnd false)).rest =
          content ++ tail :=
        Cursor.rest_past (by rw [hr', List.append_assoc])
      obtain ⟨kids, hkids, hchildren⟩ := childrenReads_of_spelled hne htag hcontent hr''
      have hbehind : cursor.past ('<' :: tag ++ inside ++ '>' :: content) =
          ((cursor.past ('<' :: tag)).past (inside ++ tagEnd false)).past content := by
        rw [← Cursor.past_append, ← Cursor.past_append]
        simp [tagEnd]
      have hattributes : Reader.AttributesReads tag [] (cursor.past ('<' :: tag)) found false _ :=
        hreads tag [] _ rfl
      have hlen : ((cursor.past ('<' :: tag)).past (inside ++ tagEnd false)).rest.length ≤
          (inside ++ (tagEnd false ++ (content ++ tail))).length := by
        rw [hr'']
        simp only [List.length_append]
        omega
      have hchildren : Reader.ChildrenReads tag [] _ kids _ := hchildren []
      rw [hbehind]
      refine ⟨_, ?_, Reader.ElementReads.closed hr hne htag (attributesSpelled_named hinside)
        hattributes hlen hchildren⟩
      rw [Element.unplaced, Element.unplaced, hfound, hkids]

theorem attributesReads_of_spelled : ∀ {attributes : List Attribute} {named : Bool} {inside : Text},
    attributesSpelled named attributes inside →
    ∀ {selfClosing : Bool} {start : Cursor} {tail : Text},
    start.rest = inside ++ (tagEnd selfClosing ++ tail) →
    ∃ new : List Attribute, attributesUnplaced new = attributesUnplaced attributes ∧
      ∀ tag found cursor, cursor.skipBlanks = start.skipBlanks →
        Reader.AttributesReads tag found cursor (found.reverse ++ new) selfClosing
          (start.past (inside ++ tagEnd selfClosing))
  | [], named, inside, h, selfClosing, start, tail, hr => by
    unfold attributesSpelled at h
    have hskip : start.skipBlanks = start.past inside :=
      Reader.skipBlanks_eq hr h isBlank_of_head?_tagEnd
    have hr' : (start.past inside).rest = tagEnd selfClosing ++ tail := Cursor.rest_past hr
    refine ⟨[], rfl, fun tag found cursor hcursor => ?_⟩
    rw [List.append_nil, Cursor.past_append, ← hskip, ← hcursor]
    rw [← hskip, ← hcursor] at hr'
    cases selfClosing with
    | true => exact Reader.AttributesReads.closes hr'
    | false => exact Reader.AttributesReads.opens hr'
  | a :: attributes, named, inside, h, selfClosing, start, tail, hr => by
    unfold attributesSpelled at h
    obtain ⟨blanks, own, rest, hblanks, -, hown, hrest, rfl⟩ := h
    obtain ⟨c, name, hname, hc⟩ := hown.head
    have hr : start.rest = blanks ++ (own ++ (rest ++ (tagEnd selfClosing ++ tail))) := by
      rw [hr]; simp
    have hblank : isBlank c = false :=
      not_isBlank_of_isAttributeChar (isAttributeChar_of_isAttributeStart hc)
    have hskip : start.skipBlanks = start.past blanks :=
      Reader.skipBlanks_eq hr hblanks (by rw [hname]; simpa using hblank)
    have hr₁ : (start.past blanks).rest = own ++ (rest ++ (tagEnd selfClosing ++ tail)) :=
      Cursor.rest_past hr
    have hr₂ : ((start.past blanks).past own).rest = rest ++ (tagEnd selfClosing ++ tail) :=
      Cursor.rest_past hr₁
    obtain ⟨found₁, hfound₁, after, hone, hafter⟩ := hown.reads hr₁ (by
      intro hbare
      rw [hbare] at hrest
      exact ⟨attributesSpelled_named hrest, attributesSpelled_skipBlanks hrest hr₂⟩)
    obtain ⟨new, hnew, hreads⟩ := attributesReads_of_spelled hrest hr₂
    refine ⟨found₁ :: new, by rw [attributesUnplaced, attributesUnplaced, hfound₁, hnew], ?_⟩
    intro tag found cursor hcursor
    have hr₃ : cursor.skipBlanks.rest = c :: (name ++ (rest ++ (tagEnd selfClosing ++ tail))) := by
      rw [hcursor, hskip, hr₁, hname, List.cons_append]
    apply Reader.AttributesReads.one hr₃ hc (by rw [hcursor, hskip]; exact hone)
    have hall := hreads tag (found₁ :: found) after hafter
    rw [List.reverse_cons, List.append_assoc, List.singleton_append, ← Cursor.past_append,
      ← Cursor.past_append, ← List.append_assoc, ← List.append_assoc] at hall
    exact hall

theorem Attribute.Spelled.reads : ∀ {a : Attribute} {own : Text}, a.Spelled own →
    ∀ {cursor : Cursor} {rest : Text}, cursor.rest = own ++ rest →
    (a.isBare = true → (∀ c ∈ rest.head?, isTagChar c = false) ∧
      (cursor.past own).skipBlanks.rest.head? ≠ some '=') →
    ∃ found : Attribute, found.unplaced = a.unplaced ∧
      ∃ after, Reader.OneReads cursor found after ∧
        after.skipBlanks = (cursor.past own).skipBlanks
  | .literal name raw, own, h, cursor, rest, hr, _ => by
    unfold Attribute.Spelled at h
    obtain ⟨hname, hraw, before, behind, hbefore, hbehind, rfl⟩ := h
    exact ⟨.literal name raw, rfl, _, Reader.OneReads.literal hr hname hbefore hbehind hraw, rfl⟩
  | .hole name nodes, own, h, cursor, rest, hr, _ => by
    unfold Attribute.Spelled at h
    obtain ⟨hname, before, behind, code, hbefore, hbehind, hcode, rfl⟩ := h
    have hr : cursor.rest = name ++ before ++ '=' :: behind ++ '{' :: (code ++ '}' :: rest) := by
      rw [hr]; simp
    have hr₁ : (cursor.past (name ++ before ++ '=' :: behind)).rest = '{' :: code ++ '}' :: rest :=
      Cursor.rest_past hr
    have hnodes := nodesRead_of_spelled hcode Draft.Alike.rfl (Cursor.rest_next hr₁) rfl
      (by simp; decide)
    obtain ⟨found, hfound, hhole⟩ := hnodes.holeReads hr₁
    refine ⟨.hole name found, by rw [Attribute.unplaced, Attribute.unplaced, hfound], _,
      Reader.OneReads.hole hr hname hbefore hbehind hhole, ?_⟩
    rw [← Cursor.past_append]
    simp
  | .bare name, own, h, cursor, rest, hr, hbare => by
    unfold Attribute.Spelled at h
    obtain ⟨hname, rfl⟩ := h
    obtain ⟨hrest, hbehind⟩ := hbare rfl
    refine ⟨.bare own, rfl, _, Reader.OneReads.bare hr hname (fun c hc => ?_) hbehind,
      Reader.skipBlanks_skipBlanks _⟩
    rw [← Bool.not_eq_true]
    intro hchar
    have hnot := hrest c hc
    rw [isTagChar_of_isAttributeChar hchar] at hnot
    cases hnot

theorem childrenReads_of_spelled : ∀ {children : List Child} {tag : Text} {texted : Bool}
    {content : Text}, tag ≠ [] → (∀ c ∈ tag, isTagChar c = true) →
    childrenSpelled tag texted children content →
    ∀ {cursor : Cursor} {tail : Text}, cursor.rest = content ++ tail →
    ∃ new : List Child, childrenUnplaced new = childrenUnplaced children ∧
      ∀ found, Reader.ChildrenReads tag found cursor (found.reverse ++ new) (cursor.past content)
  | [], tag, texted, content, hne, htag, h, cursor, tail, hr => by
    unfold childrenSpelled at h
    obtain ⟨before, behind, hbefore, hbehind, rfl⟩ := h
    refine ⟨[], rfl, fun found => ?_⟩
    rw [List.append_nil]
    have hr : cursor.rest = '<' :: '/' :: before ++ tag ++ behind ++ '>' :: tail := by
      rw [hr]; simp
    exact Reader.ChildrenReads.closes hr hne htag hbefore hbehind
  | .element element :: children, tag, texted, content, hne, htag, h, cursor, tail, hr => by
    unfold childrenSpelled at h
    obtain ⟨own, rest, hown, hrest, rfl⟩ := h
    rw [List.append_assoc] at hr
    obtain ⟨child, hchild, hreads⟩ := hown.reads hr
    obtain ⟨new, hnew, hchildren⟩ :=
      childrenReads_of_spelled hne htag hrest (Cursor.rest_past hr)
    obtain ⟨c, inner, hinner, hc⟩ := hown.head
    refine ⟨.element child :: new, ?_, fun found => ?_⟩
    · rw [childrenUnplaced, childrenUnplaced, Child.unplaced, Child.unplaced, hchild, hnew]
    · have hr' : cursor.rest = '<' :: (c :: inner ++ (rest ++ tail)) := by rw [hr, hinner]; rfl
      have hslash : (c :: inner ++ (rest ++ tail)).head? ≠ some '/' := by
        intro hslash
        obtain rfl : c = '/' := by simpa using hslash
        exact absurd hc (by decide)
      have hall := hchildren (.element child :: found)
      rw [List.reverse_cons, List.append_assoc, List.singleton_append, ← Cursor.past_append] at hall
      exact Reader.ChildrenReads.element hr' hslash hreads hall
  | .text own :: children, tag, texted, content, hne, htag, h, cursor, tail, hr => by
    unfold childrenSpelled at h
    obtain ⟨-, hown, hchars, rest, hrest, rfl⟩ := h
    rw [List.append_assoc] at hr
    obtain ⟨new, hnew, hchildren⟩ :=
      childrenReads_of_spelled hne htag hrest (Cursor.rest_past hr)
    refine ⟨.text own :: new, ?_, fun found => ?_⟩
    · rw [childrenUnplaced, childrenUnplaced, hnew]
    · have hall := hchildren (.text own :: found)
      rw [List.reverse_cons, List.append_assoc, List.singleton_append, ← Cursor.past_append] at hall
      exact Reader.ChildrenReads.text hr hown hchars (childrenSpelled_texted hrest) hall
  | .hole nodes :: children, tag, texted, content, hne, htag, h, cursor, tail, hr => by
    unfold childrenSpelled at h
    obtain ⟨code, rest, hcode, hrest, rfl⟩ := h
    have hr : cursor.rest = '{' :: code ++ '}' :: (rest ++ tail) := by rw [hr]; simp
    have hnodes := nodesRead_of_spelled hcode Draft.Alike.rfl (Cursor.rest_next hr) rfl
      (by simp; decide)
    obtain ⟨inside, hinside, hhole⟩ := hnodes.holeReads hr
    have hr' : (cursor.past ('{' :: code ++ ['}'])).rest = rest ++ tail :=
      Cursor.rest_past (by rw [hr]; simp)
    obtain ⟨new, hnew, hchildren⟩ := childrenReads_of_spelled hne htag hrest hr'
    refine ⟨.hole inside :: new, ?_, fun found => ?_⟩
    · rw [childrenUnplaced, childrenUnplaced, Child.unplaced, Child.unplaced, hinside, hnew]
    · have hall := hchildren (.hole inside :: found)
      rw [List.reverse_cons, List.append_assoc, List.singleton_append, ← Cursor.past_append,
        List.append_assoc, List.singleton_append] at hall
      exact Reader.ChildrenReads.hole hr hhole hall

theorem nodesRead_of_spelled : ∀ {nodes : List Node} {close : Option Char} {lexer : Lexer}
    {draft draft' : Draft} {text : Text}, nodesSpelled close lexer draft nodes text →
    draft.Alike draft' → ∀ {cursor : Cursor} {tail : Text}, cursor.rest = text ++ tail →
    tail.head? = close.toList.head? → (∀ c ∈ close, isBlank c = false) →
    NodesRead close lexer draft' nodes cursor (cursor.past text)
  | [], close, lexer, draft, draft', text, h, halike, cursor, tail, hr, htail, hclose => by
    unfold nodesSpelled at h
    obtain ⟨hends, rfl⟩ := h
    exact ⟨[], lexer, draft', rfl, .refl, hends, (List.append_nil _).symm⟩
  | .code own :: nodes, close, lexer, draft, draft', text, h, halike, cursor, tail, hr, htail,
      hclose => by
    unfold nodesSpelled at h
    obtain ⟨hne, hpending, rest, hcopies, hrest, rfl⟩ := h
    rw [List.append_assoc] at hr
    have hhead : (rest ++ close.toList).head? = (rest ++ tail).head? := by
      rw [List.head?_append, List.head?_append, htail]
    have hsteps : Steps Reader.ElementReads close ⟨lexer, draft', cursor⟩ _ :=
      steps_of_copies (halike.copies (hcopies.congr hhead)) hr
    rw [Cursor.past_append]
    exact .cons rfl hsteps (Draft.finish_pushAll (by rw [← halike.pending, hpending]) hne)
      (nodesRead_of_spelled hrest (halike.pushAll own) (Cursor.rest_past hr) htail hclose)
  | .markup element :: nodes, close, lexer, draft, draft', text, h, halike, cursor, tail, hr, htail,
      hclose => by
    unfold nodesSpelled at h
    obtain ⟨own, rest, hown, hcode, hopens, hnone, hrest, rfl⟩ := h
    rw [List.append_assoc] at hr
    obtain ⟨found, hfound, hreads⟩ := hown.reads hr
    obtain ⟨c, inner, rfl, -⟩ := hown.head
    have hr' : (cursor.past ('<' :: c :: inner)).rest = rest ++ tail := Cursor.rest_past hr
    have hopens' : Reader.opensElement draft' cursor = true := by
      rw [← halike.opensElement, ← hopens]
      show Reader.opensElement draft (.ofText cursor.rest) = _
      rw [hr]
      exact Lexer.opensElement_congr rfl
    have hnone' : Reader.callee? draft' (cursor.past ('<' :: c :: inner)) = none := by
      rw [← halike.callee?, ← hnone]
      show Reader.callee? draft (.ofText (cursor.past ('<' :: c :: inner)).rest) = _
      rw [hr']
      refine callee?_congr htail ?_
      rw [htail]
      intro d hd
      exact hclose d (by simpa using hd)
    have hcode' : lexer.AtCode cursor.rest := hcode.congr (by rw [hr]; rfl)
    have hsame : (Node.markup found).unplaced = (Node.markup element).unplaced := by
      rw [Node.unplaced, Node.unplaced, hfound]
    rw [Cursor.past_append]
    exact .cons hsame (.single (.markup hcode' hopens' hreads hnone')) (draft'.finish_add _)
      (nodesRead_of_spelled hrest (Draft.Alike.add _ _) hr' htail hclose)
  | .call callee element :: nodes, close, lexer, draft, draft', text, h, halike, cursor, tail, hr,
      htail, hclose => by
    unfold nodesSpelled at h
    obtain ⟨before, behind, own, blanks, rest, hbefore, hbehind, hblanks, hown, hcopies, hcode,
      hopens, hpending, hrest, rfl⟩ := h
    generalize callee ++ before ++ '(' :: behind = head at *
    obtain ⟨c, inner, hinner, -⟩ := hown.head
    have hr : cursor.rest = head ++ (own ++ (blanks ++ ')' :: (rest ++ tail))) := by rw [hr]; simp
    have hr₁ : (cursor.past head).rest = own ++ (blanks ++ ')' :: (rest ++ tail)) :=
      Cursor.rest_past hr
    have hr₂ : ((cursor.past head).past own).rest = blanks ++ ')' :: (rest ++ tail) :=
      Cursor.rest_past hr₁
    have hr₃ : (((cursor.past head).past own).past blanks).rest = ')' :: (rest ++ tail) :=
      Cursor.rest_past hr₂
    obtain ⟨found, hfound, hreads⟩ := hown.reads hr₁
    have hhead : own.head? = (own ++ (blanks ++ ')' :: (rest ++ tail))).head? := by
      rw [hinner]; rfl
    have hsteps : Steps Reader.ElementReads close ⟨lexer, draft', cursor⟩ _ :=
      steps_of_copies (halike.copies (hcopies.congr hhead)) hr
    have hopens' : Reader.opensElement (draft'.pushAll head) (cursor.past head) = true := by
      rw [← (halike.pushAll head).opensElement, ← hopens]
      show Reader.opensElement _ (.ofText (cursor.past head).rest) = _
      rw [hr₁, hinner]
      exact Lexer.opensElement_congr rfl
    have hsome : Reader.callee? (draft'.pushAll head) ((cursor.past head).past own) =
        some ⟨callee, draft'.pending⟩ := by
      rw [callee?_of_paren hblanks hr₂, ← (halike.pushAll head).pending, hpending, halike.pending]
    have hcode' : (lexer.after head).AtCode (cursor.past head).rest := by
      rw [hr₁]
      exact hcode.congr hhead
    have hbeyond : ((cursor.past head).past own).skipBlanks.next =
        cursor.past (head ++ own ++ blanks ++ [')']) := by
      rw [Reader.skipBlanks_eq hr₂ hblanks (by simp; decide), Cursor.next_eq_past hr₃,
        ← Cursor.past_append, ← Cursor.past_append, ← Cursor.past_append]
      simp
    have hstep : Step Reader.ElementReads close
        ⟨lexer.after head, draft'.pushAll head, cursor.past head⟩
        ⟨(lexer.after head).leaveCall, draft'.add (.call callee found),
          cursor.past (head ++ own ++ blanks ++ [')'])⟩ := by
      rw [← hbeyond]
      exact .call hcode' hopens' hreads hsome
    have hsame : (Node.call callee found).unplaced = (Node.call callee element).unplaced := by
      rw [Node.unplaced, Node.unplaced, hfound]
    have hr₄ : (cursor.past (head ++ own ++ blanks ++ [')'])).rest = rest ++ tail :=
      Cursor.rest_past (by rw [hr]; simp)
    have hpast : cursor.past (head ++ own ++ blanks ++ ')' :: rest) =
        (cursor.past (head ++ own ++ blanks ++ [')'])).past rest := by
      rw [← Cursor.past_append]
      simp
    rw [hpast]
    exact .cons hsame (hsteps.tail hstep) (draft'.finish_add _)
      (nodesRead_of_spelled hrest (Draft.Alike.add _ _) hr₄ htail hclose)
  | .template _ :: nodes, close, lexer, draft, draft', text, h, halike, cursor, tail, hr, htail,
      hclose => by
    unfold nodesSpelled at h
    exact h.elim
  | .tagged _ _ :: nodes, close, lexer, draft, draft', text, h, halike, cursor, tail, hr, htail,
      hclose => by
    unfold nodesSpelled at h
    exact h.elim

end

/-- Every spelling of an expression reads as the expression, up to places. -/
theorem parse_of_spelled {expression : Expression} {text : Text} (h : expression.Spelled text) :
    ∃ found : Expression, parse text = .ok found ∧ found.unplaced = expression.unplaced := by
  have hr : (Cursor.ofText text).rest = text ++ [] := (List.append_nil text).symm
  have hnodes : NodesRead none .initial .empty expression (.ofText text) _ :=
    nodesRead_of_spelled h Draft.Alike.rfl hr rfl nofun
  obtain ⟨final, hfinal, hreads⟩ := hnodes.codeReads nofun (by rw [Cursor.rest_past hr]; rfl)
  exact ⟨final.finish, parse_eq_ok_iff.2 ⟨final, _, hreads _ _ (Nat.le_refl _), rfl⟩, hfinal⟩

end JsxTemplate
