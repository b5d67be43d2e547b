import Mathlib.Data.List.Basic
import JsxTemplate.Proofs.Completeness
import JsxTemplate.Proofs.Layout
import JsxTemplate.Proofs.MemberChains

/-
  Regular expressions: the markup language proper, without strings, comments and template literals
  in its code, where elements stand behind punctuation and callees are member chains. Whatever the
  layout of a regular expression, it is read back (`parse_of_layout`).
-/

namespace JsxTemplate

/-! ## Code of regular expressions -/

/-- Neither quotes nor slashes nor `<`. -/
def isPlain (c : Char) : Bool := !(List.contains ['\'', '"', '\x60', '/', '<'] c)

/-- A member chain that is not rooted at a keyword or a number. -/
def IsCallee (callee : Text) : Prop :=
  (∀ c ∈ callee, isPlain c = true) ∧ ∃ root, IsIdentifier root ∧ isKeyword root = false ∧
    (∀ c ∈ root.head?, c.isDigit = false) ∧ MemberChain root callee

/-- The punctuation that elements stand behind. A parenthesis would make it a call, and a second
plus or minus a comparison. -/
def markupPunctuation : List Char :=
  [',', '=', ':', '?', '[', '{', '!', '&', '|', ';', '*', '%', '~', '^', '>']

/-- The code ends in punctuation, but for blanks. -/
def EndsInPunctuation (code : Text) : Prop :=
  ∃ start blanks : Text, ∃ c ∈ markupPunctuation, blanks.isBlank ∧ code = start ++ c :: blanks

/-- A callee behind the code is not part of a longer one. -/
def SeparatesCallee (code : Text) : Prop :=
  (∀ c ∈ code.getLast?, isIdentifierChar c = false ∧ c ≠ '.') ∧ ¬ EndsInNew code

/-- The code among nodes. -/
def codeText : List Node → Text
  | [] => []
  | .code own :: nodes => own ++ codeText nodes
  | _ :: nodes => codeText nodes

def IsTagName (tag : Text) : Prop :=
  (∃ c rest, tag = c :: rest ∧ isTagStart c = true) ∧ ∀ c ∈ tag, isTagChar c = true

mutual

/-- An element that closes itself has neither children nor a closing tag, any other is closed by
its own tag. -/
def Element.Regular : Element → Prop
  | ⟨tag, attributes, children, selfClosing, closing, _⟩ =>
    IsTagName tag ∧ attributesRegular attributes ∧ childrenRegular false children ∧
      if selfClosing then children = [] ∧ closing = none else closing = some tag

def Attribute.Regular : Attribute → Prop
  | .literal name raw => IsAttributeName name ∧ IsQuoted raw
  | .hole name nodes =>
    IsAttributeName name ∧ Balanced (codeText nodes) ∧ nodesRegular true [] nodes
  | .bare name => IsAttributeName name

def attributesRegular : List Attribute → Prop
  | [] => True
  | a :: attributes => a.Regular ∧ attributesRegular attributes

/-- Children, behind a text or not. -/
def childrenRegular (texted : Bool) : List Child → Prop
  | [] => True
  | .element element :: children => element.Regular ∧ childrenRegular false children
  | .text own :: children =>
    texted = false ∧ own ≠ [] ∧ (∀ c ∈ own, c ≠ '<' ∧ c ≠ '{') ∧ childrenRegular true children
  | .hole nodes :: children =>
    Balanced (codeText nodes) ∧ nodesRegular true [] nodes ∧ childrenRegular false children

/-- Nodes with the code `before` directly before them, or with nothing before them (`first`). -/
def nodesRegular (first : Bool) (before : Text) : List Node → Prop
  | [] => True
  | .code own :: nodes =>
    before = [] ∧ own ≠ [] ∧ (∀ c ∈ own, isPlain c = true) ∧ nodesRegular false own nodes
  | .markup element :: nodes =>
    (first = true ∨ EndsInPunctuation before) ∧ element.Regular ∧ nodesRegular false [] nodes
  | .call callee element :: nodes =>
    IsCallee callee ∧ SeparatesCallee before ∧ element.Regular ∧ nodesRegular false [] nodes
  | .template _ :: _ => False
  | .tagged _ _ :: _ => False

end

def Expression.Regular (expression : Expression) : Prop :=
  Balanced (codeText expression) ∧ nodesRegular true [] expression

/-! ## Copying plain code -/

theorem ne_of_isPlain {c : Char} (h : isPlain c = true) :
    c ≠ '\'' ∧ c ≠ '"' ∧ c ≠ '\x60' ∧ c ≠ '/' ∧ c ≠ '<' := by
  simpa [isPlain] using h

/-- Neither blanks nor names hold them. -/
theorem isPlain_of {p : Char → Bool} (hp : ∀ d ∈ ['\'', '"', '\x60', '/', '<'], p d = false)
    {c : Char} (h : p c = true) : isPlain c = true := by
  rw [isPlain, Bool.not_eq_true', List.contains_eq_mem, decide_eq_false_iff_not]
  intro hmem
  rw [hp c hmem] at h
  cases h

theorem isPlain_of_isBlank {c : Char} (h : isBlank c = true) : isPlain c = true :=
  isPlain_of (Text.eq_false_of_all (by decide)) h

theorem isPlain_of_isIdentifierChar {c : Char} (h : isIdentifierChar c = true) : isPlain c = true :=
  isPlain_of (Text.eq_false_of_all (by decide)) h

/-- Plain code that closes nothing from outside is copied. -/
theorem copies_of_isPlain {close : Option Char} {text : Text}
    (hplain : ∀ c ∈ text, isPlain c = true) {depth depth' : Nat}
    (hdepth : openAfter? depth text = some depth') (draft : Draft) (rest : Text) :
    Lexer.Copies close ⟨.code, depth, []⟩ draft text rest ∧
      Lexer.after ⟨.code, depth, []⟩ text = ⟨.code, depth', []⟩ := by
  induction text generalizing depth draft with
  | nil =>
    rw [openAfter?, Option.some.injEq] at hdepth
    exact ⟨trivial, by rw [hdepth]; rfl⟩
  | cons c text ih =>
    have htext : ∀ d ∈ text, isPlain d = true := fun d hd => hplain d (by simp [hd])
    obtain ⟨hsingle, hdouble, htick, hslash, hlt⟩ := ne_of_isPlain (hplain c (by simp))
    have htakes : (isCloser c = true → depth ≠ 0) →
        Lexer.Takes close ⟨.code, depth, []⟩ draft (c :: text ++ rest) := fun hclose =>
      Lexer.takes_of_atCode trivial (fun hc h0 => absurd h0 (hclose hc)) fun h => absurd h hlt
    have hstep : Lexer.step ⟨.code, depth, []⟩ c = Lexer.codeStep ⟨.code, depth, []⟩ c := rfl
    rw [Lexer.Copies, Lexer.after_cons, hstep]
    rw [openAfter?] at hdepth
    split at hdepth
    next ho =>
      have hcloser : isCloser c = true → depth ≠ 0 := fun hc => by
        rw [Lexer.not_isOpener_of_isCloser hc] at ho
        cases ho
      obtain ⟨hcopies, hafter⟩ := ih htext hdepth (draft.push c)
      rw [Lexer.codeStep_opener ho]
      exact ⟨⟨htakes hcloser, hcopies⟩, hafter⟩
    next ho =>
      split at hdepth
      next hc =>
        split at hdepth
        · cases hdepth
        next h0 =>
          obtain ⟨hcopies, hafter⟩ := ih htext hdepth (draft.push c)
          rw [Lexer.codeStep_closer hc (by simp)]
          exact ⟨⟨htakes fun _ => h0, hcopies⟩, hafter⟩
      next hc =>
        obtain ⟨hcopies, hafter⟩ := ih htext hdepth (draft.push c)
        rw [Lexer.codeStep_plain (by simpa using ho) (by simpa using hc) ⟨hsingle, hdouble⟩ htick
          hslash]
        exact ⟨⟨htakes fun h => absurd h hc, hcopies⟩, hafter⟩

/-! ## Finding callees -/

/-- A callee behind code that it does not run into is found. -/
theorem ofPending?_of_isCallee {callee code : Text} (hcallee : IsCallee callee)
    (hcode : SeparatesCallee code) :
    Callee.ofPending? ('(' :: (callee.reverse ++ code.reverse)) = some ⟨callee, code.reverse⟩ := by
  obtain ⟨-, root, hroot, hkeyword, hdigit, hchain⟩ := hcallee
  obtain ⟨hlast, hnew⟩ := hcode
  obtain ⟨called, hloose⟩ := hchain.loose
  rw [← List.head?_reverse] at hlast
  rw [ofPending?_of_isLooseChain ⟨root, hroot, hloose⟩ hlast, Callee.ofChain?,
    if_pos ((hloose.isCallable_iff hroot _).2 ⟨hkeyword, hdigit⟩), beforeNew?_of_separates hnew]

theorem openAfter?_call {callee before behind : Text} (hcallee : IsCallee callee)
    (hbefore : before.isBlank) (hbehind : behind.isBlank) (depth : Nat) :
    openAfter? depth (callee ++ before ++ '(' :: behind) = some (depth + 1) := by
  obtain ⟨-, root, hroot, -, -, hchain⟩ := hcallee
  obtain ⟨called, hloose⟩ := hchain.loose
  rw [List.append_assoc, openAfter?_append, hloose.openAfter? hroot, Option.bind_some,
    openAfter?_append, openAfter?_of_isBlank hbefore, Option.bind_some]
  exact openAfter?_of_isBlank hbehind (depth + 1)

theorem isPlain_call {callee before behind : Text} (hcallee : IsCallee callee)
    (hbefore : before.isBlank) (hbehind : behind.isBlank) :
    ∀ c ∈ callee ++ before ++ '(' :: behind, isPlain c = true := by
  intro c hc
  simp only [List.mem_append, List.mem_cons] at hc
  rcases hc with (hc | hc) | rfl | hc
  · exact hcallee.1 c hc
  · exact isPlain_of_isBlank (List.all_eq_true.1 hbefore c hc)
  · rfl
  · exact isPlain_of_isBlank (List.all_eq_true.1 hbehind c hc)

/-! ## Elements behind punctuation -/

theorem pending_of_endsInPunctuation {code : Text} (h : EndsInPunctuation code) :
    ∃ c before, c ∈ markupPunctuation ∧ code.reverse.dropWhile isBlank = c :: before := by
  obtain ⟨start, blanks, c, hc, hblanks, rfl⟩ := h
  refine ⟨c, start.reverse, hc, ?_⟩
  have hnone : ∀ d ∈ markupPunctuation, isBlank d = false := Text.eq_false_of_all (by decide)
  have hreverse : (start ++ c :: blanks).reverse = blanks.reverse ++ c :: start.reverse := by simp
  rw [hreverse, List.dropWhile_append_of_pos (by simpa [Text.isBlank] using hblanks),
    List.dropWhile_cons_of_neg (by simp [hnone c hc])]

theorem atExpressionStart_of_punctuation {draft : Draft} {c : Char} {before : Text}
    (hpending : draft.pending.dropWhile isBlank = c :: before) (hc : c ∈ markupPunctuation) :
    draft.atExpressionStart = true := by
  have hall : markupPunctuation.all fun d =>
      expressionPunctuation.contains d && (d != '+' && d != '-') := by decide
  have hpunctuation := List.all_eq_true.1 hall c hc
  simp only [Bool.and_eq_true, bne_iff_ne] at hpunctuation
  obtain ⟨hmem, hplus, hminus⟩ := hpunctuation
  unfold Draft.atExpressionStart
  rw [hpending]
  split
  next heq => cases heq
  next heq => exact absurd (List.cons.inj heq).1 hplus
  next heq => exact absurd (List.cons.inj heq).1 hminus
  next last rest _ _ heq =>
    obtain ⟨rfl, rfl⟩ := List.cons.inj heq
    rw [hmem, Bool.true_or]

/-- Behind punctuation an element is no argument of a call. -/
theorem callee?_of_not_paren {draft : Draft}
    (h : (draft.pending.dropWhile isBlank).head? ≠ some '(') (cursor : Cursor) :
    Reader.callee? draft cursor = none := by
  unfold Reader.callee? Callee.ofPending?
  split
  · split
    next head heq => exact absurd (by rw [heq]; rfl) h
    next => rfl
  · rfl

/-! ## Layouts of regular expressions are spellings -/

/-- An element begins with `<` and the first character of its tag. -/
theorem Element.Layout.head {element : Element} {own : Text} (hregular : element.Regular)
    (h : element.Layout own) : ∃ c rest, own = '<' :: c :: rest ∧ isTagStart c = true := by
  obtain ⟨tag, attributes, children, selfClosing, closing, span⟩ := element
  unfold Element.Regular at hregular
  unfold Element.Layout at h
  obtain ⟨⟨⟨⟨c, tag, rfl, hc⟩, -⟩, -⟩, inside, -, h⟩ := And.intro hregular h
  cases selfClosing with
  | true => exact ⟨c, _, h.2.2, hc⟩
  | false =>
    obtain ⟨-, content, before, behind, -, -, -, rfl⟩ := h
    exact ⟨c, _, rfl, hc⟩

mutual

theorem Element.Layout.spelled : ∀ {element : Element} {own : Text}, element.Layout own →
    element.Regular → element.Spelled own
  | ⟨tag, attributes, children, selfClosing, closing, span⟩, own, h, hregular => by
    unfold Element.Regular at hregular
    unfold Element.Layout at h
    obtain ⟨⟨⟨c, rest, hcons, -⟩, htag⟩, hattributes, hchildren, -⟩ := hregular
    obtain ⟨inside, hinside, h⟩ := h
    have hne : tag ≠ [] := by rw [hcons]; exact List.cons_ne_nil c rest
    unfold Element.Spelled
    refine ⟨hne, htag, inside, attributesLayout_spelled hinside hattributes, ?_⟩
    cases selfClosing with
    | true => exact h
    | false =>
      obtain ⟨hclosing, content, before, behind, hcontent, hbefore, hbehind, rfl⟩ := h
      refine ⟨hclosing, content ++ '<' :: '/' :: before ++ tag ++ behind ++ ['>'],
        childrenLayout_spelled hcontent hchildren hbefore hbehind, ?_⟩
      simp

theorem attributesLayout_spelled : ∀ {attributes : List Attribute} {named : Bool} {inside : Text},
    attributesLayout named attributes inside → attributesRegular attributes →
    attributesSpelled named attributes inside
  | [], named, inside, h, _ => by
    unfold attributesLayout at h
    unfold attributesSpelled
    exact h
  | a :: attributes, named, inside, h, hregular => by
    unfold attributesLayout at h
    unfold attributesRegular at hregular
    obtain ⟨blanks, own, rest, hblanks, hne, hown, hrest, rfl⟩ := h
    unfold attributesSpelled
    exact ⟨blanks, own, rest, hblanks, hne, hown.spelled hregular.1,
      attributesLayout_spelled hrest hregular.2, rfl⟩

theorem Attribute.Layout.spelled : ∀ {a : Attribute} {own : Text}, a.Layout own → a.Regular →
    a.Spelled own
  | .literal name raw, own, h, hregular => by
    unfold Attribute.Layout at h
    unfold Attribute.Regular at hregular
    unfold Attribute.Spelled
    exact ⟨hregular.1, hregular.2, h⟩
  | .hole name nodes, own, h, hregular => by
    unfold Attribute.Layout at h
    unfold Attribute.Regular at hregular
    obtain ⟨hname, hbalanced, hnodes⟩ := hregular
    obtain ⟨before, behind, code, hbefore, hbehind, hcode, rfl⟩ := h
    unfold Attribute.Spelled
    exact ⟨hname, before, behind, code, hbefore, hbehind,
      nodesLayout_spelled hcode hnodes hbalanced rfl (fun _ => ⟨rfl, rfl⟩), rfl⟩
  | .bare name, own, h, hregular => by
    unfold Attribute.Layout at h
    unfold Attribute.Regular at hregular
    unfold Attribute.Spelled
    exact ⟨hregular, h⟩

theorem childrenLayout_spelled : ∀ {children : List Child} {tag : Text} {texted : Bool}
    {content before behind : Text}, childrenLayout children content →
    childrenRegular texted children → before.isBlank → behind.isBlank →
    childrenSpelled tag texted children (content ++ '<' :: '/' :: before ++ tag ++ behind ++ ['>'])
  | [], tag, texted, content, before, behind, h, _, hbefore, hbehind => by
    unfold childrenLayout at h
    subst h
    unfold childrenSpelled
    exact ⟨before, behind, hbefore, hbehind, rfl⟩
  | .element element :: children, tag, texted, content, before, behind, h, hregular, hbefore,
      hbehind => by
    unfold childrenLayout at h
    unfold childrenRegular at hregular
    obtain ⟨own, rest, hown, hrest, rfl⟩ := h
    rw [Child.Layout] at hown
    unfold childrenSpelled
    exact ⟨own, _, hown.spelled hregular.1,
      childrenLayout_spelled hrest hregular.2 hbefore hbehind, by simp⟩
  | .text own :: children, tag, texted, content, before, behind, h, hregular, hbefore,
      hbehind => by
    unfold childrenLayout at h
    unfold childrenRegular at hregular
    obtain ⟨htexted, hne, hchars, hchildren⟩ := hregular
    obtain ⟨own', rest, hown, hrest, rfl⟩ := h
    rw [Child.Layout] at hown
    subst hown
    unfold childrenSpelled
    exact ⟨htexted, hne, hchars, _, childrenLayout_spelled hrest hchildren hbefore hbehind, by simp⟩
  | .hole nodes :: children, tag, texted, content, before, behind, h, hregular, hbefore,
      hbehind => by
    unfold childrenLayout at h
    unfold childrenRegular at hregular
    obtain ⟨hbalanced, hnodes, hchildren⟩ := hregular
    obtain ⟨own, rest, hown, hrest, rfl⟩ := h
    rw [Child.Layout] at hown
    obtain ⟨code, hcode, rfl⟩ := hown
    unfold childrenSpelled
    exact ⟨code, _, nodesLayout_spelled hcode hnodes hbalanced rfl (fun _ => ⟨rfl, rfl⟩),
      childrenLayout_spelled hrest hchildren hbefore hbehind, by simp⟩

/-- The nodes follow the code `before` in a draft; the lexer never leaves the code. -/
theorem nodesLayout_spelled : ∀ {nodes : List Node} {close : Option Char} {depth : Nat}
    {first : Bool} {before text : Text} {draft : Draft}, nodesLayout nodes text →
    nodesRegular first before nodes → openAfter? depth (codeText nodes) = some 0 →
    draft.pending = before.reverse →
    (first = true → draft.nodes = [] ∧ before = []) →
    nodesSpelled close ⟨.code, depth, []⟩ draft nodes text
  | [], close, depth, first, before, text, draft, h, hregular, hdepth, hpending, hfirst => by
    unfold nodesLayout at h
    rw [codeText, openAfter?, Option.some.injEq] at hdepth
    unfold nodesSpelled
    exact ⟨⟨trivial, rfl, fun _ => hdepth⟩, h⟩
  | .code own :: nodes, close, depth, first, before, text, draft, h, hregular, hdepth, hpending,
      hfirst => by
    unfold nodesLayout at h
    unfold nodesRegular at hregular
    obtain ⟨rfl, hne, hplain, hnodes⟩ := hregular
    obtain ⟨own', rest, hown, hrest, rfl⟩ := h
    rw [Node.Layout] at hown
    subst hown
    rw [codeText, openAfter?_append] at hdepth
    obtain ⟨depth', hown, hdepth⟩ := Option.bind_eq_some_iff.1 hdepth
    obtain ⟨hcopies, hafter⟩ := copies_of_isPlain hplain hown draft (rest ++ close.toList)
    have hpushed : (draft.pushAll own').pending = own'.reverse := by
      rw [Draft.pushAll_pending, hpending]
      simp
    rw [nodesSpelled, hafter]
    exact ⟨hne, by rw [hpending]; rfl, rest, hcopies,
      nodesLayout_spelled hrest hnodes hdepth hpushed nofun, rfl⟩
  | .markup element :: nodes, close, depth, first, before, text, draft, h, hregular, hdepth,
      hpending, hfirst => by
    unfold nodesLayout at h
    unfold nodesRegular at hregular
    obtain ⟨hstart, helement, hnodes⟩ := hregular
    obtain ⟨own, rest, hown, hrest, rfl⟩ := h
    rw [Node.Layout] at hown
    obtain ⟨c, inner, hinner, hc⟩ := hown.head helement
    have hat : draft.atExpressionStart = true ∧
        (draft.pending.dropWhile isBlank).head? ≠ some '(' := by
      rcases hstart with hone | hpunctuation
      · obtain ⟨hnone, rfl⟩ := hfirst hone
        have hnil : draft.pending = [] := hpending
        simp [Draft.atExpressionStart, hnil, hnone]
      · obtain ⟨d, start, hd, hdrop⟩ := pending_of_endsInPunctuation hpunctuation
        rw [← hpending] at hdrop
        refine ⟨atExpressionStart_of_punctuation hdrop hd, ?_⟩
        rw [hdrop]
        rintro ⟨⟩
        exact absurd hd (by decide)
    have hopens : Reader.opensElement draft (.ofText own) = true := by
      rw [Reader.opensElement, hat.1, hinner]
      simp [Cursor.ofText, Cursor.peekNext, Cursor.peekAt, hc]
    unfold nodesSpelled
    exact ⟨own, rest, hown.spelled helement, trivial, hopens, callee?_of_not_paren hat.2 _,
      nodesLayout_spelled hrest hnodes hdepth (draft.add_pending _) nofun, rfl⟩
  | .call callee element :: nodes, close, depth, first, before, text, draft, h, hregular, hdepth,
      hpending, hfirst => by
    unfold nodesLayout at h
    unfold nodesRegular at hregular
    obtain ⟨hcallee, hseparates, helement, hnodes⟩ := hregular
    obtain ⟨own, rest, hown, hrest, rfl⟩ := h
    rw [Node.Layout] at hown
    obtain ⟨ahead, behind, inner, blanks, hahead, hbehind, hblanks, hinner, rfl⟩ := hown
    obtain ⟨c, tail, htail, hc⟩ := hinner.head helement
    have hopen : openAfter? depth (callee ++ ahead ++ '(' :: behind) = some (depth + 1) :=
      openAfter?_call hcallee hahead hbehind depth
    obtain ⟨hcopies, hafter⟩ :=
      copies_of_isPlain (isPlain_call hcallee hahead hbehind) hopen draft inner
    have hopens : Reader.opensElement (draft.pushAll (callee ++ ahead ++ '(' :: behind))
        (.ofText inner) = true := by
      rw [Reader.opensElement, atExpressionStart_call hbehind, htail]
      simp [Cursor.ofText, Cursor.peekNext, Cursor.peekAt, hc]
    have hfound : Callee.ofPending? (draft.pushAll (callee ++ ahead ++ '(' :: behind)).pending =
        some ⟨callee, draft.pending⟩ := by
      rw [ofPending?_call hahead hbehind, hpending, ofPending?_of_isCallee hcallee hseparates]
    unfold nodesSpelled
    refine ⟨ahead, behind, inner, blanks, rest, hahead, hbehind, hblanks, hinner.spelled helement,
      hcopies, ?_, hopens, hfound, ?_, by simp⟩
    · rw [hafter]
      trivial
    · rw [hafter]
      exact nodesLayout_spelled hrest hnodes hdepth (draft.add_pending _) nofun
  | .template _ :: nodes, close, depth, first, before, text, draft, h, hregular, _, _, _ => by
    unfold nodesRegular at hregular
    exact hregular.elim
  | .tagged _ _ :: nodes, close, depth, first, before, text, draft, h, hregular, _, _, _ => by
    unfold nodesRegular at hregular
    exact hregular.elim

end

/-! ## Regular expressions have layouts -/

mutual

theorem Element.Regular.layout : ∀ {element : Element}, element.Regular →
    element.Layout element.toSource
  | ⟨tag, attributes, children, selfClosing, closing, span⟩, h => by
    unfold Element.Regular at h
    obtain ⟨-, hattributes, hchildren, hclosing⟩ := h
    rw [Element.toSource, Element.Layout]
    refine ⟨attributesSource attributes, attributesRegular_layout hattributes true, ?_⟩
    cases selfClosing with
    | true => exact ⟨hclosing.1, hclosing.2, rfl⟩
    | false =>
      obtain rfl : closing = some tag := hclosing
      exact ⟨rfl, childrenSource children, [], [], childrenRegular_layout hchildren, rfl, rfl,
        by simp [closingSource]⟩

theorem attributesRegular_layout : ∀ {attributes : List Attribute}, attributesRegular attributes →
    ∀ named, attributesLayout named attributes (attributesSource attributes)
  | [], _, named => by
    rw [attributesSource, attributesLayout]
    rfl
  | a :: attributes, h, named => by
    unfold attributesRegular at h
    obtain ⟨own, hsource, hown⟩ := h.1.layout
    rw [attributesSource, hsource, attributesLayout]
    exact ⟨[' '], own, attributesSource attributes, by decide, by simp, hown,
      attributesRegular_layout h.2 _, rfl⟩

theorem Attribute.Regular.layout : ∀ {a : Attribute}, a.Regular →
    ∃ own, a.toSource = ' ' :: own ∧ a.Layout own
  | .literal name raw, _ => by
    refine ⟨name ++ '=' :: raw, by rw [Attribute.toSource]; simp, ?_⟩
    unfold Attribute.Layout
    exact ⟨[], [], rfl, rfl, by simp⟩
  | .hole name nodes, h => by
    unfold Attribute.Regular at h
    refine ⟨name ++ '=' :: '{' :: nodesSource nodes ++ ['}'], by rw [Attribute.toSource]; simp, ?_⟩
    unfold Attribute.Layout
    exact ⟨[], [], nodesSource nodes, rfl, rfl, nodesRegular_layout h.2.2, by simp⟩
  | .bare name, _ => by
    refine ⟨name, by rw [Attribute.toSource]; simp, ?_⟩
    unfold Attribute.Layout
    rfl

theorem childrenRegular_layout : ∀ {children : List Child} {texted : Bool},
    childrenRegular texted children → childrenLayout children (childrenSource children)
  | [], texted, _ => by rw [childrenSource, childrenLayout]
  | .element element :: children, texted, h => by
    unfold childrenRegular at h
    rw [childrenSource, Child.toSource, childrenLayout]
    exact ⟨_, _, by rw [Child.Layout]; exact h.1.layout, childrenRegular_layout h.2, rfl⟩
  | .text own :: children, texted, h => by
    unfold childrenRegular at h
    rw [childrenSource, Child.toSource, childrenLayout]
    exact ⟨_, _, by rw [Child.Layout], childrenRegular_layout h.2.2.2, rfl⟩
  | .hole nodes :: children, texted, h => by
    unfold childrenRegular at h
    rw [childrenSource, Child.toSource, childrenLayout]
    refine ⟨_, _, ?_, childrenRegular_layout h.2.2, rfl⟩
    rw [Child.Layout]
    exact ⟨nodesSource nodes, nodesRegular_layout h.2.1, rfl⟩

theorem nodesRegular_layout : ∀ {nodes : List Node} {first : Bool} {before : Text},
    nodesRegular first before nodes → nodesLayout nodes (nodesSource nodes)
  | [], first, before, _ => by rw [nodesSource, nodesLayout]
  | .code own :: nodes, first, before, h => by
    unfold nodesRegular at h
    rw [nodesSource, Node.toSource, nodesLayout]
    exact ⟨_, _, by rw [Node.Layout], nodesRegular_layout h.2.2.2, rfl⟩
  | .markup element :: nodes, first, before, h => by
    unfold nodesRegular at h
    rw [nodesSource, Node.toSource, nodesLayout]
    exact ⟨_, _, by rw [Node.Layout]; exact h.2.1.layout, nodesRegular_layout h.2.2, rfl⟩
  | .call callee element :: nodes, first, before, h => by
    unfold nodesRegular at h
    rw [nodesSource, Node.toSource, nodesLayout]
    refine ⟨_, _, ?_, nodesRegular_layout h.2.2.2, rfl⟩
    rw [Node.Layout]
    exact ⟨[], [], element.toSource, [], rfl, rfl, rfl, h.2.2.1.layout, by simp⟩
  | .template _ :: nodes, first, before, h => by
    unfold nodesRegular at h
    exact h.elim
  | .tagged _ _ :: nodes, first, before, h => by
    unfold nodesRegular at h
    exact h.elim

end

/-- A regular expression is printed as one of its layouts, and every layout of it reads as the
expression, up to places. -/
theorem parse_of_layout {expression : Expression} (h : expression.Regular) :
    expression.Layout expression.toSource ∧ ∀ text, expression.Layout text →
      ∃ found : Expression, parse text = .ok found ∧ found.unplaced = expression.unplaced :=
  ⟨nodesRegular_layout h.2, fun _ hlayout =>
    parse_of_spelled (nodesLayout_spelled hlayout h.2 h.1 rfl fun _ => ⟨rfl, rfl⟩)⟩

/-- An element in an array and one in a call, with blanks where they are free. -/
theorem parse_of_layout_array :
    ∃ expression : Expression, expression.Regular ∧
      expression.toSource = "x=[<a b c={y}>t</a>,v.f(1)(<i/>)]".toList ∧
      ∃ found : Expression,
        parse "x=[<a\n b c = {y} >t</ a >,v.f(1) ( <i /> )]".toList = .ok found ∧
          found.unplaced = expression.unplaced := by
  have hname : ∀ c, isAttributeStart c = true → IsAttributeName [c] := fun c hc =>
    ⟨⟨c, [], rfl, hc⟩, by simpa using isAttributeChar_of_isAttributeStart hc⟩
  have htag : ∀ c, isTagStart c = true → IsTagName [c] := fun c hc =>
    ⟨⟨c, [], rfl, hc⟩, by simpa using isTagChar_of_isTagStart hc⟩
  have hplain : ∀ {text : Text}, text.all isPlain = true → ∀ c ∈ text, isPlain c = true :=
    List.all_eq_true.1
  have hcallee : IsCallee "v.f(1)".toList := by
    have hname : ∀ c, isIdentifierChar c = true → IsIdentifier [c] := fun c hc =>
      ⟨by simp, by simpa using hc⟩
    refine ⟨hplain (by decide), ['v'], hname 'v' (by decide), by decide, by simp, ?_⟩
    have hmember : MemberChain ['v'] (['v'] ++ '.' :: ['f']) :=
      .member .root (hname 'f' (by decide))
    exact .group hmember (.inl ⟨rfl, rfl⟩) (show Balanced ['1'] from rfl)
  have hseparates : SeparatesCallee [','] := by
    refine ⟨by simp; decide, ?_⟩
    rintro ⟨start, blanks, -, heq, -⟩
    have hlength := congrArg List.length heq
    simp at hlength
    omega
  have hregular : Expression.Regular [.code "x=[".toList,
      .markup ⟨['a'], [.bare ['b'], .hole ['c'] [.code ['y']]], [.text ['t']], false,
        some ['a'], .nowhere⟩,
      .code [','], .call "v.f(1)".toList ⟨['i'], [], [], true, none, .nowhere⟩, .code [']']] := by
    refine ⟨rfl, ?_⟩
    simp only [nodesRegular, Element.Regular, attributesRegular, Attribute.Regular, childrenRegular]
    refine ⟨trivial, by decide, hplain (by decide), .inr ⟨['x', '='], [], '[', by decide, rfl, rfl⟩,
      ⟨htag 'a' (by decide), ⟨hname 'b' (by decide), ⟨hname 'c' (by decide), rfl, trivial,
        by decide, hplain (by decide), trivial⟩, trivial⟩,
        ⟨trivial, by decide, by simp, trivial⟩, trivial⟩,
      trivial, by decide, hplain (by decide), hcallee, hseparates,
      ⟨htag 'i' (by decide), trivial, trivial, ?_⟩, trivial, by decide, hplain (by decide), trivial⟩
    exact ⟨trivial, trivial⟩
  refine ⟨_, hregular, by decide +kernel, (parse_of_layout hregular).2 _ ?_⟩
  simp only [Expression.Layout, nodesLayout, Node.Layout, Element.Layout, attributesLayout,
    Attribute.Layout, childrenLayout, Child.Layout]
  refine ⟨_, "<a\n b c = {y} >t</ a >,v.f(1) ( <i /> )]".toList, rfl,
    ⟨"<a\n b c = {y} >t</ a >".toList, ",v.f(1) ( <i /> )]".toList,
      ⟨"\n b c = {y} ".toList, ?_, ?_⟩,
      ⟨_, "v.f(1) ( <i /> )]".toList, rfl, ⟨"v.f(1) ( <i /> )".toList, [']'], ?_,
        ⟨_, _, rfl, rfl, rfl⟩, by decide⟩, by decide⟩, by decide⟩, by decide⟩
  · exact ⟨['\n', ' '], ['b'], " c = {y} ".toList, by decide, by simp, rfl,
      ⟨[' '], "c = {y}".toList, [' '], by decide, by simp,
        ⟨[' '], [' '], ['y'], by decide, by decide, ⟨_, _, rfl, rfl, rfl⟩, by decide⟩, by decide,
        by decide⟩, by decide⟩
  · exact ⟨trivial, ['t'], [' '], [' '], ⟨_, _, rfl, rfl, rfl⟩, by decide, by decide, by decide⟩
  · exact ⟨[' '], [' '], "<i />".toList, [' '], by decide, by decide, by decide,
      ⟨[' '], by decide, trivial, trivial, by decide⟩, by decide⟩

end JsxTemplate
