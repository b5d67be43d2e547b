import JsxTemplate.Reader.Parse
import JsxTemplate.Proofs.Callee
import JsxTemplate.Proofs.Spelling
import JsxTemplate.Proofs.Steps

/-
  What is read is spelled: a source that reads as an expression is one of its spellings
  (`spelled_of_parse`). For code this is an induction over the steps of the reader, from the last
  one back, so that code pending at a step may still be cut into a callee later on; for markup it
  is an induction over the fuel.
-/

namespace JsxTemplate

/-! ## What stands behind a stretch of code -/

theorem not_isBlank_of_isCloser {c : Char} (h : isCloser c = true) : isBlank c = false := by
  simp only [isCloser, Bool.or_eq_true, beq_iff_eq] at h
  rcases h with (rfl | rfl) | rfl <;> decide

/-- An element begins with `<` and its tag. -/
theorem Element.Spelled.head {element : Element} {own : Text} (h : element.Spelled own) :
    ∃ c rest, own = '<' :: c :: rest ∧ isTagChar c = true := by
  obtain ⟨tag, attributes, children, selfClosing, closing, span⟩ := element
  unfold Element.Spelled at h
  obtain ⟨hne, htag, inside, -, h⟩ := h
  cases tag with
  | nil => exact absurd rfl hne
  | cons c tag =>
    refine ⟨c, ?_⟩
    split at h
    · exact ⟨_, h.2.2, htag c (by simp)⟩
    · obtain ⟨-, content, -, rfl⟩ := h
      exact ⟨_, rfl, htag c (by simp)⟩

/-- Looking past blanks, the end of an expression is seen as its closing bracket. -/
theorem callee?_congr {draft : Draft} {text rest rest' : Text} (h : rest.head? = rest'.head?)
    (hb : ∀ c ∈ rest.head?, isBlank c = false) :
    Reader.callee? draft (.ofText (text ++ rest)) =
      Reader.callee? draft (.ofText (text ++ rest')) := by
  have hp : (Cursor.ofText (text ++ rest)).peekPastBlanks =
      (Cursor.ofText (text ++ rest')).peekPastBlanks := by
    simp only [Cursor.peekPastBlanks, Cursor.ofText]
    induction text with
    | nil =>
      cases rest with
      | nil => cases rest' with
        | nil => rfl
        | cons c rest' => cases h
      | cons c rest => cases rest' with
        | nil => cases h
        | cons d rest' =>
          obtain rfl : c = d := by simpa using h
          have hc := hb c rfl
          simp [hc]
    | cons c text ih =>
      by_cases hc : isBlank c = true
      · simpa [hc] using ih
      · simp [hc]
  rw [Reader.callee?, Reader.callee?, hp]

theorem callee?_eq_some {draft : Draft} {cursor : Cursor} {callee : Callee}
    (h : Reader.callee? draft cursor = some callee) :
    (∃ blanks rest : Text, blanks.isBlank ∧ cursor.rest = blanks ++ ')' :: rest ∧
      cursor.skipBlanks.next.rest = rest) ∧ Callee.ofPending? draft.pending = some callee := by
  unfold Reader.callee? at h
  split at h
  next hparen =>
    refine ⟨?_, h⟩
    have hrest : cursor.skipBlanks.rest = cursor.rest.dropWhile isBlank :=
      cursor.rest_past_ahead isBlank
    rw [Cursor.peekPastBlanks, ← hrest, beq_iff_eq] at hparen
    cases hr : cursor.skipBlanks.rest with
    | nil => rw [hr] at hparen; cases hparen
    | cons c rest =>
      obtain rfl : c = ')' := by rw [hr] at hparen; exact hparen
      refine ⟨cursor.rest.takeWhile isBlank, rest, List.all_takeWhile, ?_, Cursor.rest_next hr⟩
      rw [← hr, hrest, List.takeWhile_append_dropWhile]
  next => cases h

/-! ## Code -/

/-- A run of code as nodes: one, or none if it is empty. -/
def codeNodes (text : Text) : List Node := if text.isEmpty then [] else [.code text]

theorem settle_nodes_reverse (draft : Draft) :
    draft.settle.nodes.reverse = draft.nodes.reverse ++ codeNodes draft.pending.reverse := by
  unfold Draft.settle codeNodes
  by_cases h : draft.pending = [] <;> simp [h]

theorem nodesSpelled_codeNodes {close : Option Char} {lexer : Lexer} {settled : List Node}
    {pending text : Text} {nodes : List Node}
    (hcopies : lexer.Copies close ⟨settled, []⟩ pending (text ++ close.toList))
    (h : nodesSpelled close (lexer.after pending) ((⟨settled, []⟩ : Draft).pushAll pending)
      nodes text) :
    nodesSpelled close lexer ⟨settled, []⟩ (codeNodes pending ++ nodes) (pending ++ text) := by
  unfold codeNodes
  by_cases hp : pending = []
  · subst hp
    simpa [Lexer.after_nil, Draft.pushAll] using h
  · rw [if_neg (by simpa using hp), List.singleton_append, nodesSpelled]
    exact ⟨hp, rfl, text, hcopies, h, rfl⟩

/-- What is still to be read, seen from a reader of code: its pending code was copied from `base`
on, and together with the rest it spells the nodes to come. -/
def Continues (close : Option Char) (final : Draft) (behind : Text) (lexer : Lexer) (draft : Draft)
    (cursor : Cursor) : Prop :=
  ∀ base : Lexer, lexer = base.after draft.pending.reverse →
    base.Copies close ⟨draft.nodes, []⟩ draft.pending.reverse cursor.rest →
    ∃ nodes text, final.finish = draft.nodes.reverse ++ nodes ∧ cursor.rest = text ++ behind ∧
      nodesSpelled close base ⟨draft.nodes, []⟩ nodes (draft.pending.reverse ++ text)

section Code

variable {close : Option Char} {final draft : Draft} {behind : Text} {lexer : Lexer}
  {cursor after : Cursor} {element : Element}

/-- Where the expression may end, nothing is left to read. -/
theorem continues_end (hends : lexer.Ends close) (hbehind : after.rest.head? = close.toList.head?) :
    Continues close final after.rest lexer final after := by
  intro base hlexer hcopies
  refine ⟨codeNodes final.pending.reverse ++ [], [], ?_, rfl, ?_⟩
  · rw [Draft.finish, settle_nodes_reverse, List.append_nil]
  · apply nodesSpelled_codeNodes (hcopies.congr hbehind)
    rw [← hlexer, nodesSpelled]
    exact ⟨hends, rfl⟩

theorem continues_copy {c : Char} {rest : Text} (hr : cursor.rest = c :: rest)
    (ht : lexer.Takes close draft cursor.rest)
    (h : Continues close final behind (lexer.step c) (draft.push c) cursor.next) :
    Continues close final behind lexer draft cursor := by
  intro base hlexer hcopies
  have hrest : cursor.rest = c :: cursor.next.rest := by rw [Cursor.rest_next hr, hr]
  have hpending : (draft.push c).pending.reverse = draft.pending.reverse ++ [c] :=
    List.reverse_cons
  have hlexer' : lexer.step c = base.after (draft.push c).pending.reverse := by
    rw [hpending, Lexer.after_append, ← hlexer]
    rfl
  have hcopies' : base.Copies close ⟨draft.nodes, []⟩ (draft.push c).pending.reverse
      cursor.next.rest := by
    rw [hpending, Lexer.copies_append, ← hlexer, Draft.pushAll_reverse, List.singleton_append,
      ← hrest]
    exact ⟨hcopies, by rw [List.singleton_append, ← hrest]; exact ht, trivial⟩
  obtain ⟨nodes, text, hfinish, htext, hspelled⟩ := h base hlexer' hcopies'
  refine ⟨nodes, c :: text, hfinish, ?_, ?_⟩
  · rw [hrest, htext]
    rfl
  · rw [hpending, List.append_assoc] at hspelled
    exact hspelled

/-- Behind a node nothing is pending. -/
theorem Continues.behind_node {node : Node}
    (h : Continues close final behind lexer (draft.add node) cursor) :
    ∃ nodes text,
      final.finish = draft.nodes.reverse ++ codeNodes draft.pending.reverse ++ node :: nodes ∧
      cursor.rest = text ++ behind ∧ nodesSpelled close lexer (draft.add node) nodes text := by
  have hadd : (⟨(draft.add node).nodes, []⟩ : Draft) = draft.add node := by
    rw [← draft.add_pending node]
  unfold Continues at h
  rw [Draft.add_pending, hadd] at h
  obtain ⟨nodes, text, hfinish, htext, hspelled⟩ := h lexer rfl trivial
  refine ⟨nodes, text, ?_, htext, hspelled⟩
  rw [hfinish]
  simp [Draft.add, settle_nodes_reverse]

theorem continues_markup (hbehind : behind.head? = close.toList.head?)
    (hclose : ∀ c ∈ behind.head?, isBlank c = false) {own : Text} (hown : element.Spelled own)
    (hrest : cursor.rest = own ++ after.rest) (hc : lexer.AtCode cursor.rest)
    (hopens : Reader.opensElement draft cursor = true) (hnone : Reader.callee? draft after = none)
    (h : Continues close final behind lexer.inCode (draft.add (.markup element)) after) :
    Continues close final behind lexer draft cursor := by
  intro base hlexer hcopies
  obtain ⟨nodes, text, hfinish, htext, hspelled⟩ := h.behind_node
  obtain ⟨c, inner, rfl, -⟩ := hown.head
  refine ⟨codeNodes draft.pending.reverse ++ .markup element :: nodes, '<' :: c :: inner ++ text,
    by rw [hfinish, List.append_assoc], by rw [hrest, htext, List.append_assoc], ?_⟩
  apply nodesSpelled_codeNodes (hcopies.congr (by rw [hrest]; rfl))
  rw [← hlexer, Draft.pushAll_reverse, nodesSpelled]
  refine ⟨_, text, hown, hc.congr (by rw [hrest]; rfl), ?_, ?_, hspelled, rfl⟩
  · rw [← hopens]
    show Reader.opensElement draft _ = Reader.opensElement draft (.ofText cursor.rest)
    rw [hrest]
    exact Lexer.opensElement_congr rfl
  · rw [← callee?_congr hbehind hclose, ← hnone]
    show _ = Reader.callee? draft (.ofText after.rest)
    rw [htext]

theorem continues_call {own : Text} (hown : element.Spelled own)
    (hrest : cursor.rest = own ++ after.rest) (hc : lexer.AtCode cursor.rest)
    (hopens : Reader.opensElement draft cursor = true) {callee : Callee}
    (hsome : Reader.callee? draft after = some callee)
    (h : Continues close final behind lexer.leaveCall
      ({ draft with pending := callee.before }.add (.call callee.text element))
      after.skipBlanks.next) :
    Continues close final behind lexer draft cursor := by
  intro base hlexer hcopies
  obtain ⟨nodes, text, hfinish, htext, hspelled⟩ := h.behind_node
  obtain ⟨⟨blanks, rest, hblanks, hparen, hbeyond⟩, hpending⟩ := callee?_eq_some hsome
  obtain ⟨before, around, hbefore, haround, hcut⟩ := Callee.ofPending?_eq_some hpending
  obtain ⟨c, inner, rfl, -⟩ := hown.head
  rw [hbeyond] at htext
  -- The pending code, oldest first: what stays code, the callee, and its parenthesis.
  have hsplit : draft.pending.reverse = callee.before.reverse ++
      (callee.text ++ before.reverse ++ '(' :: around.reverse) := by
    rw [hcut]
    simp
  have hdraft : (⟨draft.nodes, []⟩ : Draft).pushAll callee.before.reverse =
      { draft with pending := callee.before } :=
    Draft.pushAll_reverse { draft with pending := callee.before }
  have hwhole : Draft.pushAll { draft with pending := callee.before }
      (callee.text ++ before.reverse ++ '(' :: around.reverse) = draft := by
    rw [← hdraft, ← Draft.pushAll_append, ← hsplit, Draft.pushAll_reverse]
  rw [hsplit, Lexer.copies_append, hdraft] at hcopies
  rw [hsplit, Lexer.after_append] at hlexer
  refine ⟨codeNodes callee.before.reverse ++ .call callee.text element :: nodes,
    '<' :: c :: inner ++ blanks ++ ')' :: text, ?_, ?_, ?_⟩
  · rw [hfinish, List.append_assoc]
  · rw [hrest, hparen, htext]
    simp
  · rw [hsplit, List.append_assoc]
    refine nodesSpelled_codeNodes (hcopies.1.congr ?_) ?_
    · obtain ⟨d, name, hname, -⟩ := Callee.ofPending?_head hpending
      rw [hname]
      rfl
    rw [hdraft, nodesSpelled]
    refine ⟨before.reverse, around.reverse, _, blanks, text, by simpa [Text.isBlank] using hbefore,
      by simpa [Text.isBlank] using haround, hblanks, hown,
      hcopies.2.congr (by rw [hrest]; rfl), ?_⟩
    rw [hwhole, ← hlexer]
    refine ⟨hc.congr (by rw [hrest]; rfl), ?_, hpending, hspelled, by simp⟩
    rw [← hopens]
    show Reader.opensElement draft _ = Reader.opensElement draft (.ofText cursor.rest)
    rw [hrest]
    exact Lexer.opensElement_congr rfl

theorem continues_of_step {reads : Cursor → Element → Cursor → Prop}
    (hreads : ∀ cursor element after, reads cursor element after →
      ∃ own, element.Spelled own ∧ cursor.rest = own ++ after.rest)
    (hbehind : behind.head? = close.toList.head?) (hclose : ∀ c ∈ behind.head?, isBlank c = false)
    {reading reading' : Reading} (hstep : Step reads close reading reading')
    (h : Continues close final behind reading'.lexer reading'.draft reading'.cursor) :
    Continues close final behind reading.lexer reading.draft reading.cursor := by
  cases hstep with
  | copy hr ht => exact continues_copy hr ht h
  | markup hc hopens he hnone =>
    obtain ⟨own, hown, hrest⟩ := hreads _ _ _ he
    exact continues_markup hbehind hclose hown hrest hc hopens hnone h
  | call hc hopens he hsome =>
    obtain ⟨own, hown, hrest⟩ := hreads _ _ _ he
    exact continues_call hown hrest hc hopens hsome h

/-- Steps from scratch to where an expression may end spell the expression. -/
theorem nodesSpelled_of_steps {reads : Cursor → Element → Cursor → Prop}
    (hreads : ∀ cursor element after, reads cursor element after →
      ∃ own, element.Spelled own ∧ cursor.rest = own ++ after.rest)
    (hsteps : Steps reads close ⟨.initial, .empty, cursor⟩ ⟨lexer, final, after⟩)
    (houter : lexer.outer = []) (hc : lexer.AtCode after.rest)
    (hend : Reader.EndsAt close lexer.depth after.rest) :
    ∃ text, cursor.rest = text ++ after.rest ∧
      nodesSpelled close .initial .empty final.finish text := by
  have hbehind : after.rest.head? = close.toList.head? := by
    cases close with
    | none => rw [show after.rest = [] from hend]; rfl
    | some c => exact hend.2.2
  have hclose : ∀ c ∈ after.rest.head?, isBlank c = false := by
    cases close with
    | none => rw [hbehind]; nofun
    | some c =>
      rw [hbehind]
      intro d hd
      obtain rfl : c = d := by simpa using hd
      exact not_isBlank_of_isCloser hend.2.1
  have hends : lexer.Ends close := by
    refine ⟨hc.congr hbehind, houter, fun hsome => ?_⟩
    cases close with
    | none => cases hsome
    | some c => exact hend.1
  have hfirst : Continues close final after.rest .initial .empty cursor := by
    have key : ∀ reading, Steps reads close reading ⟨lexer, final, after⟩ →
        Continues close final after.rest reading.lexer reading.draft reading.cursor := by
      intro reading hreading
      induction hreading using Relation.ReflTransGen.head_induction_on with
      | refl => exact continues_end hends hbehind
      | head hstep _ ih => exact continues_of_step hreads hbehind hclose hstep ih
    exact key _ hsteps
  obtain ⟨nodes, text, hfinish, htext, hspelled⟩ := hfirst .initial rfl trivial
  obtain rfl : final.finish = nodes := hfinish
  exact ⟨text, htext, hspelled⟩

end Code

/-! ## Markup -/

/-- How an opening tag ends. -/
def tagEnd (selfClosing : Bool) : Text := if selfClosing then ['/', '>'] else ['>']

/-- Blanks before an attribute may be more. -/
theorem attributesSpelled_blanks {attributes : List Attribute} {blanks inside : Text}
    (hb : blanks.isBlank) (hne : blanks ≠ []) (named : Bool)
    (h : attributesSpelled false attributes inside) :
    attributesSpelled named attributes (blanks ++ inside) := by
  have happend : ∀ own : Text, own.isBlank → (blanks ++ own).isBlank := by
    intro own hown
    simp only [Text.isBlank, List.all_append, Bool.and_eq_true] at *
    exact ⟨hb, hown⟩
  cases attributes with
  | nil =>
    rw [attributesSpelled] at *
    exact happend inside h
  | cons a attributes =>
    rw [attributesSpelled] at *
    obtain ⟨own, text, rest, hown, -, ha, hrest, rfl⟩ := h
    exact ⟨blanks ++ own, text, rest, happend own hown, by simp [hne], ha, hrest, by simp⟩

namespace Reader

/-- What reading markup with that fuel finds. -/
structure Sound (fuel : Nat) : Prop where
  element : ∀ {cursor found behind}, element fuel cursor = .ok (found, behind) →
    ∃ own, found.Spelled own ∧ cursor.rest = own ++ behind.rest
  attributes : ∀ {tag start found cursor all selfClosing behind},
    attributes fuel tag start found cursor = .ok (all, selfClosing, behind) →
    ∀ named, (named = true → ∀ c ∈ cursor.rest.head?, isAttributeStart c = false) →
      ∃ new inside, all = found.reverse ++ new ∧ attributesSpelled named new inside ∧
        cursor.rest = inside ++ tagEnd selfClosing ++ behind.rest
  oneAttribute : ∀ {cursor a behind c rest}, oneAttribute fuel cursor = .ok (a, behind) →
    cursor.rest = c :: rest → isAttributeStart c = true →
    ∃ own blanks : Text, a.Spelled own ∧ blanks.isBlank ∧
      cursor.rest = own ++ blanks ++ behind.rest ∧
      (blanks = [] → a.isBare = true → ∀ d ∈ behind.rest.head?, isAttributeStart d = false)
  hole : ∀ {cursor nodes behind}, hole fuel cursor = .ok (nodes, behind) →
    ∃ code, nodesSpelled (some '}') .initial .empty nodes code ∧
      cursor.rest = '{' :: code ++ '}' :: behind.rest
  children : ∀ {tag start found cursor all behind},
    children fuel tag start found cursor = .ok (all, behind) →
    ∀ texted, (texted = true → ∀ c ∈ cursor.rest.head?, c = '<' ∨ c = '{') →
      ∃ new content, all = found.reverse ++ new ∧ childrenSpelled tag texted new content ∧
        cursor.rest = content ++ behind.rest

section Step

variable {fuel : Nat} (sound : Sound fuel)
include sound

theorem Sound.element_succ {cursor behind : Cursor} {found : Element}
    (h : Reader.element (fuel + 1) cursor = .ok (found, behind)) :
    ∃ own, found.Spelled own ∧ cursor.rest = own ++ behind.rest := by
  rw [Reader.element] at h
  obtain ⟨opened, hexpect, h⟩ := bind_eq_ok h
  obtain ⟨rest, hr, rfl⟩ := expect_eq_ok hexpect
  have hopened : cursor.rest = '<' :: cursor.next.rest := by rw [Cursor.rest_next hr, hr]
  split at h
  · exact absurd h faultAt_ne_ok
  dsimp only at h
  split at h
  · exact absurd h faultAt_ne_ok
  next htag =>
    have htag : cursor.next.ahead isTagChar ≠ [] := by simpa using htag
    have hchars : ∀ c ∈ cursor.next.ahead isTagChar, isTagChar c = true :=
      fun c hc => List.mem_takeWhile_imp hc
    have hnext := cursor.next.ahead_append_rest isTagChar
    obtain ⟨⟨all, selfClosing, inner⟩, hattributes, h⟩ := bind_eq_ok h
    obtain ⟨new, inside, hall, hspelled, hinside⟩ := sound.attributes hattributes true (by
      intro _ c hc
      have hchar := Cursor.not_of_head?_past_ahead hc
      rw [← Bool.not_eq_true]
      intro hstart
      rw [isTagChar_of_isTagStart hstart] at hchar
      cases hchar)
    obtain rfl : all = new := hall
    dsimp only at h
    split at h
    next hself =>
      cases h
      subst hself
      refine ⟨'<' :: cursor.next.ahead isTagChar ++ inside ++ ['/', '>'], ?_, ?_⟩
      · unfold Element.Spelled
        exact ⟨htag, hchars, inside, hspelled, rfl, rfl, rfl⟩
      · rw [hopened, ← hnext, hinside]
        simp [tagEnd]
    next hself =>
      obtain ⟨⟨kids, closed⟩, hchildren, h⟩ := bind_eq_ok h
      cases h
      obtain ⟨new, content, hkids, hcontent, hrest⟩ := sound.children hchildren false (by simp)
      obtain rfl : kids = new := hkids
      have hself : selfClosing = false := by simpa using hself
      subst hself
      refine ⟨'<' :: cursor.next.ahead isTagChar ++ inside ++ '>' :: content, ?_, ?_⟩
      · unfold Element.Spelled
        exact ⟨htag, hchars, inside, hspelled, rfl, content, hcontent, rfl⟩
      · rw [hopened, ← hnext, hinside, hrest]
        simp [tagEnd]

theorem Sound.attributes_succ {tag : Text} {start : Place} {found all : List Attribute}
    {cursor behind : Cursor} {selfClosing : Bool}
    (h : Reader.attributes (fuel + 1) tag start found cursor = .ok (all, selfClosing, behind))
    (named : Bool) (hnamed : named = true → ∀ c ∈ cursor.rest.head?, isAttributeStart c = false) :
    ∃ new inside, all = found.reverse ++ new ∧ attributesSpelled named new inside ∧
      cursor.rest = inside ++ tagEnd selfClosing ++ behind.rest := by
  rw [Reader.attributes] at h
  have hskip : cursor.ahead isBlank ++ cursor.skipBlanks.rest = cursor.rest :=
    cursor.ahead_append_skipBlanks
  have hblank : Text.isBlank (cursor.ahead isBlank) := List.all_takeWhile
  dsimp only at h
  split at h
  · exact absurd h faultAt_ne_ok
  next c rest hr =>
    have hcons : cursor.skipBlanks.rest = c :: cursor.skipBlanks.next.rest := by
      rw [Cursor.rest_next hr, hr]
    split at h
    next hslash =>
      obtain rfl : c = '/' := by simpa using hslash
      obtain ⟨after, hexpect, h⟩ := bind_eq_ok h
      obtain ⟨rest', hr', rfl⟩ := expect_eq_ok hexpect
      cases h
      refine ⟨[], cursor.ahead isBlank, by simp, by rw [attributesSpelled]; exact hblank, ?_⟩
      rw [← hskip, hcons, hr', Cursor.rest_next hr']
      simp [tagEnd]
    split at h
    next hgt =>
      obtain rfl : c = '>' := by simpa using hgt
      cases h
      refine ⟨[], cursor.ahead isBlank, by simp, by rw [attributesSpelled]; exact hblank, ?_⟩
      rw [← hskip, hcons]
      simp [tagEnd]
    split at h
    · exact absurd h faultAt_ne_ok
    split at h
    next hstart =>
      obtain ⟨⟨a, after⟩, hone, h⟩ := bind_eq_ok h
      obtain ⟨own, blanks, hown, hblanks, hrest, htouch⟩ := sound.oneAttribute hone hr hstart
      have hfirst : named = true → cursor.ahead isBlank ≠ [] := by
        intro hn hnil
        rw [hnil, List.nil_append, hr] at hskip
        have := hnamed hn c (by rw [← hskip]; rfl)
        rw [hstart] at this
        cases this
      by_cases hnil : blanks = []
      · obtain ⟨new, inside, hall, hspelled, hinside⟩ := sound.attributes h a.isBare (htouch hnil)
        refine ⟨a :: new, cursor.ahead isBlank ++ own ++ inside, by simp [hall], ?_, ?_⟩
        · unfold attributesSpelled
          exact ⟨_, own, inside, hblank, hfirst, hown, hspelled, rfl⟩
        · rw [← hskip, hrest, hnil, hinside]
          simp
      · obtain ⟨new, inside, hall, hspelled, hinside⟩ := sound.attributes h false (by simp)
        refine ⟨a :: new, cursor.ahead isBlank ++ own ++ (blanks ++ inside), by simp [hall], ?_, ?_⟩
        · unfold attributesSpelled
          exact ⟨_, own, blanks ++ inside, hblank, hfirst, hown,
            attributesSpelled_blanks hblanks hnil a.isBare hspelled, rfl⟩
        · rw [← hskip, hrest, hinside]
          simp
    · exact absurd h faultAt_ne_ok

omit sound in
theorem isAttributeName_ahead {cursor : Cursor} {c : Char} {rest : Text}
    (hr : cursor.rest = c :: rest) (hc : isAttributeStart c = true) :
    IsAttributeName (cursor.ahead isAttributeChar) := by
  refine ⟨⟨c, rest.takeWhile isAttributeChar, ?_, hc⟩, fun d hd => List.mem_takeWhile_imp hd⟩
  rw [Cursor.ahead, hr, List.takeWhile_cons_of_pos (isAttributeChar_of_isAttributeStart hc)]

theorem Sound.oneAttribute_succ {cursor behind : Cursor} {a : Attribute} {c : Char} {rest : Text}
    (h : Reader.oneAttribute (fuel + 1) cursor = .ok (a, behind)) (hr : cursor.rest = c :: rest)
    (hc : isAttributeStart c = true) :
    ∃ own blanks : Text, a.Spelled own ∧ blanks.isBlank ∧
      cursor.rest = own ++ blanks ++ behind.rest ∧
      (blanks = [] → a.isBare = true → ∀ d ∈ behind.rest.head?, isAttributeStart d = false) := by
  have hname := isAttributeName_ahead hr hc
  have hsplit := cursor.ahead_append_rest isAttributeChar
  rw [Reader.oneAttribute] at h
  generalize hn : cursor.past (cursor.ahead isAttributeChar) = named at h hsplit
  have hskip : named.ahead isBlank ++ named.skipBlanks.rest = named.rest :=
    named.ahead_append_skipBlanks
  have hbefore : Text.isBlank (named.ahead isBlank) := List.all_takeWhile
  dsimp only at h
  split at h
  next heat =>
    cases h
    have hbare : (Attribute.bare (cursor.ahead isAttributeChar)).Spelled
        (cursor.ahead isAttributeChar) := by
      unfold Attribute.Spelled
      exact ⟨hname, rfl⟩
    refine ⟨cursor.ahead isAttributeChar, named.ahead isBlank, hbare, hbefore,
      by rw [← hsplit, ← hskip, List.append_assoc], ?_⟩
    intro hnil _ d hd
    rw [hnil, List.nil_append] at hskip
    rw [hskip, ← hn] at hd
    have hchar := Cursor.not_of_head?_past_ahead hd
    rw [← Bool.not_eq_true]
    intro hstart
    rw [isAttributeChar_of_isAttributeStart hstart] at hchar
    cases hchar
  next after heat =>
    obtain ⟨rest', hr', hafter⟩ := Cursor.eat_eq_some_iff.1 heat
    have heq : named.skipBlanks.rest = '=' :: after.rest := by rw [hr', hafter]
    have hskip' : after.ahead isBlank ++ after.skipBlanks.rest = after.rest :=
      after.ahead_append_skipBlanks
    have hbehind : Text.isBlank (after.ahead isBlank) := List.all_takeWhile
    split at h
    · exact absurd h faultAt_ne_ok
    next d rest'' hr'' =>
      split at h
      next hquote =>
        split at h
        · exact absurd h faultAt_ne_ok
        next body hbody =>
          cases h
          obtain ⟨inner, left, rfl, hinner, hleft⟩ := quotedBody_eq_some_iff.1 hbody
          have hquoted : IsQuoted (d :: (inner ++ [d])) :=
            ⟨d, inner, by simpa using hquote, hinner, rfl⟩
          refine ⟨cursor.ahead isAttributeChar ++ named.ahead isBlank ++
            '=' :: after.ahead isBlank ++ d :: (inner ++ [d]), [], ?_, rfl, ?_,
            by simp [Attribute.isBare]⟩
          · unfold Attribute.Spelled
            exact ⟨hname, hquoted, _, _, hbefore, hbehind, rfl⟩
          · have hpast : (after.skipBlanks.past (d :: (inner ++ [d]))).rest = left :=
              Cursor.rest_past (by rw [hr'', hleft]; rfl)
            rw [hpast, ← hsplit, ← hskip, heq, ← hskip', hr'', hleft]
            simp
      split at h
      next hbrace =>
        obtain ⟨⟨nodes, closed⟩, hhole, h⟩ := bind_eq_ok h
        cases h
        obtain ⟨code, hcode, hrest⟩ := sound.hole hhole
        refine ⟨cursor.ahead isAttributeChar ++ named.ahead isBlank ++
          '=' :: after.ahead isBlank ++ '{' :: code ++ ['}'], [], ?_, rfl, ?_,
          by simp [Attribute.isBare]⟩
        · unfold Attribute.Spelled
          exact ⟨hname, _, _, code, hbefore, hbehind, hcode, rfl⟩
        · rw [← hsplit, ← hskip, heq, ← hskip', hrest]
          simp
      · exact absurd h faultAt_ne_ok

theorem Sound.children_succ {tag : Text} {start : Place} {found all : List Child}
    {cursor behind : Cursor}
    (h : Reader.children (fuel + 1) tag start found cursor = .ok (all, behind)) (texted : Bool)
    (htexted : texted = true → ∀ c ∈ cursor.rest.head?, c = '<' ∨ c = '{') :
    ∃ new content, all = found.reverse ++ new ∧ childrenSpelled tag texted new content ∧
      cursor.rest = content ++ behind.rest := by
  rw [Reader.children] at h
  split at h
  · exact absurd h faultAt_ne_ok
  next c rest hr =>
    split at h
    next hlt =>
      obtain rfl : c = '<' := by simpa using hlt
      split at h
      next hslash =>
        have hslash : cursor.peekNext = '/' := by simpa using hslash
        obtain ⟨tail, rfl⟩ := List.head?_eq_some_iff.1 ((peekNext_eq_iff hr (by decide)).1 hslash)
        have hr₂ : cursor.next.next.rest = tail := Cursor.rest_next (Cursor.rest_next hr)
        obtain ⟨after, hexpect, h⟩ := bind_eq_ok h
        obtain ⟨rest', hr', rfl⟩ := expect_eq_ok hexpect
        split at h
        next hname =>
          cases h
          generalize cursor.next.next = opened at hr₂ hr' hname ⊢
          generalize hinner : opened.skipBlanks = inner at hr' hname ⊢
          generalize hafter : inner.past (inner.ahead isTagChar) = after at hr' ⊢
          obtain rfl : inner.ahead isTagChar = tag := by simpa using hname
          have hopened := opened.ahead_append_skipBlanks
          have hwithin := inner.ahead_append_rest isTagChar
          have hrest := after.ahead_append_skipBlanks
          have hlast : after.skipBlanks.rest = '>' :: after.skipBlanks.next.rest := by
            rw [Cursor.rest_next hr', hr']
          refine ⟨[], '<' :: '/' :: opened.ahead isBlank ++ inner.ahead isTagChar ++
            after.ahead isBlank ++ ['>'], by simp, ?_, ?_⟩
          · unfold childrenSpelled
            exact ⟨_, _, List.all_takeWhile, List.all_takeWhile, rfl⟩
          · rw [hr, ← hr₂, ← hopened, hinner, ← hwithin, hafter, ← hrest, hlast]
            simp
        next => exact absurd h faultAt_ne_ok
      next hslash =>
        obtain ⟨⟨child, after⟩, helement, h⟩ := bind_eq_ok h
        obtain ⟨own, hown, hrest⟩ := sound.element helement
        obtain ⟨new, content, hall, hcontent, hafter⟩ := sound.children h false (by simp)
        refine ⟨.element child :: new, own ++ content, by simp [hall], ?_, ?_⟩
        · unfold childrenSpelled
          exact ⟨own, content, hown, hcontent, rfl⟩
        · rw [hrest, hafter, List.append_assoc]
    next hlt =>
    split at h
    next hbrace =>
      obtain ⟨⟨nodes, after⟩, hhole, h⟩ := bind_eq_ok h
      obtain ⟨code, hcode, hrest⟩ := sound.hole hhole
      obtain ⟨new, content, hall, hcontent, hafter⟩ := sound.children h false (by simp)
      refine ⟨.hole nodes :: new, '{' :: code ++ '}' :: content, by simp [hall], ?_, ?_⟩
      · unfold childrenSpelled
        exact ⟨code, content, hcode, hcontent, rfl⟩
      · rw [hrest, hafter]
        simp
    next hbrace =>
      have hc : c ≠ '<' ∧ c ≠ '{' := ⟨by simpa using hlt, by simpa using hbrace⟩
      generalize hp : (fun c : Char => c != '<' && c != '{') = p at h
      have hpc : ∀ d, p d = true ↔ d ≠ '<' ∧ d ≠ '{' := by simp [← hp]
      have hown : cursor.ahead p ++ (cursor.past (cursor.ahead p)).rest = cursor.rest :=
        cursor.ahead_append_rest p
      obtain ⟨new, content, hall, hcontent, hafter⟩ := sound.children h true (by
        intro _ d hd
        have hd := Cursor.not_of_head?_past_ahead hd
        by_contra hne
        rw [(hpc d).2 (by simpa [not_or] using hne)] at hd
        cases hd)
      refine ⟨.text (cursor.ahead p) :: new, cursor.ahead p ++ content, by simp [hall], ?_, ?_⟩
      · unfold childrenSpelled
        refine ⟨?_, ?_, fun d hd => (hpc d).1 (List.mem_takeWhile_imp hd), content, hcontent, rfl⟩
        · rw [← Bool.not_eq_true]
          intro ht
          have := htexted ht c (by rw [hr]; rfl)
          simp [hc] at this
        · rw [Cursor.ahead, hr, List.takeWhile_cons_of_pos ((hpc c).2 hc)]
          simp
      · rw [← hown, hafter, List.append_assoc]

end Step

theorem hole_sound {fuel : Nat} (below : ∀ n < fuel, Sound n) {cursor behind : Cursor}
    {nodes : Expression} (h : Reader.hole (fuel + 1) cursor = .ok (nodes, behind)) :
    ∃ code, nodesSpelled (some '}') .initial .empty nodes code ∧
      cursor.rest = '{' :: code ++ '}' :: behind.rest := by
  rw [Reader.hole] at h
  obtain ⟨opened, hexpect, h⟩ := bind_eq_ok h
  obtain ⟨rest, hr, rfl⟩ := expect_eq_ok hexpect
  obtain ⟨⟨draft, closing⟩, hcode, h⟩ := bind_eq_ok h
  obtain ⟨closed, hexpect', h⟩ := bind_eq_ok h
  obtain ⟨rest', hr', rfl⟩ := expect_eq_ok hexpect'
  cases h
  obtain ⟨lexer, hsteps, houter, hc, hend⟩ := steps_of_code hcode
  have hreads : ∀ cursor element after, ElementBelow fuel cursor element after →
      ∃ own, element.Spelled own ∧ cursor.rest = own ++ after.rest := by
    rintro cursor element after ⟨n, hn, helement⟩
    exact (below n hn).element helement
  obtain ⟨text, htext, hspelled⟩ := nodesSpelled_of_steps hreads hsteps houter hc hend
  refine ⟨text, hspelled, ?_⟩
  have hopened : cursor.rest = '{' :: cursor.next.rest := by rw [Cursor.rest_next hr, hr]
  have hclosed : closing.rest = '}' :: closing.next.rest := by rw [Cursor.rest_next hr', hr']
  rw [hopened, htext, hclosed]
  rfl

theorem sound (fuel : Nat) : Sound fuel := by
  induction fuel using Nat.strong_induction_on with
  | _ fuel ih =>
    cases fuel with
    | zero => exact ⟨nofun, nofun, nofun, nofun, nofun⟩
    | succ fuel =>
      have last := ih fuel (by omega)
      exact ⟨last.element_succ, last.attributes_succ, last.oneAttribute_succ,
        hole_sound fun n hn => ih n (by omega), last.children_succ⟩

end Reader

/-- A source is a spelling of what it reads as. -/
theorem spelled_of_parse {source : Text} {expression : Expression}
    (h : parse source = .ok expression) : expression.Spelled source := by
  obtain ⟨draft, cursor, hcode, rfl⟩ := parse_eq_ok_iff.1 h
  obtain ⟨lexer, hsteps, houter, hc, hend⟩ := Reader.steps_of_code hcode
  have hreads : ∀ cursor element after,
      Reader.ElementBelow (Reader.fuelFor source.length) cursor element after →
      ∃ own, element.Spelled own ∧ cursor.rest = own ++ after.rest := by
    rintro cursor element after ⟨n, -, helement⟩
    exact (Reader.sound n).element helement
  obtain ⟨text, htext, hspelled⟩ := nodesSpelled_of_steps hreads hsteps houter hc hend
  have hrest : cursor.rest = [] := hend
  have htext : source = text := by rw [hrest, List.append_nil] at htext; exact htext
  rw [htext]
  exact hspelled

end JsxTemplate
