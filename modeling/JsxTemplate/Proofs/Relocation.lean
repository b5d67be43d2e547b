import JsxTemplate.Markup.Respanned
import JsxTemplate.Proofs.Completeness
import JsxTemplate.Proofs.Placement

/-
  The same text read at two places. An element is read with no look at what stands before its `<`
  or behind its `>`: a reading of an element can be repeated wherever the same text stands, with
  the spans of the other place (`Reader.carries`, by induction over the fuel, with one step of
  code at a time for holes). Main statement: the text of an element, taken by itself, reads as that
  element, whose spans are then counted from its own start (`parse_text_of_parse`).
-/

namespace JsxTemplate

/-! ## Places that correspond -/

/-- Places of two texts correspond, and go on to do so; `f` takes the spans of the one text to
those of the other. -/
structure Relocates (f : Span → Span) (related : Place → Place → Prop) : Prop where
  step : ∀ {inner outer : Place}, related inner outer → ∀ c, related (inner.step c) (outer.step c)
  span : ∀ {inner inner' outer outer' : Place}, related inner outer → related inner' outer' →
    f ⟨inner.offset, inner'.offset, inner.line, inner.column⟩ =
      ⟨outer.offset, outer'.offset, outer.line, outer.column⟩

theorem relocates_id : Relocates id Eq where
  step := by rintro inner _ rfl c; rfl
  span := by rintro inner inner' _ _ rfl rfl; rfl

/-- Places of a text, and of the same text behind `base`. -/
def Place.Beyond (base inner outer : Place) : Prop :=
  outer = base.beyond inner ∧ 1 ≤ inner.line ∧ 1 ≤ inner.column

theorem relocates_moved (base : Place) : Relocates (Span.moved base) base.Beyond where
  step := by
    rintro inner _ ⟨rfl, hline, hcolumn⟩ c
    refine ⟨(Place.beyond_step hline hcolumn c).symm, ?_⟩
    unfold Place.step
    split <;> simp [hline]
  span := by
    rintro inner inner' _ _ ⟨rfl, -⟩ ⟨rfl, -⟩
    rfl

/-- The outer cursor reads what the inner one does, at a place that corresponds, and then `tail`. -/
structure Cursor.Twin (related : Place → Place → Prop) (tail : Text) (inner outer : Cursor) :
    Prop where
  rest : outer.rest = inner.rest ++ tail
  place : related inner.place outer.place

section Twin

variable {f : Span → Span} {related : Place → Place → Prop} {tail rest : Text}
  {inner outer inner' outer' : Cursor} {c : Char}

theorem Relocates.after (relocates : Relocates f related) {place place' : Place}
    (h : related place place') (text : Text) : related (place.after text) (place'.after text) := by
  induction text generalizing place place' with
  | nil => exact h
  | cons c text ih => exact ih (relocates.step h c)

namespace Cursor.Twin

theorem rest_cons (h : inner.Twin related tail outer) (hr : inner.rest = c :: rest) :
    outer.rest = c :: (rest ++ tail) := by
  rw [h.rest, hr, List.cons_append]

theorem head? (h : inner.Twin related tail outer) (hne : inner.rest ≠ []) :
    outer.rest.head? = inner.rest.head? := by
  obtain ⟨c, rest, hr⟩ := List.exists_cons_of_ne_nil hne
  rw [h.rest_cons hr, hr, List.head?_cons, List.head?_cons]

theorem past (relocates : Relocates f related) (h : inner.Twin related tail outer) {taken : Text}
    (hr : inner.rest = taken ++ rest) :
    (inner.past taken).Twin related tail (outer.past taken) where
  rest := by
    have hr' : outer.rest = taken ++ (rest ++ tail) := by rw [h.rest, hr, List.append_assoc]
    rw [rest_past hr, rest_past hr']
  place := relocates.after h.place taken

theorem next (relocates : Relocates f related) (h : inner.Twin related tail outer)
    (hr : inner.rest = c :: rest) : inner.next.Twin related tail outer.next := by
  rw [next_eq_past hr, next_eq_past (h.rest_cons hr)]
  exact h.past relocates hr

/-- A run that ends within the inner text ends there in the outer one too. -/
theorem ahead (h : inner.Twin related tail outer) {p : Char → Bool}
    (hne : (inner.past (inner.ahead p)).rest ≠ []) : outer.ahead p = inner.ahead p := by
  rw [rest_past_ahead] at hne
  rw [Cursor.ahead, Cursor.ahead, h.rest, List.takeWhile_append, if_neg]
  intro hlen
  have hsplit := congrArg List.length (List.takeWhile_append_dropWhile (p := p) (l := inner.rest))
  rw [List.length_append] at hsplit
  exact hne (List.length_eq_zero_iff.1 (by omega))

theorem past_ahead (relocates : Relocates f related) (h : inner.Twin related tail outer)
    {p : Char → Bool} (hne : (inner.past (inner.ahead p)).rest ≠ []) :
    (inner.past (inner.ahead p)).Twin related tail (outer.past (outer.ahead p)) := by
  rw [h.ahead hne]
  exact h.past relocates (inner.ahead_append_rest p).symm

theorem skipBlanks (relocates : Relocates f related) (h : inner.Twin related tail outer)
    (hne : inner.skipBlanks.rest ≠ []) : inner.skipBlanks.Twin related tail outer.skipBlanks :=
  h.past_ahead relocates hne

theorem spanFrom (relocates : Relocates f related) (h : inner.Twin related tail outer)
    (h' : inner'.Twin related tail outer') :
    f (inner'.spanFrom inner.place) = outer'.spanFrom outer.place :=
  relocates.span h.place h'.place

end Cursor.Twin

end Twin

/-! ## Code -/

/-- The draft, with the spans of its nodes replaced. -/
def Draft.respanned (f : Span → Span) (draft : Draft) : Draft :=
  ⟨nodesRespanned f draft.nodes, draft.pending⟩

namespace Draft

variable (f : Span → Span) (draft : Draft)

theorem respanned_settle : draft.settle.respanned f = (draft.respanned f).settle := by
  unfold settle respanned
  split <;> rfl

theorem respanned_add (node : Node) :
    (draft.add node).respanned f = (draft.respanned f).add (node.respanned f) := by
  unfold add
  rw [← respanned_settle]
  rfl

theorem finish_respanned : (draft.respanned f).finish = nodesRespanned f draft.finish := by
  rw [finish, finish, nodesRespanned_reverse, ← respanned_settle]
  rfl

theorem alike_respanned : draft.Alike (draft.respanned f) := by
  refine ⟨rfl, ?_⟩
  rw [respanned, nodesRespanned_eq_map, List.isEmpty_map]

end Draft

/-- There is more ahead than blanks. -/
def Cursor.GoesOn (cursor : Cursor) : Prop := ∃ c ∈ cursor.rest, isBlank c = false

theorem Cursor.GoesOn.of_reaches {cursor behind : Cursor} (h : behind.GoesOn)
    (hreaches : cursor.Reaches behind) : cursor.GoesOn := by
  obtain ⟨c, hmem, hc⟩ := h
  obtain ⟨taken, hrest, -⟩ := hreaches
  exact ⟨c, by rw [hrest]; exact List.mem_append_right _ hmem, hc⟩

theorem Cursor.GoesOn.rest_ne_nil {cursor : Cursor} (h : cursor.GoesOn) : cursor.rest ≠ [] := by
  obtain ⟨c, hmem, -⟩ := h
  exact List.ne_nil_of_mem hmem

section Code

variable {f : Span → Span} {related : Place → Place → Prop} {tail : Text}

/-- Where more than blanks is ahead, what stands behind the inner text is not looked at. -/
theorem Cursor.Twin.callee? {inner outer : Cursor} (h : inner.Twin related tail outer)
    (hgoes : inner.GoesOn) (draft : Draft) :
    Reader.callee? draft outer = Reader.callee? draft inner := by
  obtain ⟨c, hmem, hc⟩ := hgoes
  obtain ⟨before, rest, hrest⟩ := List.append_of_mem hmem
  have hblank : ∀ d ∈ (c :: rest).head?, isBlank d = false := by simpa using hc
  have hinner : Reader.callee? draft inner =
      Reader.callee? draft (.ofText (before ++ c :: rest)) := by
    rw [← hrest]
    rfl
  have houter : Reader.callee? draft outer =
      Reader.callee? draft (.ofText (before ++ c :: (rest ++ tail))) := by
    rw [← List.cons_append, ← List.append_assoc, ← hrest, ← h.rest]
    rfl
  rw [hinner, houter]
  have hhead : (c :: rest).head? = (c :: (rest ++ tail)).head? := rfl
  exact (callee?_congr hhead hblank).symm

theorem Cursor.Twin.opensElement {inner outer : Cursor} (h : inner.Twin related tail outer)
    {c : Char} {rest : Text} (hr : inner.rest = c :: rest) (hne : rest ≠ []) (draft : Draft) :
    Reader.opensElement draft outer = Reader.opensElement draft inner := by
  obtain ⟨d, rest, rfl⟩ := List.exists_cons_of_ne_nil hne
  have hinner : Reader.opensElement draft inner =
      Reader.opensElement draft (.ofText (c :: d :: rest)) := by
    rw [← hr]
    rfl
  have houter : Reader.opensElement draft outer =
      Reader.opensElement draft (.ofText (c :: (d :: rest ++ tail))) := by
    rw [← h.rest_cons hr]
    rfl
  rw [hinner, houter]
  exact Lexer.opensElement_congr rfl

end Code

namespace Reader

variable {f : Span → Span} {related : Place → Place → Prop} {tail : Text}

/-- What is read with that fuel reads the same, up to spans, wherever the same text stands. -/
structure Carries (f : Span → Span) (related : Place → Place → Prop) (tail : Text) (fuel : Nat) :
    Prop where
  element : ∀ {inner found behind outer}, element fuel inner = .ok (found, behind) →
    inner.Twin related tail outer →
    ∃ behind', ElementReads outer (found.respanned f) behind' ∧ behind.Twin related tail behind'
  attributes : ∀ {tag start found inner all selfClosing behind outer},
    attributes fuel tag start found inner = .ok (all, selfClosing, behind) →
    inner.Twin related tail outer →
    ∃ behind', AttributesReads tag (attributesRespanned f found) outer (attributesRespanned f all)
      selfClosing behind' ∧ behind.Twin related tail behind'
  oneAttribute : ∀ {inner a behind c rest outer}, oneAttribute fuel inner = .ok (a, behind) →
    inner.rest = c :: rest → isAttributeStart c = true → behind.rest ≠ [] →
    inner.Twin related tail outer →
    ∃ behind', OneReads outer (a.respanned f) behind' ∧ behind.Twin related tail behind'
  hole : ∀ {inner nodes behind outer}, hole fuel inner = .ok (nodes, behind) →
    inner.Twin related tail outer →
    ∃ behind', HoleReads outer (nodesRespanned f nodes) behind' ∧ behind.Twin related tail behind'
  children : ∀ {tag start found inner all behind outer},
    children fuel tag start found inner = .ok (all, behind) →
    tag ≠ [] → (∀ c ∈ tag, isTagChar c = true) → inner.Twin related tail outer →
    ∃ behind', ChildrenReads tag (childrenRespanned f found) outer (childrenRespanned f all)
      behind' ∧ behind.Twin related tail behind'

/-- An element in code: it opens in both texts, and the same stands behind it. -/
theorem opens_carried {bound : Nat} (below : ∀ n < bound, Carries f related tail n)
    {lexer : Lexer} {draft : Draft} {inner behind : Cursor} {found : Element}
    (he : ElementBelow bound inner found behind) (hgoes : behind.GoesOn)
    (hc : lexer.AtCode inner.rest) (hopens : opensElement draft inner = true) {outer : Cursor}
    (h : inner.Twin related tail outer) :
    ∃ behind', ElementReads outer (found.respanned f) behind' ∧
      behind.Twin related tail behind' ∧ lexer.AtCode outer.rest ∧
      opensElement (draft.respanned f) outer = true ∧
      callee? (draft.respanned f) behind' = callee? draft behind := by
  obtain ⟨n, hn, helement⟩ := he
  obtain ⟨own, hown, hrest⟩ := (sound n).element helement
  obtain ⟨d, inside, rfl, -⟩ := hown.head
  obtain ⟨behind', hreads, h'⟩ := (below n hn).element helement h
  refine ⟨behind', hreads, h', hc.congr (h.head? (by simp [hrest])).symm, ?_, ?_⟩
  · rw [← (draft.alike_respanned f).opensElement, h.opensElement hrest (by simp)]
    exact hopens
  · rw [← (draft.alike_respanned f).callee?, h'.callee? hgoes]

theorem ElementBelow.reaches {bound : Nat} {cursor behind : Cursor} {found : Element}
    (h : ElementBelow bound cursor found behind) : cursor.Reaches behind := by
  obtain ⟨n, -, helement⟩ := h
  exact ((sites n).element helement).reaches

/-- One step of code. It looks at one character ahead, or behind an element at the first that is no
blank: either of them lies in the inner text, if that goes on behind the step. -/
theorem step_carried (relocates : Relocates f related) {bound : Nat}
    (below : ∀ n < bound, Carries f related tail n) {close : Option Char}
    {reading reading' : Reading} (hstep : Step (ElementBelow bound) close reading reading')
    (hgoes : reading'.cursor.GoesOn) :
    reading.cursor.GoesOn ∧ ∀ {outer}, reading.cursor.Twin related tail outer →
      ∃ outer', Step ElementReads close ⟨reading.lexer, reading.draft.respanned f, outer⟩
          ⟨reading'.lexer, reading'.draft.respanned f, outer'⟩ ∧
        reading'.cursor.Twin related tail outer' := by
  cases hstep with
  | @copy lexer draft cursor c rest hr ht =>
    refine ⟨hgoes.of_reaches cursor.reaches_next, ?_⟩
    intro outer htwin
    have hne : rest ≠ [] := by
      rw [← Cursor.rest_next hr]
      exact hgoes.rest_ne_nil
    have hhead : rest.head? = (rest ++ tail).head? := by
      rw [List.head?_append, Option.or_of_isSome (by simpa using hne)]
    have ht' : lexer.Takes close (draft.respanned f) outer.rest := by
      rw [hr] at ht
      rw [htwin.rest_cons hr]
      have ht := ht.congr hhead
      refine ⟨ht.goesOn, fun hc hlt => ?_, ht.unbroken⟩
      rw [← (draft.alike_respanned f).opensElement]
      exact ht.opensNothing hc hlt
    exact ⟨outer.next, .copy (htwin.rest_cons hr) ht', htwin.next relocates hr⟩
  | @markup lexer draft cursor behind found hc hopens he hnone =>
    refine ⟨hgoes.of_reaches he.reaches, ?_⟩
    intro outer htwin
    obtain ⟨behind', hreads, htwin', hc', hopens', hcallee⟩ :=
      opens_carried below he hgoes hc hopens htwin
    refine ⟨behind', ?_, htwin'⟩
    dsimp only
    rw [Draft.respanned_add, Node.respanned]
    exact .markup hc' hopens' hreads (hcallee.trans hnone)
  | @call lexer draft cursor behind found callee hc hopens he hsome =>
    obtain ⟨⟨blanks, rest, hblanks, hrest, -⟩, -⟩ := callee?_eq_some hsome
    have hparen : behind.GoesOn := ⟨')', by rw [hrest]; simp, by decide⟩
    have hr : behind.skipBlanks = behind.past blanks :=
      skipBlanks_eq hrest hblanks (by simp; decide)
    have hr' : behind.skipBlanks.rest = ')' :: rest := by rw [hr, Cursor.rest_past hrest]
    refine ⟨hparen.of_reaches he.reaches, ?_⟩
    intro outer htwin
    obtain ⟨behind', hreads, htwin', hc', hopens', hcallee⟩ :=
      opens_carried below he hparen hc hopens htwin
    refine ⟨behind'.skipBlanks.next, ?_,
      (htwin'.skipBlanks relocates (by simp [hr'])).next relocates hr'⟩
    dsimp only
    rw [Draft.respanned_add, Node.respanned]
    exact .call hc' hopens' hreads (hcallee.trans hsome)

/-- A run of steps to where the code ends. -/
theorem steps_carried (relocates : Relocates f related) {bound : Nat}
    (below : ∀ n < bound, Carries f related tail n) {close : Option Char}
    {reading final : Reading} (hsteps : Steps (ElementBelow bound) close reading final)
    (hgoes : final.cursor.GoesOn) :
    reading.cursor.GoesOn ∧ ∀ {outer}, reading.cursor.Twin related tail outer →
      ∃ outer', Steps ElementReads close ⟨reading.lexer, reading.draft.respanned f, outer⟩
          ⟨final.lexer, final.draft.respanned f, outer'⟩ ∧
        final.cursor.Twin related tail outer' := by
  induction hsteps using Relation.ReflTransGen.head_induction_on with
  | refl => exact ⟨hgoes, fun htwin => ⟨_, .refl, htwin⟩⟩
  | head hstep _ ih =>
    obtain ⟨hgoes', hrest⟩ := ih
    obtain ⟨hgoes'', hfirst⟩ := step_carried relocates below hstep hgoes'
    refine ⟨hgoes'', fun htwin => ?_⟩
    obtain ⟨outer', hstep', htwin'⟩ := hfirst htwin
    obtain ⟨outer'', hsteps', htwin''⟩ := hrest htwin'
    exact ⟨outer'', .head hstep' hsteps', htwin''⟩

theorem hole_carried (relocates : Relocates f related) {fuel : Nat}
    (below : ∀ n < fuel, Carries f related tail n) {inner behind outer : Cursor}
    {nodes : Expression} (h : Reader.hole (fuel + 1) inner = .ok (nodes, behind))
    (htwin : inner.Twin related tail outer) :
    ∃ behind', HoleReads outer (nodesRespanned f nodes) behind' ∧
      behind.Twin related tail behind' := by
  rw [Reader.hole] at h
  obtain ⟨opened, hexpect, h⟩ := bind_eq_ok h
  obtain ⟨rest, hr, rfl⟩ := expect_eq_ok hexpect
  obtain ⟨⟨draft, closing⟩, hcode, h⟩ := bind_eq_ok h
  obtain ⟨closed, hexpect', h⟩ := bind_eq_ok h
  obtain ⟨rest', hr', rfl⟩ := expect_eq_ok hexpect'
  cases h
  obtain ⟨lexer, hsteps, houter, hc, hend⟩ := steps_of_code hcode
  have hbrace : closing.GoesOn := ⟨'}', by rw [hr']; simp, by decide⟩
  obtain ⟨closing', hsteps', htwin'⟩ :=
    (steps_carried relocates below hsteps hbrace).2 (htwin.next relocates hr)
  have hhead := htwin'.head? hbrace.rest_ne_nil
  have hcode' : CodeReads (some '}') 0 .empty outer.next (draft.respanned f, closing') := by
    refine codeReads_of_steps hsteps' houter (hc.congr hhead.symm) ?_
    exact ⟨hend.1, hend.2.1, hhead.trans hend.2.2⟩
  refine ⟨closing'.next, ?_, htwin'.next relocates hr'⟩
  rw [← Draft.finish_respanned]
  exact HoleReads.of_code (htwin.rest_cons hr) hcode' (htwin'.rest_cons hr')

/-! ## Markup -/

theorem rest_ne_nil_of_skipBlanks {cursor : Cursor} (h : cursor.skipBlanks.rest ≠ []) :
    cursor.rest ≠ [] := by
  intro hnil
  apply h
  rw [Cursor.skipBlanks, Cursor.rest_past_ahead, hnil, List.dropWhile_nil]

theorem rest_ne_nil_of_attributes {fuel : Nat} {tag : Text} {start : Place}
    {found : List Attribute} {cursor : Cursor} {result : List Attribute × Bool × Cursor}
    (h : Reader.attributes fuel tag start found cursor = .ok result) : cursor.rest ≠ [] := by
  apply rest_ne_nil_of_skipBlanks
  intro hnil
  cases fuel with
  | zero => cases h
  | succ fuel =>
    rw [Reader.attributes] at h
    dsimp only at h
    rw [hnil] at h
    cases h

theorem rest_ne_nil_of_children {fuel : Nat} {tag : Text} {start : Place} {found : List Child}
    {cursor : Cursor} {result : List Child × Cursor}
    (h : Reader.children fuel tag start found cursor = .ok result) : cursor.rest ≠ [] := by
  intro hnil
  cases fuel with
  | zero => cases h
  | succ fuel =>
    rw [Reader.children, hnil] at h
    cases h

/-- What stands between the name of an attribute and its value. -/
theorem value_eq {cursor after : Cursor} {name rest : Text}
    (hname : name ++ (cursor.past name).rest = cursor.rest)
    (hr : (cursor.past name).skipBlanks.rest = '=' :: rest)
    (hafter : after = (cursor.past name).skipBlanks.next) :
    ∃ before behind : Text, before.isBlank ∧ behind.isBlank ∧
      cursor.rest = name ++ before ++ '=' :: behind ++ after.skipBlanks.rest ∧
      after.skipBlanks = cursor.past (name ++ before ++ '=' :: behind) := by
  refine ⟨(cursor.past name).ahead isBlank, after.ahead isBlank, List.all_takeWhile,
    List.all_takeWhile, ?_, ?_⟩
  · rw [List.append_assoc, List.cons_append, after.ahead_append_skipBlanks, hafter,
      Cursor.rest_next hr, ← hr, List.append_assoc, Cursor.ahead_append_skipBlanks, hname]
  · rw [Cursor.past_append, Cursor.past_append, ← Cursor.skipBlanks, Cursor.past_cons hr, ← hafter]
    rfl

/-- A closing tag. -/
theorem closing_eq {cursor : Cursor} {tag rest rest' : Text}
    (hr : cursor.rest = '<' :: '/' :: rest)
    (hname : cursor.next.next.skipBlanks.ahead isTagChar = tag)
    (hr' : (cursor.next.next.skipBlanks.past tag).skipBlanks.rest = '>' :: rest') :
    ∃ before behind : Text, before.isBlank ∧ behind.isBlank ∧
      cursor.rest = '<' :: '/' :: before ++ tag ++ behind ++ '>' :: rest' ∧
      (cursor.next.next.skipBlanks.past tag).skipBlanks.next =
        cursor.past ('<' :: '/' :: before ++ tag ++ behind ++ ['>']) := by
  have hr₁ : cursor.next.rest = '/' :: rest := Cursor.rest_next hr
  have hopened := cursor.next.next.ahead_append_skipBlanks
  have hnamed := cursor.next.next.skipBlanks.ahead_append_rest isTagChar
  rw [hname] at hnamed
  refine ⟨cursor.next.next.ahead isBlank,
    (cursor.next.next.skipBlanks.past tag).ahead isBlank, List.all_takeWhile, List.all_takeWhile,
    ?_, ?_⟩
  · rw [← hr', List.append_assoc, Cursor.ahead_append_skipBlanks, List.append_assoc, hnamed,
      List.cons_append, List.cons_append, hopened, Cursor.rest_next hr₁, hr]
  · rw [Cursor.next_eq_past hr', Cursor.past_append, Cursor.past_append, Cursor.past_append,
      Cursor.past_cons hr, Cursor.past_cons hr₁]
    rfl

section Step

variable {fuel : Nat} (relocates : Relocates f related) (carries : Carries f related tail fuel)
include relocates carries

theorem Carries.element_succ {inner behind outer : Cursor} {found : Element}
    (h : Reader.element (fuel + 1) inner = .ok (found, behind))
    (htwin : inner.Twin related tail outer) :
    ∃ behind', ElementReads outer (found.respanned f) behind' ∧
      behind.Twin related tail behind' := by
  rw [Reader.element] at h
  obtain ⟨opened, hexpect, h⟩ := bind_eq_ok h
  obtain ⟨rest, hr, rfl⟩ := expect_eq_ok hexpect
  split at h
  · exact absurd h faultAt_ne_ok
  dsimp only at h
  split at h
  · exact absurd h faultAt_ne_ok
  next htag =>
    have hne : inner.next.ahead isTagChar ≠ [] := by simpa using htag
    have hchars : ∀ c ∈ inner.next.ahead isTagChar, isTagChar c = true :=
      fun c hc => List.mem_takeWhile_imp hc
    have hstop : ∀ c ∈ (inner.next.past (inner.next.ahead isTagChar)).rest.head?,
        isTagChar c = false := fun c hc => Cursor.not_of_head?_past_ahead hc
    have hsplit := inner.next.ahead_append_rest isTagChar
    obtain ⟨⟨all, selfClosing, within⟩, hattributes, h⟩ := bind_eq_ok h
    have hmore := rest_ne_nil_of_attributes hattributes
    generalize inner.next.ahead isTagChar = tag at *
    rw [← Cursor.past_cons hr] at hattributes hstop hsplit hmore
    have hr' : inner.rest = '<' :: tag ++ (inner.past ('<' :: tag)).rest := by
      rw [hr, List.cons_append, hsplit, Cursor.rest_next hr]
    have htagged := htwin.past relocates hr'
    have hrest : outer.rest = '<' :: tag ++ (outer.past ('<' :: tag)).rest := by
      rw [htwin.rest, htagged.rest, ← List.append_assoc, ← hr']
    rw [← htagged.head? hmore] at hstop
    obtain ⟨within', hreads, hwithin⟩ := carries.attributes hattributes htagged
    rw [attributesRespanned] at hreads
    dsimp only at h
    split at h
    next hself =>
      cases h
      obtain rfl : selfClosing = true := hself
      refine ⟨within', ?_, hwithin⟩
      rw [Element.respanned, childrenRespanned, htwin.spanFrom relocates hwithin]
      exact ElementReads.selfClosing hrest hne hchars hstop hreads
    next hself =>
      obtain ⟨⟨kids, closed⟩, hchildren, h⟩ := bind_eq_ok h
      cases h
      obtain rfl : selfClosing = false := by simpa using hself
      obtain ⟨behind', hkids, hbehind⟩ := carries.children hchildren hne hchars hwithin
      rw [childrenRespanned] at hkids
      refine ⟨behind', ?_, hbehind⟩
      have hlen : within'.rest.length ≤ (outer.past ('<' :: tag)).rest.length := by
        obtain ⟨new, -, hsited⟩ := (sites fuel).attributes hattributes
        obtain ⟨taken, htaken, -⟩ := hsited.sited.reaches
        rw [hwithin.rest, htagged.rest, htaken]
        simp only [List.length_append]
        omega
      rw [Element.respanned, htwin.spanFrom relocates hbehind]
      exact ElementReads.closed hrest hne hchars hstop hreads hlen hkids

theorem Carries.attributes_succ {tag : Text} {start : Place} {found all : List Attribute}
    {inner behind outer : Cursor} {selfClosing : Bool}
    (h : Reader.attributes (fuel + 1) tag start found inner = .ok (all, selfClosing, behind))
    (htwin : inner.Twin related tail outer) :
    ∃ behind', AttributesReads tag (attributesRespanned f found) outer (attributesRespanned f all)
      selfClosing behind' ∧ behind.Twin related tail behind' := by
  rw [Reader.attributes] at h
  dsimp only at h
  split at h
  · exact absurd h faultAt_ne_ok
  next c rest hr =>
    have hskip := htwin.skipBlanks relocates (by simp [hr])
    have hr' := hskip.rest_cons hr
    split at h
    next hslash =>
      obtain rfl : c = '/' := by simpa using hslash
      obtain ⟨after, hexpect, h⟩ := bind_eq_ok h
      obtain ⟨rest₁, hr₁, rfl⟩ := expect_eq_ok hexpect
      cases h
      obtain rfl : rest = '>' :: rest₁ := by rw [← hr₁, Cursor.rest_next hr]
      refine ⟨outer.skipBlanks.past ['/', '>'], ?_, ?_⟩
      · rw [attributesRespanned_reverse]
        exact AttributesReads.closes hr'
      · rw [Cursor.next_eq_past hr₁, ← Cursor.past_cons hr]
        exact hskip.past relocates hr
    split at h
    next hgt =>
      obtain rfl : c = '>' := by simpa using hgt
      cases h
      refine ⟨outer.skipBlanks.past ['>'], ?_, ?_⟩
      · rw [attributesRespanned_reverse]
        exact AttributesReads.opens hr'
      · rw [Cursor.next_eq_past hr]
        exact hskip.past relocates hr
    split at h
    · exact absurd h faultAt_ne_ok
    split at h
    next hstart =>
      obtain ⟨⟨a, after⟩, hone, h⟩ := bind_eq_ok h
      obtain ⟨after', hone', hafter⟩ :=
        carries.oneAttribute hone hr hstart (rest_ne_nil_of_attributes h) hskip
      obtain ⟨behind', hreads, hbehind⟩ := carries.attributes h hafter
      exact ⟨behind', AttributesReads.one hr' hstart hone' hreads, hbehind⟩
    · exact absurd h faultAt_ne_ok

theorem Carries.oneAttribute_succ {inner behind outer : Cursor} {a : Attribute} {c : Char}
    {rest : Text} (h : Reader.oneAttribute (fuel + 1) inner = .ok (a, behind))
    (hr : inner.rest = c :: rest) (hc : isAttributeStart c = true) (hne : behind.rest ≠ [])
    (htwin : inner.Twin related tail outer) :
    ∃ behind', OneReads outer (a.respanned f) behind' ∧ behind.Twin related tail behind' := by
  have hname := isAttributeName_ahead hr hc
  have hsplit := inner.ahead_append_rest isAttributeChar
  have hstop : ∀ d ∈ (inner.past (inner.ahead isAttributeChar)).rest.head?,
      isAttributeChar d = false := fun d hd => Cursor.not_of_head?_past_ahead hd
  rw [Reader.oneAttribute] at h
  dsimp only at h
  generalize inner.ahead isAttributeChar = name at *
  have hnamed := htwin.past relocates hsplit.symm
  split at h
  next heat =>
    cases h
    have hskip := hnamed.skipBlanks relocates hne
    have hrest : outer.rest = name ++ (outer.past name).rest := by
      rw [htwin.rest, hnamed.rest, ← List.append_assoc, hsplit]
    have hmore := hnamed.head? (rest_ne_nil_of_skipBlanks hne)
    rw [← hmore] at hstop
    refine ⟨_, OneReads.bare hrest hname hstop ?_, hskip⟩
    rw [hskip.head? hne]
    intro hhead
    obtain ⟨rest', hr'⟩ := List.head?_eq_some_iff.1 hhead
    rw [Cursor.eat_eq_some_iff.2 ⟨rest', hr', rfl⟩] at heat
    cases heat
  next after heat =>
    obtain ⟨rest', hr', hafter⟩ := Cursor.eat_eq_some_iff.1 heat
    rw [← Cursor.next_of_rest hr'] at hafter
    obtain ⟨before, space, hblank, hblank', hrest, hvalue⟩ := value_eq hsplit hr' hafter
    have htwin' := htwin.past relocates hrest
    rw [← hvalue] at htwin'
    have hrest' : outer.rest = name ++ before ++ '=' :: space ++
        (outer.past (name ++ before ++ '=' :: space)).rest := by
      rw [htwin.rest, htwin'.rest, ← List.append_assoc, ← hrest]
    split at h
    · exact absurd h faultAt_ne_ok
    next d rest'' hr'' =>
      split at h
      next hquote =>
        split at h
        · exact absurd h faultAt_ne_ok
        next body hbody =>
          cases h
          obtain ⟨quoted, left, rfl, hquoted, rfl⟩ := quotedBody_eq_some_iff.1 hbody
          have hraw : IsQuoted (d :: (quoted ++ [d])) :=
            ⟨d, quoted, by simpa using hquote, hquoted, rfl⟩
          refine ⟨(outer.past (name ++ before ++ '=' :: space)).past (d :: (quoted ++ [d])), ?_,
            htwin'.past relocates hr''⟩
          have hrest'' : outer.rest = name ++ before ++ '=' :: space ++ d :: (quoted ++ [d]) ++
              (left ++ tail) := by
            rw [hrest', htwin'.rest_cons hr'']
            simp
          rw [← Cursor.past_append]
          exact OneReads.literal hrest'' hname hblank hblank' hraw
      split at h
      next hbrace =>
        obtain rfl : d = '{' := by simpa using hbrace
        obtain ⟨⟨nodes, closed⟩, hhole, h⟩ := bind_eq_ok h
        cases h
        obtain ⟨behind', hreads, hbehind'⟩ := carries.hole hhole htwin'
        rw [htwin'.rest_cons hr''] at hrest'
        exact ⟨behind', OneReads.hole hrest' hname hblank hblank' hreads, hbehind'⟩
      · exact absurd h faultAt_ne_ok

theorem Carries.children_succ {tag : Text} {start : Place} {found all : List Child}
    {inner behind outer : Cursor}
    (h : Reader.children (fuel + 1) tag start found inner = .ok (all, behind)) (hne : tag ≠ [])
    (htag : ∀ c ∈ tag, isTagChar c = true) (htwin : inner.Twin related tail outer) :
    ∃ behind', ChildrenReads tag (childrenRespanned f found) outer (childrenRespanned f all)
      behind' ∧ behind.Twin related tail behind' := by
  rw [Reader.children] at h
  split at h
  · exact absurd h faultAt_ne_ok
  next c rest hr =>
    have hr' := htwin.rest_cons hr
    split at h
    next hlt =>
      obtain rfl : c = '<' := by simpa using hlt
      split at h
      next hslash =>
        have hslash : inner.peekNext = '/' := by simpa using hslash
        obtain ⟨rest₁, rfl⟩ := List.head?_eq_some_iff.1 ((peekNext_eq_iff hr (by decide)).1 hslash)
        obtain ⟨closed, hexpect, h⟩ := bind_eq_ok h
        obtain ⟨rest₂, hr₂, rfl⟩ := expect_eq_ok hexpect
        split at h
        next hname =>
          cases h
          have hname : inner.next.next.skipBlanks.ahead isTagChar = tag := by simpa using hname
          rw [hname] at hr₂ ⊢
          obtain ⟨before, space, hbefore, hspace, hrest, hbehind⟩ := closing_eq hr hname hr₂
          have hrest' : outer.rest =
              '<' :: '/' :: before ++ tag ++ space ++ '>' :: (rest₂ ++ tail) := by
            rw [htwin.rest, hrest]
            simp
          have hsplit : inner.rest = '<' :: '/' :: before ++ tag ++ space ++ ['>'] ++ rest₂ := by
            rw [hrest]
            simp
          rw [hbehind, childrenRespanned_reverse]
          exact ⟨_, ChildrenReads.closes hrest' hne htag hbefore hspace,
            htwin.past relocates hsplit⟩
        next => exact absurd h faultAt_ne_ok
      next hslash =>
        obtain ⟨⟨child, after⟩, helement, h⟩ := bind_eq_ok h
        obtain ⟨after', hchild, hafter⟩ := carries.element helement htwin
        obtain ⟨behind', hreads, hbehind⟩ := carries.children h hne htag hafter
        obtain ⟨own, hown, hrest⟩ := (sound fuel).element helement
        obtain ⟨d, inside, rfl, hd⟩ := hown.head
        have hnot : (rest ++ tail).head? ≠ some '/' := by
          obtain rfl : rest = d :: inside ++ after.rest := by
            rw [hr] at hrest
            exact List.tail_eq_of_cons_eq hrest
          intro hhead
          obtain rfl : d = '/' := by simpa using hhead
          exact absurd hd (by decide)
        exact ⟨behind', ChildrenReads.element hr' hnot hchild hreads, hbehind⟩
    next hlt =>
    split at h
    next hbrace =>
      obtain rfl : c = '{' := by simpa using hbrace
      obtain ⟨⟨nodes, after⟩, hhole, h⟩ := bind_eq_ok h
      obtain ⟨after', hnodes, hafter⟩ := carries.hole hhole htwin
      obtain ⟨behind', hreads, hbehind⟩ := carries.children h hne htag hafter
      exact ⟨behind', ChildrenReads.hole hr' hnodes hreads, hbehind⟩
    next hbrace =>
      have hc : c ≠ '<' ∧ c ≠ '{' := ⟨by simpa using hlt, by simpa using hbrace⟩
      generalize hp : (fun c : Char => c != '<' && c != '{') = p at h
      have hpc : ∀ d, p d = true ↔ d ≠ '<' ∧ d ≠ '{' := by simp [← hp]
      have hmore := rest_ne_nil_of_children h
      have hafter := htwin.past_ahead relocates hmore
      obtain ⟨behind', hreads, hbehind⟩ := carries.children h hne htag hafter
      rw [htwin.ahead hmore] at hafter hreads
      have hown : ∀ d ∈ inner.ahead p, d ≠ '<' ∧ d ≠ '{' :=
        fun d hd => (hpc d).1 (List.mem_takeWhile_imp hd)
      have hstop : ∀ d ∈ (outer.past (inner.ahead p)).rest.head?, d = '<' ∨ d = '{' := by
        rw [hafter.head? hmore]
        intro d hd
        have hd := Cursor.not_of_head?_past_ahead hd
        by_contra hneither
        rw [(hpc d).2 (by simpa [not_or] using hneither)] at hd
        cases hd
      have hrest : outer.rest = inner.ahead p ++ (outer.past (inner.ahead p)).rest := by
        rw [hafter.rest, htwin.rest, ← List.append_assoc, inner.ahead_append_rest p]
      have hnonempty : inner.ahead p ≠ [] := by
        rw [Cursor.ahead, hr, List.takeWhile_cons_of_pos ((hpc c).2 hc)]
        exact List.cons_ne_nil _ _
      exact ⟨behind', ChildrenReads.text hrest hnonempty hown hstop hreads, hbehind⟩

end Step

theorem carries (relocates : Relocates f related) (tail : Text) (fuel : Nat) :
    Carries f related tail fuel := by
  induction fuel using Nat.strong_induction_on with
  | _ fuel ih =>
    cases fuel with
    | zero => exact ⟨nofun, nofun, nofun, nofun, nofun⟩
    | succ fuel =>
      have last := ih fuel (by omega)
      exact ⟨last.element_succ relocates, last.attributes_succ relocates,
        last.oneAttribute_succ relocates, hole_carried relocates fun n hn => ih n (by omega),
        last.children_succ relocates⟩

/-- How much fuel there was does not matter: the same text at the same place reads the same. -/
theorem elementReads_of_element {fuel : Nat} {cursor behind : Cursor} {found : Element}
    (h : element fuel cursor = .ok (found, behind)) : ElementReads cursor found behind := by
  have htwin : cursor.Twin Eq [] cursor := ⟨(List.append_nil _).symm, rfl⟩
  obtain ⟨behind', hreads, hrest, hplace⟩ := (carries relocates_id [] fuel).element h htwin
  rw [Element.respanned_id] at hreads
  obtain rfl : behind' = behind := by
    rw [List.append_nil] at hrest
    obtain ⟨rest, place⟩ := behind
    obtain ⟨rest', place'⟩ := behind'
    rw [Cursor.mk.injEq]
    exact ⟨hrest, hplace.symm⟩
  exact hreads

theorem ElementReads.unique {cursor behind behind' : Cursor} {found found' : Element}
    (h : ElementReads cursor found behind) (h' : ElementReads cursor found' behind') :
    found = found' ∧ behind = behind' := by
  have hread := h _ (Nat.le_refl _)
  rw [h' _ (Nat.le_refl _)] at hread
  cases hread
  exact ⟨rfl, rfl⟩

end Reader

/-! ## Elements by themselves -/

/-- A source that is one element. -/
theorem parse_of_elementReads {own : Text} {found : Element} {behind : Cursor} {c : Char}
    {rest : Text} (hown : own = '<' :: c :: rest) (hc : isTagStart c = true)
    (h : Reader.ElementReads (.ofText own) found behind) (hend : behind.rest = []) :
    parse own = .ok [.markup found] := by
  have hopens : Reader.opensElement .empty (.ofText own) = true := by
    have hnext : (Cursor.ofText own).peekNext = c := by rw [hown]; rfl
    rw [Reader.opensElement, hnext, hc]
    rfl
  have hnone : Reader.callee? .empty behind = none := by
    rw [Reader.callee?, Cursor.peekPastBlanks, hend]
    rfl
  have hreads : Reader.CodeReads none 0 .empty (.ofText own)
      (Draft.empty.add (.markup found), behind) :=
    Reader.CodeReads.markup hown hopens h hnone (Reader.CodeReads.ends hend)
  exact parse_eq_ok_iff.2 ⟨_, behind, hreads _ _ (Nat.le_refl _), rfl⟩

/-- An element means the same wherever it stands: the text of an element of a source, read by
itself, is that element alone, and its spans, moved to where the element begins in the source, are
those it has there. -/
theorem parse_text_of_parse {source : Text} {expression : Expression} {element : Element}
    {c : Char} {name : Text} (h : parse source = .ok expression)
    (hmem : element ∈ expression.elements) (htag : element.tag = c :: name)
    (hc : isTagStart c = true) :
    ∃ found : Element, parse (element.span.text source) = .ok [.markup found] ∧
      found.moved element.span.begin = element := by
  obtain ⟨behind, hsited⟩ := sited_of_parse h
  obtain ⟨first, last, ⟨before, hbefore, hplace⟩, hbetween, -⟩ := hsited.between element hmem
  obtain ⟨own, hspelled, hown⟩ := hbetween.spelled
  obtain ⟨fuel, hread⟩ := hbetween.read
  have htext : element.span.text source = own := by
    have hsource : source = before ++ (own ++ last.rest) := by rw [← hown]; exact hbefore
    rw [hsource]
    exact (hbetween.span_eq hplace hown).2.2
  have hbegin : element.span.begin = first.place := by rw [hbetween.span]; rfl
  rw [htext, hbegin]
  -- The text reads as some element; what stands behind it in the source adds nothing.
  have hr : (Cursor.ofText own).rest = own ++ [] := (List.append_nil own).symm
  obtain ⟨found, -, hfound⟩ := hspelled.reads hr
  have htwin : (Cursor.ofText own).Twin first.place.Beyond last.rest first :=
    ⟨hown, first.place.beyond_origin.symm, Nat.le_refl 1, Nat.le_refl 1⟩
  obtain ⟨last', hmoved, -⟩ := (Reader.carries (relocates_moved first.place) last.rest _).element
    (hfound _ (Nat.le_refl _)) htwin
  obtain ⟨rest, rfl⟩ := hspelled.layout.ends.1
  refine ⟨found, ?_, ((Reader.elementReads_of_element hread).unique hmoved).1.symm⟩
  rw [htag] at hfound ⊢
  exact parse_of_elementReads rfl hc hfound (Cursor.rest_past (by rw [← htag]; exact hr))

/-- An argument of a call that begins on the second line and ends on the third, with one element in
a hole and one as a child. -/
theorem parse_text_of_parse_argument :
    ∃ (expression : Expression) (element found : Element),
      parse "x = f(\n  <a b=\x7by ? <i/> : z\x7d>\n    <c/></a> )".toList = .ok expression ∧
      element ∈ expression.elements ∧ element.tag = ['a'] ∧ isTagStart 'a' = true ∧
      element.span = ⟨9, 42, 2, 3⟩ ∧
      parse "<a b=\x7by ? <i/> : z\x7d>\n    <c/></a>".toList = .ok [.markup found] ∧
      found.moved ⟨9, 2, 3⟩ = element := by
  have helements :
      (parse "x = f(\n  <a b=\x7by ? <i/> : z\x7d>\n    <c/></a> )".toList).toOption.map
        (fun expression => expression.elements.map fun element => (element.tag, element.span)) =
          some [(['a'], ⟨9, 42, 2, 3⟩), (['i'], ⟨19, 23, 2, 13⟩), (['c'], ⟨34, 38, 3, 5⟩)] := by
    decide +kernel
  cases h : parse "x = f(\n  <a b=\x7by ? <i/> : z\x7d>\n    <c/></a> )".toList with
  | error error => rw [h] at helements; cases helements
  | ok expression =>
    rw [h] at helements
    obtain ⟨element, others, hall, helement, -⟩ :=
      List.map_eq_cons_iff.1 (Option.some.inj helements)
    have hmem : element ∈ expression.elements := by rw [hall]; exact List.mem_cons_self
    have htag : element.tag = ['a'] := congrArg Prod.fst helement
    have hspan : element.span = ⟨9, 42, 2, 3⟩ := congrArg Prod.snd helement
    have hc : isTagStart 'a' = true := by decide
    obtain ⟨found, hfound, hmoved⟩ := parse_text_of_parse h hmem htag hc
    rw [hspan] at hfound hmoved
    exact ⟨expression, element, found, rfl, hmem, htag, hc, hspan, hfound, hmoved⟩

end JsxTemplate
