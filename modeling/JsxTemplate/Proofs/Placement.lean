import JsxTemplate.Markup.Elements
import JsxTemplate.Proofs.Positions
import JsxTemplate.Proofs.Unspaced

/-
  Where elements stand in a source. The reader goes forward only, so the elements it finds between
  two cursors stand there in order, those inside another one strictly between its ends (`Sited`).
  That is an induction over the fuel, like soundness, with a run of steps for code. Main statement:
  the span of every element covers its text and begins where it says (`placed_of_parse`).
-/

namespace JsxTemplate

/-! ## Elements between two cursors -/

/-- The element is what is read between two cursors, and its span says so. -/
structure Element.Between (element : Element) (cursor behind : Cursor) : Prop where
  reaches : cursor.Reaches behind
  span : element.span = behind.spanFrom cursor.place
  spelled : ∃ own, element.Spelled own ∧ cursor.rest = own ++ behind.rest
  read : ∃ fuel, Reader.element fuel cursor = .ok (element, behind)

/-- Elements that stand between two cursors: those inside another one strictly between its ends,
all others in order. -/
structure Sited (cursor behind : Cursor) (elements : List Element) : Prop where
  reaches : cursor.Reaches behind
  between : ∀ element ∈ elements, ∃ first last, cursor.Reaches first ∧ element.Between first last ∧
    last.Reaches behind
  nested : ∀ element ∈ elements, ∀ inner ∈ element.inside,
    element.span.start < inner.span.start ∧ inner.span.stop < element.span.stop
  ordered : elements.Pairwise fun a b => b ∈ a.inside ∨ a.span.stop ≤ b.span.start

/-- Elements that stand between two cursors, with some text behind them. -/
def SitedBefore (cursor behind : Cursor) (elements : List Element) : Prop :=
  ∃ last, Sited cursor last elements ∧ last.Reaches behind ∧
    last.place.offset < behind.place.offset

section Sited

variable {cursor middle behind : Cursor} {elements others : List Element} {element : Element}

theorem Sited.nil (h : cursor.Reaches behind) : Sited cursor behind [] :=
  ⟨h, nofun, nofun, .nil⟩

theorem Sited.within (h : Sited cursor behind elements) (hmem : element ∈ elements) :
    cursor.place.offset ≤ element.span.start ∧ element.span.stop ≤ behind.place.offset := by
  obtain ⟨first, last, hfirst, hbetween, hlast⟩ := h.between element hmem
  rw [hbetween.span]
  exact ⟨hfirst.offset_le, hlast.offset_le⟩

theorem Sited.append (h : Sited cursor middle elements) (h' : Sited middle behind others) :
    Sited cursor behind (elements ++ others) where
  reaches := h.reaches.trans h'.reaches
  between := by
    intro element hmem
    rcases List.mem_append.1 hmem with hmem | hmem
    · obtain ⟨first, last, hfirst, hbetween, hlast⟩ := h.between element hmem
      exact ⟨first, last, hfirst, hbetween, hlast.trans h'.reaches⟩
    · obtain ⟨first, last, hfirst, hbetween, hlast⟩ := h'.between element hmem
      exact ⟨first, last, h.reaches.trans hfirst, hbetween, hlast⟩
  nested := by
    intro element hmem
    rcases List.mem_append.1 hmem with hmem | hmem
    · exact h.nested element hmem
    · exact h'.nested element hmem
  ordered := by
    rw [List.pairwise_append]
    refine ⟨h.ordered, h'.ordered, ?_⟩
    intro a ha b hb
    exact .inr (Nat.le_trans (h.within ha).2 (h'.within hb).1)

theorem Sited.reach (h : Sited cursor middle elements) (h' : middle.Reaches behind) :
    Sited cursor behind elements := by
  have := h.append (.nil h')
  rwa [List.append_nil] at this

theorem Sited.of_reaches (h' : cursor.Reaches middle) (h : Sited middle behind elements) :
    Sited cursor behind elements :=
  (Sited.nil h').append h

theorem SitedBefore.sited (h : SitedBefore cursor behind elements) :
    Sited cursor behind elements := by
  obtain ⟨last, hsited, hreaches, -⟩ := h
  exact hsited.reach hreaches

theorem Sited.append_before (h : Sited cursor middle elements)
    (h' : SitedBefore middle behind others) : SitedBefore cursor behind (elements ++ others) := by
  obtain ⟨last, hsited, hreaches, hlt⟩ := h'
  exact ⟨last, h.append hsited, hreaches, hlt⟩

/-- An element with those inside it, which begin behind its first character and end before its
last one. -/
theorem sited_cons_inside (h : SitedBefore middle behind element.inside)
    (hbetween : element.Between cursor behind) (hreaches : cursor.Reaches middle)
    (hlt : cursor.place.offset < middle.place.offset) :
    Sited cursor behind (element :: element.inside) := by
  have hinside : Sited cursor behind element.inside := h.sited.of_reaches hreaches
  obtain ⟨last, hsited, -, hlast⟩ := h
  refine ⟨hbetween.reaches, ?_, ?_, ?_⟩
  · intro other hmem
    rcases List.mem_cons.1 hmem with rfl | hmem
    · exact ⟨cursor, behind, cursor.reaches_refl, hbetween, behind.reaches_refl⟩
    · exact hinside.between other hmem
  · intro other hmem
    rcases List.mem_cons.1 hmem with rfl | hmem
    · intro inner hinner
      have hwithin := hsited.within hinner
      rw [hbetween.span]
      exact ⟨Nat.lt_of_lt_of_le hlt hwithin.1, Nat.lt_of_le_of_lt hwithin.2 hlast⟩
    · exact hinside.nested other hmem
  · exact .cons (fun inner hinner => .inl hinner) hinside.ordered

end Sited

/-! ## Code -/

theorem nodesElements_codeNodes (text : Text) : nodesElements (codeNodes text) = [] := by
  unfold codeNodes
  split
  · rw [nodesElements]
  · rw [nodesElements, nodesElements, Node.elements, List.append_nil]

/-- The elements of a draft; pending code has none. -/
def Draft.elements (draft : Draft) : List Element := nodesElements draft.nodes.reverse

theorem Draft.elements_finish (draft : Draft) : nodesElements draft.finish = draft.elements := by
  rw [finish, settle_nodes_reverse, nodesElements_append, nodesElements_codeNodes, List.append_nil,
    elements]

theorem Draft.elements_add (draft : Draft) (node : Node) :
    (draft.add node).elements = draft.elements ++ node.elements := by
  rw [elements, add, List.reverse_cons, nodesElements_append, nodesElements, nodesElements,
    List.append_nil, ← finish, elements_finish]

/-- One more step: what it finds stands behind what was found before. -/
theorem sited_of_step {reads : Cursor → Element → Cursor → Prop}
    (hreads : ∀ cursor element behind, reads cursor element behind →
      Sited cursor behind (element :: element.inside))
    {close : Option Char} {start : Cursor} {reading reading' : Reading}
    (hstep : Step reads close reading reading')
    (h : Sited start reading.cursor reading.draft.elements) :
    Sited start reading'.cursor reading'.draft.elements := by
  cases hstep with
  | copy hr ht => exact h.reach (Cursor.reaches_next _)
  | markup hc hopens he hnone =>
    rw [Draft.elements_add, Node.elements]
    exact h.append (hreads _ _ _ he)
  | call hc hopens he hsome =>
    -- Cutting the callee off the pending code changes no node.
    rw [Draft.elements_add, Node.elements]
    have hfound := h.append (hreads _ _ _ he)
    exact hfound.reach ((Cursor.reaches_skipBlanks _).trans (Cursor.reaches_next _))

theorem sited_of_steps {reads : Cursor → Element → Cursor → Prop}
    (hreads : ∀ cursor element behind, reads cursor element behind →
      Sited cursor behind (element :: element.inside))
    {close : Option Char} {lexer : Lexer} {cursor behind : Cursor} {draft : Draft}
    (hsteps : Steps reads close ⟨.initial, .empty, cursor⟩ ⟨lexer, draft, behind⟩) :
    Sited cursor behind (nodesElements draft.finish) := by
  -- The end of a run is not the end of an expression, so the invariant counts finished nodes only.
  have hrun : ∀ reading, Steps reads close ⟨.initial, .empty, cursor⟩ reading →
      Sited cursor reading.cursor reading.draft.elements := by
    intro reading hreading
    induction hreading with
    | refl =>
      have hnone : Draft.empty.elements = [] := by
        rw [Draft.elements]
        exact nodesElements.eq_1
      rw [hnone]
      exact .nil cursor.reaches_refl
    | tail _ hstep ih => exact sited_of_step hreads hstep ih
  rw [Draft.elements_finish]
  exact hrun _ hsteps

/-! ## Markup -/

namespace Reader

/-- Where the elements stand that reading with that fuel finds. -/
structure Sites (fuel : Nat) : Prop where
  element : ∀ {cursor found behind}, element fuel cursor = .ok (found, behind) →
    Sited cursor behind (found :: found.inside)
  attributes : ∀ {tag start found cursor all selfClosing behind},
    attributes fuel tag start found cursor = .ok (all, selfClosing, behind) →
    ∃ new, all = found.reverse ++ new ∧ SitedBefore cursor behind (attributesElements new)
  oneAttribute : ∀ {cursor a behind}, oneAttribute fuel cursor = .ok (a, behind) →
    Sited cursor behind a.elements
  hole : ∀ {cursor nodes behind}, hole fuel cursor = .ok (nodes, behind) →
    Sited cursor behind (nodesElements nodes)
  children : ∀ {tag start found cursor all behind},
    children fuel tag start found cursor = .ok (all, behind) →
    ∃ new, all = found.reverse ++ new ∧ SitedBefore cursor behind (childrenElements new)

section Step

variable {fuel : Nat} (sites : Sites fuel)
include sites

theorem Sites.element_succ {cursor behind : Cursor} {found : Element}
    (h : Reader.element (fuel + 1) cursor = .ok (found, behind)) :
    Sited cursor behind (found :: found.inside) := by
  have hspelled := (sound (fuel + 1)).element h
  have hread : ∃ fuel, Reader.element fuel cursor = .ok (found, behind) := ⟨fuel + 1, h⟩
  rw [Reader.element] at h
  -- What is inside begins behind the `<`, and ends before the `>` of the last tag.
  obtain ⟨opened, hexpect, h⟩ := bind_eq_ok h
  obtain ⟨rest, hr, rfl⟩ := expect_eq_ok hexpect
  have hopened : cursor.place.offset < cursor.next.place.offset := by
    rw [Cursor.offset_next hr]
    omega
  split at h
  · exact absurd h faultAt_ne_ok
  dsimp only at h
  split at h
  · exact absurd h faultAt_ne_ok
  have htag := cursor.next.reaches_past_ahead isTagChar
  obtain ⟨⟨all, selfClosing, inner⟩, hattributes, h⟩ := bind_eq_ok h
  obtain ⟨new, hall, hsited⟩ := sites.attributes hattributes
  obtain rfl : all = new := hall
  have hopening : cursor.Reaches inner :=
    cursor.reaches_next.trans (htag.trans hsited.sited.reaches)
  dsimp only at h
  split at h
  next hself =>
    cases h
    refine sited_cons_inside ?_ ⟨hopening, rfl, hspelled, hread⟩ cursor.reaches_next hopened
    rw [Element.inside, childrenElements, List.append_nil]
    exact (Sited.nil htag).append_before hsited
  next hself =>
    obtain ⟨⟨kids, closed⟩, hchildren, h⟩ := bind_eq_ok h
    cases h
    obtain ⟨new, hkids, hsited'⟩ := sites.children hchildren
    obtain rfl : kids = new := hkids
    have hclosing := hopening.trans hsited'.sited.reaches
    refine sited_cons_inside ?_ ⟨hclosing, rfl, hspelled, hread⟩ cursor.reaches_next hopened
    rw [Element.inside]
    exact (hsited.sited.of_reaches htag).append_before hsited'

theorem Sites.attributes_succ {tag : Text} {start : Place} {found all : List Attribute}
    {cursor behind : Cursor} {selfClosing : Bool}
    (h : Reader.attributes (fuel + 1) tag start found cursor = .ok (all, selfClosing, behind)) :
    ∃ new, all = found.reverse ++ new ∧ SitedBefore cursor behind (attributesElements new) := by
  rw [Reader.attributes] at h
  have hskip := cursor.reaches_skipBlanks
  have hnone : Sited cursor cursor.skipBlanks (attributesElements []) := by
    rw [attributesElements]
    exact .nil hskip
  dsimp only at h
  split at h
  · exact absurd h faultAt_ne_ok
  next c rest hr =>
    have hnext := Cursor.offset_next hr
    split at h
    next hslash =>
      obtain ⟨after, hexpect, h⟩ := bind_eq_ok h
      obtain ⟨rest', hr', rfl⟩ := expect_eq_ok hexpect
      cases h
      have hnext' := Cursor.offset_next hr'
      exact ⟨[], (List.append_nil _).symm, _, hnone,
        (Cursor.reaches_next _).trans (Cursor.reaches_next _), by omega⟩
    split at h
    next hgt =>
      cases h
      exact ⟨[], (List.append_nil _).symm, _, hnone, Cursor.reaches_next _, by omega⟩
    split at h
    · exact absurd h faultAt_ne_ok
    split at h
    next hstart =>
      obtain ⟨⟨a, after⟩, hone, h⟩ := bind_eq_ok h
      obtain ⟨new, hall, hsited⟩ := sites.attributes h
      refine ⟨a :: new, by rw [hall]; simp, ?_⟩
      rw [attributesElements]
      exact ((sites.oneAttribute hone).of_reaches hskip).append_before hsited
    · exact absurd h faultAt_ne_ok

theorem Sites.oneAttribute_succ {cursor behind : Cursor} {a : Attribute}
    (h : Reader.oneAttribute (fuel + 1) cursor = .ok (a, behind)) :
    Sited cursor behind a.elements := by
  rw [Reader.oneAttribute] at h
  have hname := (cursor.reaches_past_ahead isAttributeChar).trans (Cursor.reaches_skipBlanks _)
  dsimp only at h
  generalize (cursor.past (cursor.ahead isAttributeChar)).skipBlanks = named at h hname
  split at h
  next heat =>
    cases h
    rw [Attribute.elements]
    exact .nil hname
  next after heat =>
    obtain ⟨rest, hr, hafter⟩ := Cursor.eat_eq_some_iff.1 heat
    rw [← Cursor.next_of_rest hr] at hafter
    have hvalue : cursor.Reaches after.skipBlanks := by
      rw [hafter]
      exact hname.trans (named.reaches_next.trans (Cursor.reaches_skipBlanks _))
    split at h
    · exact absurd h faultAt_ne_ok
    next c rest' hr' =>
      split at h
      next hquote =>
        split at h
        · exact absurd h faultAt_ne_ok
        next body hbody =>
          cases h
          obtain ⟨inner, left, -, -, hleft⟩ := quotedBody_eq_some_iff.1 hbody
          rw [Attribute.elements]
          exact .nil (hvalue.trans (Cursor.reaches_past (by rw [hr', hleft]; rfl)))
      split at h
      next hbrace =>
        obtain ⟨⟨nodes, closed⟩, hhole, h⟩ := bind_eq_ok h
        cases h
        rw [Attribute.elements]
        exact (sites.hole hhole).of_reaches hvalue
      · exact absurd h faultAt_ne_ok

theorem Sites.children_succ {tag : Text} {start : Place} {found all : List Child}
    {cursor behind : Cursor}
    (h : Reader.children (fuel + 1) tag start found cursor = .ok (all, behind)) :
    ∃ new, all = found.reverse ++ new ∧ SitedBefore cursor behind (childrenElements new) := by
  rw [Reader.children] at h
  split at h
  · exact absurd h faultAt_ne_ok
  next c rest hr =>
    have hnext := Cursor.offset_next hr
    split at h
    next hlt =>
      split at h
      next hslash =>
        obtain ⟨after, hexpect, h⟩ := bind_eq_ok h
        obtain ⟨rest', hr', rfl⟩ := expect_eq_ok hexpect
        split at h
        next hname =>
          cases h
          have hclosing : cursor.next.Reaches (Cursor.next _) :=
            cursor.next.reaches_next.trans ((Cursor.reaches_skipBlanks _).trans
              ((Cursor.reaches_past_ahead _ isTagChar).trans
                ((Cursor.reaches_skipBlanks _).trans (Cursor.reaches_next _))))
          refine ⟨[], (List.append_nil _).symm, cursor, ?_, cursor.reaches_next.trans hclosing, ?_⟩
          · rw [childrenElements]
            exact .nil cursor.reaches_refl
          · have := hclosing.offset_le
            omega
        next => exact absurd h faultAt_ne_ok
      next hslash =>
        obtain ⟨⟨child, after⟩, helement, h⟩ := bind_eq_ok h
        obtain ⟨new, hall, hsited⟩ := sites.children h
        refine ⟨.element child :: new, by rw [hall]; simp, ?_⟩
        rw [childrenElements, Child.elements]
        exact (sites.element helement).append_before hsited
    split at h
    next hbrace =>
      obtain ⟨⟨nodes, after⟩, hhole, h⟩ := bind_eq_ok h
      obtain ⟨new, hall, hsited⟩ := sites.children h
      refine ⟨.hole nodes :: new, by rw [hall]; simp, ?_⟩
      rw [childrenElements, Child.elements]
      exact (sites.hole hhole).append_before hsited
    next hbrace =>
      generalize (fun c : Char => c != '<' && c != '{') = p at h
      obtain ⟨new, hall, hsited⟩ := sites.children h
      refine ⟨.text (cursor.ahead p) :: new, by rw [hall]; simp, ?_⟩
      rw [childrenElements, Child.elements]
      exact (Sited.nil (cursor.reaches_past_ahead _)).append_before hsited

end Step

theorem hole_sites {fuel : Nat} (below : ∀ n < fuel, Sites n) {cursor behind : Cursor}
    {nodes : Expression} (h : Reader.hole (fuel + 1) cursor = .ok (nodes, behind)) :
    Sited cursor behind (nodesElements nodes) := by
  rw [Reader.hole] at h
  obtain ⟨opened, hexpect, h⟩ := bind_eq_ok h
  obtain ⟨rest, hr, rfl⟩ := expect_eq_ok hexpect
  obtain ⟨⟨draft, closing⟩, hcode, h⟩ := bind_eq_ok h
  obtain ⟨closed, hexpect', h⟩ := bind_eq_ok h
  obtain ⟨rest', hr', rfl⟩ := expect_eq_ok hexpect'
  cases h
  obtain ⟨lexer, hsteps, -⟩ := steps_of_code hcode
  have hreads : ∀ cursor element after, ElementBelow fuel cursor element after →
      Sited cursor after (element :: element.inside) := by
    rintro cursor element after ⟨n, hn, helement⟩
    exact (below n hn).element helement
  have hsited := (sited_of_steps hreads hsteps).of_reaches cursor.reaches_next
  exact hsited.reach closing.reaches_next

theorem sites (fuel : Nat) : Sites fuel := by
  induction fuel using Nat.strong_induction_on with
  | _ fuel ih =>
    cases fuel with
    | zero => exact ⟨nofun, nofun, nofun, nofun, nofun⟩
    | succ fuel =>
      have last := ih fuel (by omega)
      exact ⟨last.element_succ, last.attributes_succ, last.oneAttribute_succ,
        hole_sites fun n hn => ih n (by omega), last.children_succ⟩

end Reader

/-- The elements of a source stand in it in order. -/
theorem sited_of_parse {source : Text} {expression : Expression}
    (h : parse source = .ok expression) :
    ∃ behind, Sited (.ofText source) behind expression.elements := by
  obtain ⟨draft, behind, hcode, rfl⟩ := parse_eq_ok_iff.1 h
  obtain ⟨lexer, hsteps, -⟩ := Reader.steps_of_code hcode
  refine ⟨behind, sited_of_steps ?_ hsteps⟩
  rintro cursor element after ⟨n, -, helement⟩
  exact (Reader.sites n).element helement

/-! ## Spans -/

/-- The stretch of a source that a span covers. -/
def Span.text (span : Span) (source : Text) : Text :=
  (source.drop span.start).take (span.stop - span.start)

/-- The span of the element covers the element, and begins where it says. -/
structure Element.PlacedIn (element : Element) (source : Text) : Prop where
  start_lt_stop : element.span.start < element.span.stop
  stop_le_length : element.span.stop ≤ source.length
  opens : '<' :: element.tag <+: element.span.text source
  closes : ['>'] <:+ element.span.text source
  unspaced : (element.span.text source).unspaced = element.toSource.unspaced
  line : element.span.line = 1 + (source.take element.span.start).count '\n'
  column : element.span.column =
    1 + ((source.take element.span.start).reverse.takeWhile (· != '\n')).length

/-- An element begins with `<` and its tag, and ends with `>`. -/
theorem Element.Layout.ends {element : Element} {own : Text} (h : element.Layout own) :
    '<' :: element.tag <+: own ∧ ['>'] <:+ own := by
  obtain ⟨tag, attributes, children, selfClosing, closing, span⟩ := element
  unfold Element.Layout at h
  obtain ⟨inside, -, h⟩ := h
  split at h
  · obtain ⟨-, -, rfl⟩ := h
    exact ⟨⟨inside ++ ['/', '>'], by simp⟩, ⟨'<' :: tag ++ inside ++ ['/'], by simp⟩⟩
  · obtain ⟨-, content, before, behind, -, -, -, rfl⟩ := h
    refine ⟨⟨inside ++ '>' :: content ++ '<' :: '/' :: before ++ tag ++ behind ++ ['>'], ?_⟩,
      List.suffix_append _ _⟩
    simp

/-- The span of an element covers what stands between its cursors. -/
theorem Element.Between.span_eq {element : Element} {before own : Text} {cursor behind : Cursor}
    (h : element.Between cursor behind) (hplace : cursor.place = Place.origin.after before)
    (hown : cursor.rest = own ++ behind.rest) :
    element.span.start = before.length ∧ element.span.stop = before.length + own.length ∧
      element.span.text (before ++ (own ++ behind.rest)) = own := by
  have hstart : element.span.start = before.length := by
    rw [h.span, Cursor.spanFrom, hplace, Place.after_offset]
    exact Nat.zero_add _
  have hstop : element.span.stop = before.length + own.length := by
    rw [← hstart, h.span, Cursor.spanFrom, h.reaches.place_eq hown, Place.after_offset]
  refine ⟨hstart, hstop, ?_⟩
  rw [Span.text, hstart, hstop, List.drop_left, Nat.add_sub_cancel_left, List.take_left]

theorem Element.Between.placedIn {element : Element} {source : Text} {cursor behind : Cursor}
    (h : element.Between cursor behind) (hsource : (Cursor.ofText source).Reaches cursor) :
    element.PlacedIn source := by
  obtain ⟨before, hbefore, hplace⟩ := hsource
  obtain ⟨own, hspelled, hown⟩ := h.spelled
  have hsource : source = before ++ (own ++ behind.rest) := by rw [← hown]; exact hbefore
  obtain ⟨hstart, hstop, htext⟩ := h.span_eq hplace hown
  rw [← hsource] at htext
  have htake : source.take element.span.start = before := by
    rw [hsource, hstart, List.take_left]
  have hends := hspelled.layout.ends
  have hpos : 0 < own.length := Nat.lt_of_lt_of_le (Nat.succ_pos _) hends.1.length_le
  refine ⟨by omega, ?_, ?_, ?_, ?_, ?_, ?_⟩
  · rw [hstop, hsource, List.length_append, List.length_append]
    omega
  · rw [htext]
    exact hends.1
  · rw [htext]
    exact hends.2
  · rw [htext]
    exact hspelled.layout.unspaced
  · rw [htake, h.span, Cursor.spanFrom, hplace, Place.after_line]
    rfl
  · rw [htake, h.span, Cursor.spanFrom, hplace]
    exact Place.origin_after_column before

/-- Every element of a source, at any depth, is placed by its span: the span covers the element and
nothing else, and counts its line and column from the start of the source. Elements inside another
one lie strictly inside its span, and all others lie one behind the other. -/
theorem placed_of_parse {source : Text} {expression : Expression}
    (h : parse source = .ok expression) :
    (∀ element ∈ expression.elements, element.PlacedIn source ∧
      ∀ inner ∈ element.inside,
        element.span.start < inner.span.start ∧ inner.span.stop < element.span.stop) ∧
    expression.elements.Pairwise fun a b => b ∈ a.inside ∨ a.span.stop ≤ b.span.start := by
  obtain ⟨behind, hsited⟩ := sited_of_parse h
  refine ⟨?_, hsited.ordered⟩
  intro element hmem
  obtain ⟨first, last, hfirst, hbetween, -⟩ := hsited.between element hmem
  exact ⟨hbetween.placedIn hfirst, hsited.nested element hmem⟩

/-- A call over two lines, with one element in a hole and one as a child. -/
theorem placed_of_parse_two_lines :
    ∃ expression : Expression,
      parse "f ( <a b=\x7b<i/>\x7d >\n  <c/></a> )".toList = .ok expression ∧
      expression.elements.map Element.span =
        [⟨4, 28, 1, 5⟩, ⟨10, 14, 1, 11⟩, ⟨20, 24, 2, 3⟩] ∧
      (∀ element ∈ expression.elements,
        element.PlacedIn "f ( <a b=\x7b<i/>\x7d >\n  <c/></a> )".toList) ∧
      expression.elements.Pairwise fun a b => b ∈ a.inside ∨ a.span.stop ≤ b.span.start := by
  have hspans : (parse "f ( <a b=\x7b<i/>\x7d >\n  <c/></a> )".toList).toOption.map
      (fun expression => expression.elements.map Element.span) =
        some [⟨4, 28, 1, 5⟩, ⟨10, 14, 1, 11⟩, ⟨20, 24, 2, 3⟩] := by
    decide +kernel
  cases h : parse "f ( <a b=\x7b<i/>\x7d >\n  <c/></a> )".toList with
  | error error => rw [h] at hspans; cases hspans
  | ok expression =>
    rw [h] at hspans
    obtain ⟨hplaced, hordered⟩ := placed_of_parse h
    exact ⟨expression, rfl, Option.some.inj hspans, fun element hmem => (hplaced element hmem).1,
      hordered⟩

end JsxTemplate
