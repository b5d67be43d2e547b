import JsxTemplate.Reader.Progress
import JsxTemplate.Proofs.Characters
import JsxTemplate.Proofs.Spelling
import JsxTemplate.Proofs.Steps

/-
  Reading without fuel: what each kind of stretch reads as, for every amount of fuel that
  suffices. The rules below are the branches of the reader, one each, for a reading that succeeds.
-/

namespace JsxTemplate.Reader

def CodeReads (close : Option Char) (depth : Nat) (draft : Draft) (cursor : Cursor)
    (result : Draft × Cursor) : Prop :=
  ∀ start fuel, 2 * cursor.rest.length + 1 ≤ fuel →
    code fuel close start depth draft cursor = .ok result

def TemplateReads (draft : Draft) (cursor : Cursor) (result : Draft × Cursor) : Prop :=
  ∀ start fuel, 2 * cursor.rest.length + 1 ≤ fuel →
    template fuel start draft cursor = .ok result

def ElementReads (cursor : Cursor) (found : Element) (behind : Cursor) : Prop :=
  ∀ fuel, 2 * cursor.rest.length ≤ fuel → element fuel cursor = .ok (found, behind)

def HoleReads (cursor : Cursor) (nodes : Expression) (behind : Cursor) : Prop :=
  ∀ fuel, 2 * cursor.rest.length ≤ fuel → hole fuel cursor = .ok (nodes, behind)

variable {close : Option Char} {depth : Nat} {draft draft' : Draft} {cursor behind cursor' : Cursor}
  {result : Draft × Cursor} {c : Char} {rest : Text}

theorem TemplateReads.length_le (h : TemplateReads draft cursor result) :
    result.2.rest.length ≤ cursor.rest.length := by
  have hleaves := (enough (2 * cursor.rest.length + 1)).template .origin draft cursor
    (Nat.le_refl _)
  rw [h .origin _ (Nat.le_refl _)] at hleaves
  exact hleaves

theorem CodeReads.length_le (h : CodeReads close depth draft cursor result) :
    result.2.rest.length ≤ cursor.rest.length := by
  have hleaves := (enough (2 * cursor.rest.length + 1)).code close .origin depth draft cursor
    (Nat.le_refl _)
  rw [h .origin _ (Nat.le_refl _)] at hleaves
  exact hleaves

theorem ElementReads.length_lt {found : Element} (hne : cursor.rest ≠ [])
    (h : ElementReads cursor found behind) : behind.rest.length < cursor.rest.length := by
  have hleaves := (enough (2 * cursor.rest.length)).element cursor hne (Nat.le_refl _)
  rw [h _ (Nat.le_refl _)] at hleaves
  have hpos := List.length_pos_iff.2 hne
  have hle : behind.rest.length ≤ cursor.rest.length - 1 := hleaves
  omega

theorem bind_of_eq_ok {α β : Type} {x : Except Stop α} {f : α → Except Stop β} {a : α}
    (h : x = .ok a) : x >>= f = f a := by
  rw [h]
  rfl

/-! ## Code -/

/-- The source ends. -/
theorem CodeReads.ends (hr : cursor.rest = []) :
    CodeReads none depth draft cursor (draft, cursor) := by
  intro start fuel hf
  obtain ⟨fuel, rfl⟩ : ∃ n, fuel = n + 1 := ⟨fuel - 1, by omega⟩
  rw [code, hr]

/-- The closing bracket of the code. -/
theorem CodeReads.stops (hr : cursor.rest = c :: rest) (hc : isCloser c = true) :
    CodeReads (some c) 0 draft cursor (draft, cursor) := by
  intro start fuel hf
  obtain ⟨fuel, rfl⟩ : ∃ n, fuel = n + 1 := ⟨fuel - 1, by omega⟩
  rw [code, hr]
  simp [Lexer.not_isOpener_of_isCloser hc, hc]

/-- How a character changes the number of open brackets. -/
def depthAfter (depth : Nat) (c : Char) : Nat :=
  if isOpener c then depth + 1 else if isCloser c then depth - 1 else depth

/-- A character of code that begins nothing. -/
theorem CodeReads.plain (hr : cursor.rest = c :: rest) (hquote : c ≠ '\'' ∧ c ≠ '"')
    (htick : c ≠ '\x60') (hslash : c = '/' → rest.head? ≠ some '/' ∧ rest.head? ≠ some '*')
    (hlt : c = '<' → opensElement draft cursor = false)
    (hstop : isCloser c = true → ¬ (depth = 0 ∧ close = some c))
    (h : CodeReads close (depthAfter depth c) (draft.push c) cursor.next result) :
    CodeReads close depth draft cursor result := by
  intro start fuel hf
  obtain ⟨fuel, rfl⟩ : ∃ n, fuel = n + 1 := ⟨fuel - 1, by omega⟩
  have hlen := Cursor.length_next_of_rest hr
  have hgo := h start fuel (by omega)
  unfold code
  rw [hr]
  rw [depthAfter] at hgo
  dsimp only
  have hline : ¬ ((c == '/' && cursor.peekNext == '/') = true) := by
    simp only [Bool.and_eq_true, beq_iff_eq, not_and]
    intro hc hnext
    exact (hslash hc).1 ((peekNext_eq_iff hr (by decide)).1 hnext)
  have hblock : ¬ ((c == '/' && cursor.peekNext == '*') = true) := by
    simp only [Bool.and_eq_true, beq_iff_eq, not_and]
    intro hc hnext
    exact (hslash hc).2 ((peekNext_eq_iff hr (by decide)).1 hnext)
  have hmarkup : ¬ ((c == '<' && opensElement draft cursor) = true) := by
    simp only [Bool.and_eq_true, beq_iff_eq, not_and, Bool.not_eq_true]
    exact hlt
  split
  next ho =>
    rw [if_pos ho] at hgo
    exact hgo
  next ho =>
    rw [if_neg ho] at hgo
    split
    next hc =>
      rw [if_pos hc] at hgo
      rw [if_neg (by simpa using hstop hc)]
      exact hgo
    next hc =>
      rw [if_neg hc] at hgo
      have hquote : ¬ ((c == '\'' || c == '"') = true) := by simpa using hquote
      have htick : ¬ ((c == '\x60') = true) := by simpa using htick
      rw [if_neg hquote, if_neg htick]
      exact hgo

theorem CodeReads.string (hr : cursor.rest = c :: rest) (hquote : c = '\'' ∨ c = '"')
    {body : Text} (hbody : stringBody c rest = some body)
    (h : CodeReads close depth (draft.pushAll (c :: body)) (cursor.past (c :: body)) result) :
    CodeReads close depth draft cursor result := by
  intro start fuel hf
  obtain ⟨fuel, rfl⟩ : ∃ n, fuel = n + 1 := ⟨fuel - 1, by omega⟩
  have hlen := Cursor.length_past_cons_lt cursor c body (by simp [hr])
  have hgo := h start fuel (by omega)
  unfold code
  rw [hr]
  rcases hquote with rfl | rfl <;> simpa [isOpener, isCloser, hbody] using hgo

theorem CodeReads.template (hr : cursor.rest = '\x60' :: rest)
    (ht : TemplateReads (draft.push '\x60') cursor.next (draft', cursor'))
    (h : CodeReads close depth draft' cursor' result) :
    CodeReads close depth draft cursor result := by
  intro start fuel hf
  obtain ⟨fuel, rfl⟩ : ∃ n, fuel = n + 1 := ⟨fuel - 1, by omega⟩
  have hlen := Cursor.length_next_of_rest hr
  have hle : cursor'.rest.length ≤ cursor.next.rest.length := ht.length_le
  have hgo := h start fuel (by omega)
  have htemplate := ht cursor.place fuel (by omega)
  unfold code
  rw [hr]
  simp only [isOpener, isCloser, htemplate]
  exact hgo

theorem CodeReads.lineComment (hr : cursor.rest = '/' :: '/' :: rest)
    (h : CodeReads close depth (draft.pushAll (cursor.ahead (· != '\n')))
      (cursor.past (cursor.ahead (· != '\n'))) result) :
    CodeReads close depth draft cursor result := by
  intro start fuel hf
  obtain ⟨fuel, rfl⟩ : ∃ n, fuel = n + 1 := ⟨fuel - 1, by omega⟩
  have hlen : (cursor.past (cursor.ahead (· != '\n'))).rest.length < cursor.rest.length :=
    Cursor.length_past_ahead_lt hr (by decide)
  have hgo := h start fuel (by omega)
  have hnext : cursor.peekNext = '/' := (peekNext_eq_iff hr (by decide)).2 rfl
  unfold code
  rw [hr]
  simpa [isOpener, isCloser, hnext] using hgo

theorem CodeReads.blockComment (hr : cursor.rest = '/' :: '*' :: rest) {body : Text}
    (hbody : commentBody rest = some body)
    (h : CodeReads close depth (draft.pushAll ('/' :: '*' :: body))
      (cursor.past ('/' :: '*' :: body)) result) :
    CodeReads close depth draft cursor result := by
  intro start fuel hf
  obtain ⟨fuel, rfl⟩ : ∃ n, fuel = n + 1 := ⟨fuel - 1, by omega⟩
  have hlen := Cursor.length_past_cons_lt cursor '/' ('*' :: body) (by simp [hr])
  have hgo := h start fuel (by omega)
  have hnext : cursor.peekNext = '*' := (peekNext_eq_iff hr (by decide)).2 rfl
  unfold code
  rw [hr]
  simpa [isOpener, isCloser, hnext, hbody] using hgo

theorem CodeReads.markup (hr : cursor.rest = '<' :: rest)
    (hopens : opensElement draft cursor = true) {found : Element}
    (he : ElementReads cursor found behind) (hnone : callee? draft behind = none)
    (h : CodeReads close depth (draft.add (.markup found)) behind result) :
    CodeReads close depth draft cursor result := by
  intro start fuel hf
  obtain ⟨fuel, rfl⟩ : ∃ n, fuel = n + 1 := ⟨fuel - 1, by omega⟩
  have hlen := he.length_lt (by simp [hr])
  have hgo := h start fuel (by omega)
  have helement := he fuel (by omega)
  unfold code
  rw [hr]
  simp only [isOpener, isCloser, hopens]
  apply (bind_of_eq_ok helement).trans
  simpa only [hnone] using hgo

theorem CodeReads.call (hr : cursor.rest = '<' :: rest)
    (hopens : opensElement draft cursor = true) {found : Element}
    (he : ElementReads cursor found behind) {callee : Callee}
    (hsome : callee? draft behind = some callee)
    (h : CodeReads close (depth - 1)
      ({ draft with pending := callee.before }.add (.call callee.text found))
      behind.skipBlanks.next result) :
    CodeReads close depth draft cursor result := by
  intro start fuel hf
  obtain ⟨fuel, rfl⟩ : ∃ n, fuel = n + 1 := ⟨fuel - 1, by omega⟩
  have hlen := he.length_lt (by simp [hr])
  have hskip := Cursor.length_skipBlanks_le behind
  have hnext := Cursor.length_next_le behind.skipBlanks
  have hgo := h start fuel (by omega)
  have helement := he fuel (by omega)
  unfold code
  rw [hr]
  simp only [isOpener, isCloser, hopens]
  apply (bind_of_eq_ok helement).trans
  simpa only [hsome] using hgo

/-! ## Template literals -/

theorem TemplateReads.ends (hr : cursor.rest = '\x60' :: rest) :
    TemplateReads draft cursor (draft.push '\x60', cursor.next) := by
  intro start fuel hf
  obtain ⟨fuel, rfl⟩ : ∃ n, fuel = n + 1 := ⟨fuel - 1, by omega⟩
  rw [Reader.template, hr]
  simp

theorem TemplateReads.guarded (hr : cursor.rest = '\\' :: c :: rest)
    (h : TemplateReads ((draft.push '\\').push c) cursor.next.next result) :
    TemplateReads draft cursor result := by
  intro start fuel hf
  obtain ⟨fuel, rfl⟩ : ∃ n, fuel = n + 1 := ⟨fuel - 1, by omega⟩
  have hr' : cursor.next.rest = c :: rest := Cursor.rest_next hr
  have hlen := Cursor.length_next_of_rest hr
  have hlen' := Cursor.length_next_of_rest hr'
  have hgo := h start fuel (by omega)
  rw [Cursor.next_eq_past hr', ← Cursor.past_cons hr] at hgo
  rw [Reader.template, hr]
  exact hgo

theorem TemplateReads.plain (hr : cursor.rest = c :: rest) (hguard : c ≠ '\\') (htick : c ≠ '\x60')
    (hhole : c = '$' → rest.head? ≠ some '{')
    (h : TemplateReads (draft.push c) cursor.next result) :
    TemplateReads draft cursor result := by
  intro start fuel hf
  obtain ⟨fuel, rfl⟩ : ∃ n, fuel = n + 1 := ⟨fuel - 1, by omega⟩
  have hlen := Cursor.length_next_of_rest hr
  have hgo := h start fuel (by omega)
  have hhole : ¬ ((c == '$' && cursor.peekNext == '{') = true) := by
    simp only [Bool.and_eq_true, beq_iff_eq, not_and]
    intro hc hnext
    exact hhole hc ((peekNext_eq_iff hr (by decide)).1 hnext)
  have hguard : ¬ ((c == '\\') = true) := by simpa using hguard
  have htick : ¬ ((c == '\x60') = true) := by simpa using htick
  rw [Reader.template, hr]
  dsimp only
  rw [if_neg hguard, if_neg htick, if_neg hhole]
  exact hgo

theorem TemplateReads.hole (hr : cursor.rest = '$' :: '{' :: rest)
    (hcode : CodeReads (some '}') 0 ((draft.push '$').push '{') cursor.next.next (draft', cursor'))
    {rest' : Text} (hr' : cursor'.rest = '}' :: rest')
    (h : TemplateReads (draft'.push '}') cursor'.next result) :
    TemplateReads draft cursor result := by
  intro start fuel hf
  obtain ⟨fuel, rfl⟩ : ∃ n, fuel = n + 1 := ⟨fuel - 1, by omega⟩
  have hr₁ : cursor.next.rest = '{' :: rest := Cursor.rest_next hr
  have hlen := Cursor.length_next_of_rest hr
  have hlen₁ := Cursor.length_next_of_rest hr₁
  have hle : cursor'.rest.length ≤ cursor.next.next.rest.length := hcode.length_le
  have hlen' := Cursor.length_next_of_rest hr'
  have hgo := h start fuel (by omega)
  have hnext : cursor.peekNext = '{' := (peekNext_eq_iff hr (by decide)).2 rfl
  have hinner := hcode cursor.next.next.place fuel (by omega)
  rw [Cursor.next_eq_past hr₁, ← Cursor.past_cons hr] at hinner
  have hexpect : expect cursor' '}' "to close template literal hole".toList = .ok cursor'.next :=
    expect_of_rest hr' _
  rw [Reader.template, hr]
  dsimp only
  rw [if_neg (by decide), if_neg (by decide), if_pos (by simp [hnext])]
  exact (bind_of_eq_ok hinner).trans ((bind_of_eq_ok hexpect).trans hgo)

/-! ## Markup -/

def AttributesReads (tag : Text) (found : List Attribute) (cursor : Cursor) (all : List Attribute)
    (selfClosing : Bool) (behind : Cursor) : Prop :=
  ∀ start fuel, 2 * cursor.rest.length + 1 ≤ fuel →
    attributes fuel tag start found cursor = .ok (all, selfClosing, behind)

def OneReads (cursor : Cursor) (a : Attribute) (behind : Cursor) : Prop :=
  ∀ fuel, 2 * cursor.rest.length ≤ fuel → oneAttribute fuel cursor = .ok (a, behind)

def ChildrenReads (tag : Text) (found : List Child) (cursor : Cursor) (all : List Child)
    (behind : Cursor) : Prop :=
  ∀ start fuel, 2 * cursor.rest.length + 1 ≤ fuel →
    children fuel tag start found cursor = .ok (all, behind)

theorem ahead_eq {p : Char → Bool} {taken : Text} (hr : cursor.rest = taken ++ rest)
    (hp : ∀ c ∈ taken, p c = true) (hrest : ∀ c ∈ rest.head?, p c = false) :
    cursor.ahead p = taken := by
  rw [Cursor.ahead, hr, List.takeWhile_append_of_pos hp]
  cases rest with
  | nil => simp
  | cons c rest => simp [hrest c rfl]

theorem skipBlanks_eq {blanks : Text} (hr : cursor.rest = blanks ++ rest) (hb : blanks.isBlank)
    (hrest : ∀ c ∈ rest.head?, isBlank c = false) : cursor.skipBlanks = cursor.past blanks := by
  rw [Cursor.skipBlanks, ahead_eq hr (by simpa [Text.isBlank] using hb) hrest]

/-- An element behind its `<` and its tag. -/
theorem element_eq {tag : Text} (hr : cursor.rest = '<' :: tag ++ rest) (hne : tag ≠ [])
    (htag : ∀ c ∈ tag, isTagChar c = true) (hrest : ∀ c ∈ rest.head?, isTagChar c = false)
    (fuel : Nat) :
    element (fuel + 1) cursor = (do
      let (attributes, selfClosing, inner) ←
        attributes fuel tag cursor.place [] (cursor.past ('<' :: tag))
      if selfClosing then
        .ok (⟨tag, attributes, [], true, none, inner.spanFrom cursor.place⟩, inner)
      else
        let (children, behind) ← children fuel tag cursor.place [] inner
        .ok (⟨tag, attributes, children, false, some tag, behind.spanFrom cursor.place⟩,
          behind)) := by
  have hnext : cursor.next.rest = tag ++ rest := Cursor.rest_next hr
  have hahead : cursor.next.ahead isTagChar = tag := ahead_eq hnext htag hrest
  have hpeek : ¬ ((cursor.next.peek == '>') = true) := by
    cases tag with
    | nil => exact absurd rfl hne
    | cons c tag =>
      have hc : c ≠ '>' := by
        rintro rfl
        exact absurd (htag '>' (by simp)) (by decide)
      simpa [Cursor.peek, Cursor.peekAt, hnext] using hc
  rw [element]
  apply (bind_of_eq_ok (expect_of_rest hr _)).trans
  rw [if_neg hpeek]
  dsimp only
  rw [hahead, if_neg (by simpa using hne), ← Cursor.past_cons hr]

/-- An element that closes itself. -/
theorem ElementReads.selfClosing {tag : Text} (hr : cursor.rest = '<' :: tag ++ rest)
    (hne : tag ≠ []) (htag : ∀ c ∈ tag, isTagChar c = true)
    (hrest : ∀ c ∈ rest.head?, isTagChar c = false) {all : List Attribute}
    (h : AttributesReads tag [] (cursor.past ('<' :: tag)) all true behind) :
    ElementReads cursor ⟨tag, all, [], true, none, behind.spanFrom cursor.place⟩ behind := by
  intro fuel hf
  have hlen : cursor.rest.length = 1 + tag.length + rest.length := by
    rw [hr]; simp; omega
  have hpast : (cursor.past ('<' :: tag)).rest = rest := Cursor.rest_past hr
  have hpos := List.length_pos_iff.2 hne
  obtain ⟨fuel, rfl⟩ : ∃ n, fuel = n + 1 := ⟨fuel - 1, by omega⟩
  rw [element_eq hr hne htag hrest]
  refine (bind_of_eq_ok (h cursor.place fuel ?_)).trans ?_
  · rw [hpast]; omega
  · rfl

/-- An element with a closing tag. -/
theorem ElementReads.closed {tag : Text} (hr : cursor.rest = '<' :: tag ++ rest)
    (hne : tag ≠ []) (htag : ∀ c ∈ tag, isTagChar c = true)
    (hrest : ∀ c ∈ rest.head?, isTagChar c = false) {all : List Attribute} {inner : Cursor}
    (h : AttributesReads tag [] (cursor.past ('<' :: tag)) all false inner)
    (hinner : inner.rest.length ≤ rest.length) {kids : List Child}
    (hkids : ChildrenReads tag [] inner kids behind) :
    ElementReads cursor ⟨tag, all, kids, false, some tag, behind.spanFrom cursor.place⟩ behind := by
  intro fuel hf
  have hlen : cursor.rest.length = 1 + tag.length + rest.length := by
    rw [hr]; simp; omega
  have hpast : (cursor.past ('<' :: tag)).rest = rest := Cursor.rest_past hr
  have hpos := List.length_pos_iff.2 hne
  obtain ⟨fuel, rfl⟩ : ∃ n, fuel = n + 1 := ⟨fuel - 1, by omega⟩
  rw [element_eq hr hne htag hrest]
  refine (bind_of_eq_ok (h cursor.place fuel ?_)).trans ?_
  · rw [hpast]; omega
  · exact bind_of_eq_ok (hkids cursor.place fuel (by omega))

/-- The end of a tag that closes itself. -/
theorem AttributesReads.closes {tag : Text} {found : List Attribute}
    (hr : cursor.skipBlanks.rest = '/' :: '>' :: rest) :
    AttributesReads tag found cursor found.reverse true (cursor.skipBlanks.past ['/', '>']) := by
  intro start fuel hf
  obtain ⟨fuel, rfl⟩ : ∃ n, fuel = n + 1 := ⟨fuel - 1, by omega⟩
  have hnext : cursor.skipBlanks.next.rest = '>' :: rest := Cursor.rest_next hr
  rw [attributes]
  dsimp only
  rw [hr]
  apply (bind_of_eq_ok (expect_of_rest hnext _)).trans
  rw [Cursor.past_cons hr, Cursor.next_eq_past hnext]

/-- The end of a tag before children. -/
theorem AttributesReads.opens {tag : Text} {found : List Attribute}
    (hr : cursor.skipBlanks.rest = '>' :: rest) :
    AttributesReads tag found cursor found.reverse false (cursor.skipBlanks.past ['>']) := by
  intro start fuel hf
  obtain ⟨fuel, rfl⟩ : ∃ n, fuel = n + 1 := ⟨fuel - 1, by omega⟩
  rw [attributes]
  dsimp only
  rw [hr, ← Cursor.next_eq_past hr]
  rfl

theorem ne_of_isAttributeStart (h : isAttributeStart c = true) : c ≠ '/' ∧ c ≠ '>' ∧ c ≠ '{' := by
  refine ⟨?_, ?_, ?_⟩ <;> rintro rfl <;> exact absurd h (by decide)

theorem AttributesReads.one {tag : Text} {found all : List Attribute} {selfClosing : Bool}
    {a : Attribute} {after : Cursor} (hr : cursor.skipBlanks.rest = c :: rest)
    (hc : isAttributeStart c = true) (ha : OneReads cursor.skipBlanks a after)
    (h : AttributesReads tag (a :: found) after all selfClosing behind) :
    AttributesReads tag found cursor all selfClosing behind := by
  intro start fuel hf
  obtain ⟨fuel, rfl⟩ : ∃ n, fuel = n + 1 := ⟨fuel - 1, by omega⟩
  have hskip := Cursor.length_skipBlanks_le cursor
  have hpos : 0 < cursor.skipBlanks.rest.length := by rw [hr]; simp
  have hone := ha fuel (by omega)
  have hless : after.rest.length ≤ cursor.skipBlanks.rest.length - 1 := by
    have hleaves := (enough fuel).oneAttribute cursor.skipBlanks c rest hr hc (by omega)
    rw [hone] at hleaves
    exact hleaves
  obtain ⟨hslash, hgt, hbrace⟩ := ne_of_isAttributeStart hc
  rw [attributes]
  dsimp only
  rw [hr]
  dsimp only
  rw [if_neg (by simpa using hslash), if_neg (by simpa using hgt), if_neg (by simpa using hbrace),
    if_pos hc]
  exact (bind_of_eq_ok hone).trans (h start fuel (by omega))

theorem skipBlanks_skipBlanks (cursor : Cursor) :
    cursor.skipBlanks.skipBlanks = cursor.skipBlanks := by
  have hnone : ∀ c ∈ cursor.skipBlanks.rest.head?, isBlank c = false :=
    fun c hc => Cursor.not_of_head?_past_ahead hc
  rw [skipBlanks_eq (List.nil_append _).symm rfl hnone, Cursor.past_nil]

/-- A name without a value. The blanks behind it are read with it. -/
theorem OneReads.bare {name : Text} (hr : cursor.rest = name ++ rest) (hname : IsAttributeName name)
    (hrest : ∀ c ∈ rest.head?, isAttributeChar c = false)
    (hbehind : (cursor.past name).skipBlanks.rest.head? ≠ some '=') :
    OneReads cursor (.bare name) (cursor.past name).skipBlanks := by
  intro fuel hf
  have hpos : 0 < cursor.rest.length := by
    obtain ⟨⟨c, tail, rfl, -⟩, -⟩ := hname
    rw [hr]
    simp
  obtain ⟨fuel, rfl⟩ : ∃ n, fuel = n + 1 := ⟨fuel - 1, by omega⟩
  have heat : (cursor.past name).skipBlanks.eat '=' = none := by
    rw [Option.eq_none_iff_forall_ne_some]
    intro after heat
    obtain ⟨tail, htail, -⟩ := Cursor.eat_eq_some_iff.1 heat
    exact hbehind (by rw [htail]; rfl)
  rw [oneAttribute]
  dsimp only
  rw [ahead_eq hr hname.2 hrest, heat]

/-- An attribute up to its value. -/
theorem oneAttribute_eq {name before behind : Text}
    (hr : cursor.rest = name ++ before ++ '=' :: behind ++ rest) (hname : IsAttributeName name)
    (hbefore : before.isBlank) (hbehind : behind.isBlank) (hc : rest.head? = some c)
    (hblank : isBlank c = false) (fuel : Nat) :
    oneAttribute (fuel + 1) cursor =
      if c == '"' || c == '\'' then
        match quotedBody c rest.tail with
        | none => faultAt (cursor.past (name ++ before ++ '=' :: behind)).place
          (.unterminatedValue name)
        | some body =>
          .ok (.literal name (c :: body), (cursor.past (name ++ before ++ '=' :: behind)).past
            (c :: body))
      else if c == '{' then do
        let (nodes, after) ← hole fuel (cursor.past (name ++ before ++ '=' :: behind))
        .ok (.hole name nodes, after)
      else faultAt (cursor.past (name ++ before ++ '=' :: behind)).place (.missingValue name) := by
  obtain ⟨tail, rfl⟩ := List.head?_eq_some_iff.1 hc
  have hr₀ : cursor.rest = name ++ (before ++ '=' :: (behind ++ c :: tail)) := by rw [hr]; simp
  have hr₁ : (cursor.past name).rest = before ++ '=' :: (behind ++ c :: tail) :=
    Cursor.rest_past hr₀
  have hr₂ : ((cursor.past name).past before).rest = '=' :: (behind ++ c :: tail) :=
    Cursor.rest_past hr₁
  have hr₃ : ((cursor.past name).past before).next.rest = behind ++ c :: tail :=
    Cursor.rest_next hr₂
  have hend : ∀ d ∈ (before ++ '=' :: (behind ++ c :: tail)).head?, isAttributeChar d = false :=
    not_of_head?_blanks (fun _ => not_isBlank_of_isAttributeChar) hbefore (by simp; decide)
  have hskip : (cursor.past name).skipBlanks = (cursor.past name).past before :=
    skipBlanks_eq hr₁ hbefore (by simp; decide)
  have heat : ((cursor.past name).past before).eat '=' =
      some ((cursor.past name).past before).next :=
    Cursor.eat_eq_some_iff.2 ⟨_, hr₂, Cursor.next_of_rest hr₂⟩
  have hskip' : ((cursor.past name).past before).next.skipBlanks =
      cursor.past (name ++ before ++ '=' :: behind) := by
    rw [skipBlanks_eq hr₃ hbehind (by simpa using hblank), ← Cursor.past_cons hr₂,
      ← Cursor.past_append, ← Cursor.past_append]
    simp
  have hr₄ : (cursor.past (name ++ before ++ '=' :: behind)).rest = c :: tail := Cursor.rest_past hr
  rw [oneAttribute]
  dsimp only
  rw [ahead_eq hr₀ hname.2 hend, hskip, heat]
  dsimp only
  rw [hskip', hr₄]
  rfl

theorem OneReads.literal {name before behind raw : Text}
    (hr : cursor.rest = name ++ before ++ '=' :: behind ++ raw ++ rest)
    (hname : IsAttributeName name) (hbefore : before.isBlank) (hbehind : behind.isBlank)
    (hraw : IsQuoted raw) :
    OneReads cursor (.literal name raw) (cursor.past (name ++ before ++ '=' :: behind ++ raw)) := by
  intro fuel hf
  obtain ⟨quote, body, hquote, hbody, rfl⟩ := hraw
  have hpos : 0 < cursor.rest.length := by
    rw [hr]
    simp only [List.length_append, List.length_cons]
    omega
  obtain ⟨fuel, rfl⟩ : ∃ n, fuel = n + 1 := ⟨fuel - 1, by omega⟩
  have hr' : cursor.rest =
      name ++ before ++ '=' :: behind ++ (quote :: (body ++ [quote]) ++ rest) := by
    rw [hr]; simp
  have hblank : isBlank quote = false := by rcases hquote with rfl | rfl <;> decide
  have hquoted : quotedBody quote (body ++ [quote] ++ rest) = some (body ++ [quote]) :=
    quotedBody_eq_some_iff.2 ⟨body, rest, rfl, hbody, rfl⟩
  rw [oneAttribute_eq hr' hname hbefore hbehind rfl hblank, if_pos (by simpa using hquote)]
  show (match quotedBody quote (body ++ [quote] ++ rest) with
    | none => _
    | some body => _) = _
  rw [hquoted, Cursor.past_append _ (name ++ before ++ '=' :: behind)]
  rfl

theorem OneReads.hole {name before behind : Text}
    (hr : cursor.rest = name ++ before ++ '=' :: behind ++ '{' :: rest)
    (hname : IsAttributeName name) (hbefore : before.isBlank) (hbehind : behind.isBlank)
    {nodes : Expression} {after : Cursor}
    (h : HoleReads (cursor.past (name ++ before ++ '=' :: behind)) nodes after) :
    OneReads cursor (.hole name nodes) after := by
  intro fuel hf
  have hpast : (cursor.past (name ++ before ++ '=' :: behind)).rest = '{' :: rest :=
    Cursor.rest_past hr
  have hlen : (cursor.past (name ++ before ++ '=' :: behind)).rest.length < cursor.rest.length := by
    rw [hpast, hr]
    simp
    omega
  obtain ⟨fuel, rfl⟩ : ∃ n, fuel = n + 1 := ⟨fuel - 1, by omega⟩
  rw [oneAttribute_eq hr hname hbefore hbehind rfl (by decide)]
  exact bind_of_eq_ok (h fuel (by omega))

/-- A hole, once its code is read. -/
theorem HoleReads.of_code (hr : cursor.rest = '{' :: rest)
    (h : CodeReads (some '}') 0 .empty cursor.next (draft', cursor')) {rest' : Text}
    (hr' : cursor'.rest = '}' :: rest') : HoleReads cursor draft'.finish cursor'.next := by
  intro fuel hf
  have hlen := Cursor.length_next_of_rest hr
  obtain ⟨fuel, rfl⟩ : ∃ n, fuel = n + 1 := ⟨fuel - 1, by omega⟩
  rw [Reader.hole]
  apply (bind_of_eq_ok (expect_of_rest hr _)).trans
  apply (bind_of_eq_ok (h cursor.next.place fuel (by omega))).trans
  exact bind_of_eq_ok (expect_of_rest hr' _)

/-- The closing tag. -/
theorem ChildrenReads.closes {tag before behind : Text} {found : List Child}
    (hr : cursor.rest = '<' :: '/' :: before ++ tag ++ behind ++ '>' :: rest)
    (hne : tag ≠ []) (htag : ∀ c ∈ tag, isTagChar c = true) (hbefore : before.isBlank)
    (hbehind : behind.isBlank) :
    ChildrenReads tag found cursor found.reverse
      (cursor.past ('<' :: '/' :: before ++ tag ++ behind ++ ['>'])) := by
  intro start fuel hf
  obtain ⟨fuel, rfl⟩ : ∃ n, fuel = n + 1 := ⟨fuel - 1, by omega⟩
  have hr₀ : cursor.rest = '<' :: '/' :: (before ++ (tag ++ (behind ++ '>' :: rest))) := by
    rw [hr]; simp
  have hr₁ : cursor.next.rest = '/' :: (before ++ (tag ++ (behind ++ '>' :: rest))) :=
    Cursor.rest_next hr₀
  have hr₂ : cursor.next.next.rest = before ++ (tag ++ (behind ++ '>' :: rest)) :=
    Cursor.rest_next hr₁
  have hr₃ : (cursor.next.next.past before).rest = tag ++ (behind ++ '>' :: rest) :=
    Cursor.rest_past hr₂
  have hr₄ : ((cursor.next.next.past before).past tag).rest = behind ++ '>' :: rest :=
    Cursor.rest_past hr₃
  have hr₅ : (((cursor.next.next.past before).past tag).past behind).rest = '>' :: rest :=
    Cursor.rest_past hr₄
  have hhead : ∀ c ∈ (tag ++ (behind ++ '>' :: rest)).head?, isBlank c = false := by
    cases tag with
    | nil => exact absurd rfl hne
    | cons d tag =>
      intro c hc
      obtain rfl : d = c := by simpa using hc
      exact not_isBlank_of_isTagChar (htag d (by simp))
  have hend : ∀ c ∈ (behind ++ '>' :: rest).head?, isTagChar c = false :=
    not_of_head?_blanks (fun _ => not_isBlank_of_isTagChar) hbehind (by simp; decide)
  have hskip : cursor.next.next.skipBlanks = cursor.next.next.past before :=
    skipBlanks_eq hr₂ hbefore hhead
  have hname : (cursor.next.next.past before).ahead isTagChar = tag := ahead_eq hr₃ htag hend
  have hskip' : ((cursor.next.next.past before).past tag).skipBlanks =
      ((cursor.next.next.past before).past tag).past behind :=
    skipBlanks_eq hr₄ hbehind (by simp; decide)
  have hpeek : cursor.peekNext = '/' := (peekNext_eq_iff hr₀ (by decide)).2 rfl
  have hpast : (((cursor.next.next.past before).past tag).past behind).next =
      cursor.past ('<' :: '/' :: before ++ tag ++ behind ++ ['>']) := by
    rw [Cursor.next_eq_past hr₅, ← Cursor.past_append, ← Cursor.past_append, ← Cursor.past_append,
      ← Cursor.past_cons hr₁, ← Cursor.past_cons hr₀]
    simp
  rw [Reader.children, hr₀]
  dsimp only
  rw [if_pos (by decide), if_pos (by simpa using hpeek), hskip, hname, hskip']
  apply (bind_of_eq_ok (expect_of_rest hr₅ _)).trans
  rw [if_pos (by simp), hpast]

/-- A child that is an element. -/
theorem ChildrenReads.element {tag : Text} {found all : List Child} (hr : cursor.rest = '<' :: rest)
    (hslash : rest.head? ≠ some '/') {child : Element} {after : Cursor}
    (hchild : ElementReads cursor child after)
    (h : ChildrenReads tag (.element child :: found) after all behind) :
    ChildrenReads tag found cursor all behind := by
  intro start fuel hf
  obtain ⟨fuel, rfl⟩ : ∃ n, fuel = n + 1 := ⟨fuel - 1, by omega⟩
  have hless := hchild.length_lt (by simp [hr])
  have hpeek : ¬ ((cursor.peekNext == '/') = true) := by
    intro hnext
    exact hslash ((peekNext_eq_iff hr (by decide)).1 (by simpa using hnext))
  rw [Reader.children, hr]
  dsimp only
  rw [if_pos (by decide), if_neg hpeek]
  exact (bind_of_eq_ok (hchild fuel (by omega))).trans (h start fuel (by omega))

/-- A child that is a hole. -/
theorem ChildrenReads.hole {tag : Text} {found all : List Child} (hr : cursor.rest = '{' :: rest)
    {nodes : Expression} {after : Cursor} (hhole : HoleReads cursor nodes after)
    (h : ChildrenReads tag (.hole nodes :: found) after all behind) :
    ChildrenReads tag found cursor all behind := by
  intro start fuel hf
  obtain ⟨fuel, rfl⟩ : ∃ n, fuel = n + 1 := ⟨fuel - 1, by omega⟩
  have hpos : 0 < cursor.rest.length := by rw [hr]; simp
  have hread := hhole fuel (by omega)
  have hless : after.rest.length ≤ cursor.rest.length - 1 := by
    have hleaves := (enough fuel).hole cursor (by simp [hr]) (by omega)
    rw [hread] at hleaves
    exact hleaves
  rw [Reader.children, hr]
  dsimp only
  rw [if_neg (by decide), if_pos (by decide)]
  exact (bind_of_eq_ok hread).trans (h start fuel (by omega))

/-- Text up to the next element or hole. -/
theorem ChildrenReads.text {tag own : Text} {found all : List Child}
    (hr : cursor.rest = own ++ rest) (hne : own ≠ []) (hown : ∀ c ∈ own, c ≠ '<' ∧ c ≠ '{')
    (hrest : ∀ c ∈ rest.head?, c = '<' ∨ c = '{')
    (h : ChildrenReads tag (.text own :: found) (cursor.past own) all behind) :
    ChildrenReads tag found cursor all behind := by
  intro start fuel hf
  obtain ⟨fuel, rfl⟩ : ∃ n, fuel = n + 1 := ⟨fuel - 1, by omega⟩
  have hahead : (cursor.ahead fun c => c != '<' && c != '{') = own := by
    apply ahead_eq hr (by simpa using hown)
    intro c hc
    rcases hrest c hc with rfl | rfl <;> rfl
  have hpast : (cursor.past own).rest = rest := Cursor.rest_past hr
  have hlen : cursor.rest.length = own.length + rest.length := by rw [hr, List.length_append]
  have hpos := List.length_pos_iff.2 hne
  cases own with
  | nil => exact absurd rfl hne
  | cons c own =>
    obtain ⟨hlt, hbrace⟩ := hown c (by simp)
    rw [Reader.children, hr]
    dsimp only [List.cons_append]
    rw [if_neg (by simpa using hlt), if_neg (by simpa using hbrace), hahead]
    exact h start fuel (by rw [hpast]; omega)

end JsxTemplate.Reader
