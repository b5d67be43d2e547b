import JsxTemplate.Proofs.Positions
import JsxTemplate.Proofs.Steps
import JsxTemplate.Reader.Parse

/-
  Where faults are reported. Each fault names something of the source, and stands where that is:
  a string at its quote, an element at its `<`, a hole behind its brace (`Shows`). The reader passes
  on the place where a construct began, through all that is nested in it, so the invariant of the
  induction over the fuel speaks of that place as well as of the cursor (`Charted`). Main statement:
  an error points into the source, at what it is about (`shows_of_parse_error`).
-/

namespace JsxTemplate

/-- What a fault is about, between the text before its place and the text behind it. -/
def Fault.Shows : Fault → Text → Text → Prop
  | expected wanted _ found, _, behind => behind.head? = found ∧ found ≠ some wanted
  | unterminatedExpression _, before, _ => before.getLast? = some '{'
  | unterminatedString, _, behind => behind.head? = some '\'' ∨ behind.head? = some '"'
  | unterminatedTemplate, _, behind => behind.head? = some '\x60'
  | unterminatedComment, _, behind => ['/', '*'] <+: behind
  | fragment, _, behind => ['<', '>'] <+: behind
  | missingTag, before, behind =>
    before.getLast? = some '<' ∧ ∀ c ∈ behind.head?, isTagChar c = false
  | spreadAttribute, _, behind => behind.head? = some '{'
  | unterminatedTag tag, _, behind => '<' :: tag <+: behind
  | unexpectedInTag _ found, _, behind => behind.head? = some found
  | unterminatedValue _, _, behind => behind.head? = some '\'' ∨ behind.head? = some '"'
  | missingValue _, _, behind => ∀ c ∈ behind.head?, c ≠ '\'' ∧ c ≠ '"' ∧ c ≠ '{'
  | unclosedElement tag, _, behind => '<' :: tag <+: behind
  | mismatchedClosing _ closed, _, behind =>
    ∃ blanks : Text, blanks.isBlank ∧ '<' :: '/' :: blanks ++ closed <+: behind
  | remark _, _, _ => False

/-! ## Places in a source -/

/-- The place is one of the source, with such text before and behind it. -/
def Marks (source : Text) (place : Place) (p : Text → Text → Prop) : Prop :=
  ∃ before behind, source = before ++ behind ∧ place = Place.origin.after before ∧ p before behind

/-- The cursor stands in the source. -/
def Cursor.In (source : Text) (cursor : Cursor) : Prop := (ofText source).Reaches cursor

/-- The error is reported where what it is about stands in the source. -/
def ParseError.PointsInto (source : Text) (error : ParseError) : Prop :=
  ∃ place, Marks source place error.fault.Shows ∧ error.line = place.line ∧
    error.column = place.column

namespace Cursor

variable {source : Text} {cursor : Cursor}

theorem In.next (h : cursor.In source) : cursor.next.In source := h.trans cursor.reaches_next

theorem In.past (h : cursor.In source) {taken rest : Text} (hr : cursor.rest = taken ++ rest) :
    (cursor.past taken).In source :=
  h.trans (reaches_past hr)

theorem In.past_ahead (h : cursor.In source) (p : Char → Bool) :
    (cursor.past (cursor.ahead p)).In source :=
  h.trans (cursor.reaches_past_ahead p)

theorem In.skipBlanks (h : cursor.In source) : cursor.skipBlanks.In source :=
  h.trans cursor.reaches_skipBlanks

theorem In.past_body (h : cursor.In source) {c : Char} {rest body : Text}
    (hr : cursor.rest = c :: rest) (hbody : body <+: rest) :
    (cursor.past (c :: body)).In source := by
  obtain ⟨left, rfl⟩ := hbody
  exact h.past hr

/-- What stands ahead of a cursor stands behind its place. -/
theorem In.marks (h : cursor.In source) {p : Text → Text → Prop}
    (hp : ∀ before, p before cursor.rest) : Marks source cursor.place p := by
  obtain ⟨before, hsource, hplace⟩ := h
  exact ⟨before, cursor.rest, hsource, hplace, hp before⟩

/-- The character that was just read stands before the place. -/
theorem In.marks_next (h : cursor.In source) {c : Char} {rest : Text}
    (hr : cursor.rest = c :: rest) {p : Text → Text → Prop}
    (hp : ∀ before, before.getLast? = some c → p before rest) :
    Marks source cursor.next.place p := by
  obtain ⟨before, hsource, hplace⟩ := h
  refine ⟨before ++ [c], rest, ?_, ?_, hp _ List.getLast?_concat⟩
  · rw [List.append_assoc, List.singleton_append, ← hr]
    exact hsource
  · rw [next_of_rest hr, hplace, Place.after_append]
    rfl

end Cursor

namespace Reader

variable {source : Text}

/-- A result that leaves a cursor of the source, or a fault of the source. -/
def Charts {α : Type} (source : Text) (rest : α → Cursor) : Except Stop α → Prop
  | .ok a => (rest a).In source
  | .error (.fault error) => error.PointsInto source
  | .error .outOfFuel => True

theorem Charts.bind {α β : Type} {rest : α → Cursor} {rest' : β → Cursor} {x : Except Stop α}
    {f : α → Except Stop β} (hx : Charts source rest x)
    (hf : ∀ a, (rest a).In source → Charts source rest' (f a)) :
    Charts source rest' (x >>= f) := by
  match x, hx with
  | .ok a, hx => exact hf a hx
  | .error (.fault _), hx => exact hx
  | .error .outOfFuel, _ => trivial

theorem peek_eq_iff {cursor : Cursor} {d : Char} (hd : d ≠ '\x00') :
    cursor.peek = d ↔ cursor.rest.head? = some d := by
  simp only [Cursor.peek, Cursor.peekAt]
  cases cursor.rest with
  | nil => simp [hd.symm]
  | cons c rest => simp

theorem charts_faultAt {α : Type} (rest : α → Cursor) {place : Place} {fault : Fault}
    (h : Marks source place fault.Shows) : Charts source rest (faultAt place fault) :=
  ⟨place, h, rfl, rfl⟩

theorem charts_expect {cursor : Cursor} (h : cursor.In source) (wanted : Char) (purpose : Text) :
    Charts source id (expect cursor wanted purpose) := by
  unfold expect Cursor.expect
  split
  next behind heat =>
    obtain ⟨rest, hr, rfl⟩ := Cursor.eat_eq_some_iff.1 heat
    rw [← Cursor.next_of_rest hr]
    exact h.next
  next heat =>
    refine ⟨cursor.place, h.marks fun before => ⟨rfl, fun hwanted => ?_⟩, rfl, rfl⟩
    obtain ⟨rest, hr⟩ := List.head?_eq_some_iff.1 hwanted
    rw [Cursor.eat_eq_some_iff.2 ⟨rest, hr, rfl⟩] at heat
    cases heat

theorem Charts.of_expect {β : Type} {rest : β → Cursor} {cursor : Cursor} (h : cursor.In source)
    {wanted : Char} {purpose : Text} {f : Cursor → Except Stop β}
    (hf : ∀ tail, cursor.rest = wanted :: tail → Charts source rest (f cursor.next)) :
    Charts source rest (expect cursor wanted purpose >>= f) := by
  have hexpect := charts_expect h wanted purpose
  cases hx : expect cursor wanted purpose with
  | ok behind =>
    obtain ⟨tail, hr, rfl⟩ := expect_eq_ok hx
    exact hf tail hr
  | error stop =>
    rw [hx] at hexpect
    match stop, hexpect with
    | .fault error, hexpect => exact hexpect
    | .outOfFuel, _ => trivial

/-- The places of what reading with that fuel finds or complains about. -/
structure Charted (source : Text) (fuel : Nat) : Prop where
  code : ∀ {close start depth draft cursor}, cursor.In source →
    (∀ c ∈ close, Marks source start (Fault.unterminatedExpression c).Shows) →
    Charts source Prod.snd (code fuel close start depth draft cursor)
  template : ∀ {start draft cursor}, cursor.In source →
    Marks source start Fault.unterminatedTemplate.Shows →
    Charts source Prod.snd (template fuel start draft cursor)
  element : ∀ {cursor}, cursor.In source → Charts source Prod.snd (element fuel cursor)
  attributes : ∀ {tag start found cursor}, cursor.In source →
    Marks source start (Fault.unterminatedTag tag).Shows →
    Charts source (fun r => r.2.2) (attributes fuel tag start found cursor)
  oneAttribute : ∀ {cursor}, cursor.In source → Charts source Prod.snd (oneAttribute fuel cursor)
  hole : ∀ {cursor}, cursor.In source → Charts source Prod.snd (hole fuel cursor)
  children : ∀ {tag start found cursor}, cursor.In source →
    Marks source start (Fault.unclosedElement tag).Shows →
    Charts source Prod.snd (children fuel tag start found cursor)

section Step

variable {fuel : Nat} (charted : Charted source fuel)
include charted

theorem Charted.code_succ {close : Option Char} {start : Place} {depth : Nat} {draft : Draft}
    {cursor : Cursor} (hin : cursor.In source)
    (hstart : ∀ c ∈ close, Marks source start (Fault.unterminatedExpression c).Shows) :
    Charts source Prod.snd (Reader.code (fuel + 1) close start depth draft cursor) := by
  unfold Reader.code
  split
  next h =>
    split
    next c => exact charts_faultAt _ (hstart c rfl)
    next => exact hin
  next c rest hr =>
    split
    · exact charted.code hin.next hstart
    split
    · split
      · exact hin
      · exact charted.code hin.next hstart
    split
    next hquote =>
      split
      next =>
        refine charts_faultAt _ (hin.marks fun before => ?_)
        rw [hr]
        simpa [Fault.Shows] using hquote
      next body hbody => exact charted.code (hin.past_body hr (prefix_of_stringBody hbody)) hstart
    split
    next htick =>
      obtain rfl : c = '\x60' := by simpa using htick
      have hmarks : Marks source cursor.place Fault.unterminatedTemplate.Shows :=
        hin.marks fun before => by rw [hr]; rfl
      exact (charted.template hin.next hmarks).bind fun r hr => charted.code hr hstart
    split
    · exact charted.code (hin.past_ahead _) hstart
    split
    next hblock =>
      simp only [Bool.and_eq_true, beq_iff_eq] at hblock
      obtain ⟨rfl, hnext⟩ := hblock
      obtain ⟨tail, rfl⟩ := List.head?_eq_some_iff.1 ((peekNext_eq_iff hr (by decide)).1 hnext)
      split
      next =>
        refine charts_faultAt _ (hin.marks fun before => ?_)
        rw [hr]
        exact ⟨tail, rfl⟩
      next body hbody =>
        obtain ⟨left, hleft⟩ := prefix_of_commentBody hbody
        exact charted.code (hin.past_body hr ⟨left, congrArg _ hleft⟩) hstart
    split
    · refine (charted.element hin).bind fun r hbehind => ?_
      obtain ⟨found, behind⟩ := r
      dsimp only
      split
      · exact charted.code hbehind.skipBlanks.next hstart
      · exact charted.code hbehind hstart
    · exact charted.code hin.next hstart

theorem Charted.template_succ {start : Place} {draft : Draft} {cursor : Cursor}
    (hin : cursor.In source) (hstart : Marks source start Fault.unterminatedTemplate.Shows) :
    Charts source Prod.snd (Reader.template (fuel + 1) start draft cursor) := by
  rw [Reader.template]
  split
  · exact charts_faultAt _ hstart
  next c rest hr =>
    split
    · split
      · exact charts_faultAt _ hstart
      next guarded tail => exact charted.template (hin.past hr) hstart
    split
    · exact hin.next
    split
    next hhole =>
      simp only [Bool.and_eq_true, beq_iff_eq] at hhole
      obtain ⟨rfl, hnext⟩ := hhole
      obtain ⟨tail, rfl⟩ := List.head?_eq_some_iff.1 ((peekNext_eq_iff hr (by decide)).1 hnext)
      have hr' : cursor.next.rest = '{' :: tail := Cursor.rest_next hr
      have hpast : cursor.past ['$', '{'] = cursor.next.next := by
        rw [Cursor.past_cons hr, Cursor.next_eq_past hr']
      rw [hpast]
      have hmarks : ∀ c ∈ some '}', Marks source cursor.next.next.place
          (Fault.unterminatedExpression c).Shows :=
        fun c _ => hin.next.marks_next hr' fun before hlast => hlast
      refine (charted.code hin.next.next hmarks).bind fun r hr => ?_
      exact Charts.of_expect hr fun _ _ => charted.template hr.next hstart
    · exact charted.template hin.next hstart

theorem Charted.element_succ {cursor : Cursor} (hin : cursor.In source) :
    Charts source Prod.snd (Reader.element (fuel + 1) cursor) := by
  rw [Reader.element]
  refine Charts.of_expect hin fun tail hr => ?_
  have hopened : cursor.rest = '<' :: cursor.next.rest := by rw [Cursor.rest_next hr, hr]
  split
  next hgt =>
    refine charts_faultAt _ (hin.marks fun before => ?_)
    have hpeek : cursor.next.peek = '>' := by simpa using hgt
    obtain ⟨behind, hbehind⟩ := List.head?_eq_some_iff.1 ((peek_eq_iff (by decide)).1 hpeek)
    rw [hopened, hbehind]
    exact ⟨behind, rfl⟩
  dsimp only
  split
  next hempty =>
    have hnil : cursor.next.ahead isTagChar = [] := by simpa using hempty
    have hrest : ∀ c ∈ (cursor.next.past (cursor.next.ahead isTagChar)).rest.head?,
        isTagChar c = false := fun c hc => Cursor.not_of_head?_past_ahead hc
    rw [hnil, Cursor.past_nil] at hrest ⊢
    exact charts_faultAt _ (hin.marks_next hopened fun before hlast => ⟨hlast, hrest⟩)
  next =>
    have htag := cursor.next.ahead_append_rest isTagChar
    have hstart : Marks source cursor.place fun _ behind =>
        '<' :: cursor.next.ahead isTagChar <+: behind := by
      refine hin.marks fun before => ?_
      rw [hopened, ← htag]
      exact ⟨_, rfl⟩
    refine (charted.attributes (hin.next.past_ahead _) hstart).bind fun r hinner => ?_
    obtain ⟨attributes, selfClosing, inner⟩ := r
    dsimp only
    split
    · exact hinner
    · exact (charted.children hinner hstart).bind fun r hr => hr

theorem Charted.attributes_succ {tag : Text} {start : Place} {found : List Attribute}
    {cursor : Cursor} (hin : cursor.In source)
    (hstart : Marks source start (Fault.unterminatedTag tag).Shows) :
    Charts source (fun r => r.2.2) (Reader.attributes (fuel + 1) tag start found cursor) := by
  rw [Reader.attributes]
  have hskip := hin.skipBlanks
  dsimp only
  split
  · exact charts_faultAt _ hstart
  next c rest hr =>
    split
    · exact Charts.of_expect hskip.next fun _ _ => hskip.next.next
    split
    · exact hskip.next
    split
    next hbrace =>
      obtain rfl : c = '{' := by simpa using hbrace
      refine charts_faultAt _ (hskip.marks fun before => ?_)
      rw [hr]
      rfl
    split
    · exact (charted.oneAttribute hskip).bind fun r hr => charted.attributes hr hstart
    · refine charts_faultAt _ (hskip.marks fun before => ?_)
      rw [hr]
      rfl

theorem Charted.oneAttribute_succ {cursor : Cursor} (hin : cursor.In source) :
    Charts source Prod.snd (Reader.oneAttribute (fuel + 1) cursor) := by
  rw [Reader.oneAttribute]
  have hnamed := (hin.past_ahead isAttributeChar).skipBlanks
  dsimp only
  split
  · exact hnamed
  next behind heat =>
    obtain ⟨rest, hr, hbehind⟩ := Cursor.eat_eq_some_iff.1 heat
    have hvalue : behind.skipBlanks.In source := by
      rw [hbehind, ← Cursor.next_of_rest hr]
      exact hnamed.next.skipBlanks
    split
    next hend =>
      refine charts_faultAt _ (hvalue.marks fun before d hd => ?_)
      rw [hend] at hd
      cases hd
    next c rest' hr' =>
      split
      next hquote =>
        split
        next =>
          refine charts_faultAt _ (hvalue.marks fun before => ?_)
          rw [hr']
          simpa [Fault.Shows, or_comm] using hquote
        next body hbody =>
          obtain ⟨inner, left, -, -, hleft⟩ := quotedBody_eq_some_iff.1 hbody
          exact hvalue.past_body hr' ⟨left, hleft.symm⟩
      next hquote =>
      split
      · exact (charted.hole hvalue).bind fun r hr => hr
      next hbrace =>
        refine charts_faultAt _ (hvalue.marks fun before d hd => ?_)
        rw [hr'] at hd
        obtain rfl : c = d := by simpa using hd
        simp only [Bool.or_eq_true, beq_iff_eq, not_or] at hquote hbrace
        exact ⟨hquote.2, hquote.1, hbrace⟩

theorem Charted.hole_succ {cursor : Cursor} (hin : cursor.In source) :
    Charts source Prod.snd (Reader.hole (fuel + 1) cursor) := by
  rw [Reader.hole]
  refine Charts.of_expect hin fun tail hr => ?_
  have hmarks : ∀ c ∈ some '}', Marks source cursor.next.place
      (Fault.unterminatedExpression c).Shows :=
    fun c _ => hin.marks_next hr fun before hlast => hlast
  refine (charted.code hin.next hmarks).bind fun r hr => ?_
  exact Charts.of_expect hr fun _ _ => hr.next

theorem Charted.children_succ {tag : Text} {start : Place} {found : List Child} {cursor : Cursor}
    (hin : cursor.In source) (hstart : Marks source start (Fault.unclosedElement tag).Shows) :
    Charts source Prod.snd (Reader.children (fuel + 1) tag start found cursor) := by
  rw [Reader.children]
  split
  · exact charts_faultAt _ hstart
  next c rest hr =>
    split
    next hlt =>
      obtain rfl : c = '<' := by simpa using hlt
      split
      next hslash =>
        have hslash : cursor.peekNext = '/' := by simpa using hslash
        obtain ⟨tail, rfl⟩ := List.head?_eq_some_iff.1 ((peekNext_eq_iff hr (by decide)).1 hslash)
        have hr' : cursor.next.next.rest = tail := Cursor.rest_next (Cursor.rest_next hr)
        have hname := (hin.next.next.skipBlanks.past_ahead isTagChar).skipBlanks
        refine Charts.of_expect hname fun _ _ => ?_
        split
        · exact hname.next
        · refine charts_faultAt _ (hin.marks fun before => ?_)
          have hblanks := cursor.next.next.ahead_append_skipBlanks
          have htag := cursor.next.next.skipBlanks.ahead_append_rest isTagChar
          refine ⟨cursor.next.next.ahead isBlank, List.all_takeWhile, ?_⟩
          rw [hr, ← hr', ← hblanks, ← htag, ← List.append_assoc]
          exact List.prefix_append _ _
      · exact (charted.element hin).bind fun r hr => charted.children hr hstart
    split
    · exact (charted.hole hin).bind fun r hr => charted.children hr hstart
    · exact charted.children (hin.past_ahead _) hstart

end Step

theorem charted (source : Text) (fuel : Nat) : Charted source fuel := by
  induction fuel with
  | zero => constructor <;> intros <;> trivial
  | succ fuel ih =>
    exact ⟨ih.code_succ, ih.template_succ, ih.element_succ, ih.attributes_succ,
      ih.oneAttribute_succ, ih.hole_succ, ih.children_succ⟩

end Reader

/-! ## Faults of a source -/

/-- An error of a source points at what it is about, and its line and column are those of that
place. -/
theorem shows_of_parse_error {source : Text} {error : ParseError}
    (h : parse source = .error error) :
    ∃ offset ≤ source.length,
      error.line = 1 + (source.take offset).count '\n' ∧
      error.column = 1 + ((source.take offset).reverse.takeWhile (· != '\n')).length ∧
      error.fault.Shows (source.take offset) (source.drop offset) := by
  have hcharts : Reader.Charts source Prod.snd
      (Reader.code (Reader.fuelFor source.length) none .origin 0 .empty (.ofText source)) :=
    (Reader.charted source _).code (Cursor.reaches_refl _) nofun
  rw [parse_eq_error_iff.1 h] at hcharts
  obtain ⟨place, ⟨before, behind, hsource, hplace, hshows⟩, hline, hcolumn⟩ := hcharts
  refine ⟨before.length, by rw [hsource, List.length_append]; omega, ?_⟩
  rw [hsource, List.take_left, List.drop_left]
  refine ⟨?_, ?_, hshows⟩
  · rw [hline, hplace, Place.after_line]
    rfl
  · rw [hcolumn, hplace]
    exact Place.origin_after_column before

/-- A string that is not ended, in a hole on the second line of an element. -/
theorem shows_of_parse_error_string :
    ∃ source : Text, source = "<a>\n  <b c=\x7bf('\x7d/></a>".toList ∧
      parse source = .error ⟨.unterminatedString, 2, 11⟩ ∧
      ∃ offset ≤ source.length,
        2 = 1 + (source.take offset).count '\n' ∧
        11 = 1 + ((source.take offset).reverse.takeWhile (· != '\n')).length ∧
        Fault.unterminatedString.Shows (source.take offset) (source.drop offset) := by
  have herror : (match parse "<a>\n  <b c=\x7bf('\x7d/></a>".toList with
      | .error error => some error
      | .ok _ => none) = some ⟨.unterminatedString, 2, 11⟩ := by
    decide +kernel
  cases h : parse "<a>\n  <b c=\x7bf('\x7d/></a>".toList with
  | ok expression => rw [h] at herror; cases herror
  | error error =>
    rw [h] at herror
    cases herror
    exact ⟨_, rfl, h, shows_of_parse_error h⟩

end JsxTemplate
