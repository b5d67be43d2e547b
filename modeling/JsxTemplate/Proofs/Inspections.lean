import JsxTemplate.Proofs.FaultPlaces
import JsxTemplate.Source.Inspection

/-
  Runs of cursor operations. Each operation reads on or stays, so after any run the cursor stands
  in its source and has come past every remembered place (`State.In`); its line and column are then
  those of its offset. Main statement: what each operation of a run answers and where it leaves the
  cursor, said by offsets into the source alone (`tracks_of_run`).
-/

namespace JsxTemplate

/-! ## Places and offsets -/

/-- The line and column of the place are those of its offset in the source. -/
structure Place.Counts (source : Text) (place : Place) : Prop where
  within : place.offset ≤ source.length
  line : place.line = 1 + (source.take place.offset).count '\n'
  column : place.column =
    1 + ((source.take place.offset).reverse.takeWhile (· != '\n')).length

namespace Cursor

variable {source : Text} {cursor behind : Cursor}

theorem In.split (h : cursor.In source) :
    source = source.take cursor.place.offset ++ cursor.rest ∧
      cursor.place = Place.origin.after (source.take cursor.place.offset) := by
  obtain ⟨taken, hsource, hplace⟩ := h
  have hsource : source = taken ++ cursor.rest := hsource
  have hoffset : cursor.place.offset = taken.length := by
    rw [hplace, Place.after_offset]
    exact Nat.zero_add _
  have htaken : source.take cursor.place.offset = taken := by
    rw [hoffset, hsource, List.take_left]
  rw [htaken]
  exact ⟨hsource, hplace⟩

theorem In.counts (h : cursor.In source) : cursor.place.Counts source := by
  obtain ⟨hsource, hplace⟩ := h.split
  refine ⟨?_, ?_, ?_⟩
  · have hoffset := congrArg Place.offset hplace
    rw [Place.after_offset, List.length_take] at hoffset
    have horigin : Place.origin.offset = 0 := rfl
    omega
  · have hline := congrArg Place.line hplace
    rw [Place.after_line] at hline
    exact hline
  · have hcolumn := congrArg Place.column hplace
    rw [Place.origin_after_column] at hcolumn
    exact hcolumn

theorem In.rest_eq (h : cursor.In source) : cursor.rest = source.drop cursor.place.offset := by
  have hdrop := List.take_append_drop cursor.place.offset source
  exact List.append_cancel_left (h.split.1.symm.trans hdrop.symm)

theorem In.getElem?_rest (h : cursor.In source) (n : Nat) :
    cursor.rest[n]? = source[cursor.place.offset + n]? := by
  rw [h.rest_eq, List.getElem?_drop]

/-- What was read between two cursors is the text of the source between their offsets. -/
theorem In.between (h : cursor.In source) {taken : Text}
    (hr : cursor.rest = taken ++ behind.rest)
    (hplace : behind.place = cursor.place.after taken) :
    taken = (source.take behind.place.offset).drop cursor.place.offset := by
  have hoffset : behind.place.offset = cursor.place.offset + taken.length := by
    rw [hplace, Place.after_offset]
  rw [hoffset, List.drop_take, ← h.rest_eq, hr, Nat.add_sub_cancel_left, List.take_left]

theorem peekAt_eq (cursor : Cursor) (n : Nat) :
    cursor.peekAt n = cursor.rest[n]?.getD '\x00' := by
  rw [peekAt, List.getD_eq_getElem?_getD]

theorem peekPastBlanks_eq (cursor : Cursor) : cursor.peekPastBlanks = cursor.skipBlanks.peek := by
  rw [peek, peekAt_eq, skipBlanks, rest_past_ahead, peekPastBlanks]
  cases cursor.rest.dropWhile isBlank <;> rfl

theorem eat_of_ne {wanted : Char} (h : cursor.rest.head? ≠ some wanted) :
    cursor.eat wanted = none := by
  cases heat : cursor.eat wanted with
  | none => rfl
  | some behind =>
    obtain ⟨rest, hr, -⟩ := eat_eq_some_iff.1 heat
    exact absurd (by rw [hr]; rfl) h

end Cursor

namespace Inspection

/-! ## States of a run -/

/-- The state after a run of operations. -/
def State.after (state : State) (operations : List Inspection) : State :=
  operations.foldl (fun state operation => (operation.run state).2) state

theorem runAll_cons (state : State) (operation : Inspection) (operations : List Inspection) :
    runAll state (operation :: operations) =
      ((operation.run state).1, (operation.run state).2.cursor.place) ::
        runAll (operation.run state).2 operations := rfl

theorem runAll_append (state : State) (operations more : List Inspection) :
    runAll state (operations ++ more) =
      runAll state operations ++ runAll (state.after operations) more := by
  induction operations generalizing state with
  | nil => rfl
  | cons operation operations ih =>
    rw [List.cons_append, runAll_cons, runAll_cons, ih]
    rfl

/-- A cursor of the source stood at the place before this one got where it is. -/
def Passed (source : Text) (cursor : Cursor) (place : Place) : Prop :=
  ∃ earlier : Cursor, earlier.In source ∧ earlier.Reaches cursor ∧ earlier.place = place

/-- The cursor stands in the source, and has come past the remembered places. -/
structure State.In (source : Text) (state : State) : Prop where
  cursor : state.cursor.In source
  marks : ∀ place ∈ state.marks, Passed source state.cursor place

/-- The operations that may read on. -/
def readsOn : Inspection → Bool
  | advance | eat _ | expect .. | skipBlanks | takeWhile _ => true
  | _ => false

/-- How far ahead of the cursor an operation looks for the character that it answers. -/
def looks? : Inspection → Option Nat
  | peek => some 0
  | peekNext => some 1
  | peekAt offset => some offset
  | advance => some 0
  | _ => none

/-- The character that an operation steps over, if it is there. -/
def wanted? : Inspection → Option Char
  | eat wanted => some wanted
  | expect wanted _ => some wanted
  | _ => none

/-- The condition on the characters that an operation steps over, as many as there are. -/
def condition? : Inspection → Option (Char → Bool)
  | skipBlanks => some isBlank
  | takeWhile p => some p
  | _ => none

variable {source : Text} {state : State} {operation : Inspection}

theorem run_of_wanted? (state : State) {wanted : Char} (h : operation.wanted? = some wanted) :
    (state.cursor.rest.head? = some wanted ∧
      operation.run state = (.flag true, { state with cursor := state.cursor.next })) ∨
    state.cursor.rest.head? ≠ some wanted ∧ (operation.run state).2 = state ∧
      ((operation.run state).1 = .flag false ∨
        ∃ fault, (operation.run state).1 = .error (state.cursor.error fault)) := by
  by_cases hhead : state.cursor.rest.head? = some wanted
  · refine .inl ⟨hhead, ?_⟩
    obtain ⟨rest, hr⟩ := List.head?_eq_some_iff.1 hhead
    have heat : state.cursor.eat wanted = some state.cursor.next :=
      Cursor.eat_eq_some_iff.2 ⟨rest, hr, Cursor.next_of_rest hr⟩
    cases operation with
    | eat | expect =>
      cases h
      simp only [run, Cursor.expect, heat]
    | _ => cases h
  · refine .inr ⟨hhead, ?_⟩
    have heat := Cursor.eat_of_ne hhead
    cases operation with
    | eat =>
      cases h
      simp [run, heat]
    | expect =>
      cases h
      simp [run, Cursor.expect, heat]
    | _ => cases h

theorem cursor_run_of_condition? (state : State) {p : Char → Bool}
    (h : operation.condition? = some p) :
    (operation.run state).2.cursor = state.cursor.past (state.cursor.ahead p) := by
  cases operation with
  | skipBlanks | takeWhile =>
    cases h
    rfl
  | _ => cases h

theorem cursor_run_of_not_readsOn (h : operation.readsOn = false) :
    (operation.run state).2.cursor = state.cursor := by
  cases operation with
  | advance | eat | expect | skipBlanks | takeWhile => cases h
  | _ => rfl

/-! ## One step and a whole run -/

theorem reaches_run (state : State) (operation : Inspection) :
    state.cursor.Reaches (operation.run state).2.cursor := by
  cases hwanted : operation.wanted? with
  | some c =>
    rcases run_of_wanted? state hwanted with ⟨-, hrun⟩ | ⟨-, hrun, -⟩
    · rw [hrun]
      exact Cursor.reaches_next _
    · rw [hrun]
      exact Cursor.reaches_refl _
  | none =>
    cases operation with
    | eat | expect => cases hwanted
    | advance => exact Cursor.reaches_next _
    | skipBlanks => exact Cursor.reaches_skipBlanks _
    | takeWhile p => exact Cursor.reaches_past_ahead _ p
    | _ => exact Cursor.reaches_refl _

theorem marks_run (state : State) (h : operation ≠ .mark) :
    (operation.run state).2.marks = state.marks := by
  cases hwanted : operation.wanted? with
  | some c => rcases run_of_wanted? state hwanted with ⟨-, hrun⟩ | ⟨-, hrun, -⟩ <;> rw [hrun]
  | none =>
    cases operation with
    | mark => exact absurd rfl h
    | eat | expect => cases hwanted
    | _ => rfl

/-- A place that the run has come past stays behind it. -/
theorem Passed.trans {cursor behind : Cursor} {place : Place} (h : Passed source cursor place)
    (hreaches : cursor.Reaches behind) : Passed source behind place := by
  obtain ⟨earlier, hin, hbefore, hplace⟩ := h
  exact ⟨earlier, hin, hbefore.trans hreaches, hplace⟩

theorem State.In.run (h : state.In source) (operation : Inspection) :
    (operation.run state).2.In source := by
  have hreaches := reaches_run state operation
  refine ⟨h.cursor.trans hreaches, ?_⟩
  -- A mark adds the cursor's own place; every other operation keeps the places it finds.
  by_cases hmark : operation = .mark
  · subst hmark
    intro place hplace
    rcases List.mem_cons.1 hplace with rfl | hplace
    · exact ⟨state.cursor, h.cursor, Cursor.reaches_refl _, rfl⟩
    · exact h.marks place hplace
  · rw [marks_run state hmark]
    exact fun place hplace => (h.marks place hplace).trans hreaches

theorem in_ofText (source : Text) : (State.ofText source).In source :=
  ⟨Cursor.reaches_refl _, fun _ hplace => absurd hplace List.not_mem_nil⟩

theorem State.In.marked (h : state.In source) (back : Nat) :
    Passed source state.cursor (state.marked back) := by
  rw [State.marked, List.getD_eq_getElem?_getD]
  cases hplace : state.marks[back]? with
  | none => exact ⟨.ofText source, Cursor.reaches_refl _, h.cursor, rfl⟩
  | some place => exact h.marks place (List.mem_of_getElem? hplace)

theorem State.In.after (h : state.In source) (operations : List Inspection) :
    (state.after operations).In source := by
  induction operations generalizing state with
  | nil => exact h
  | cons operation operations ih => exact ih (h.run operation)

/-! ## What an operation answers -/

/-- What one operation answers and where it leaves the cursor, by offsets into the source. -/
structure Tracks (source : Text) (operation : Inspection) (state : State) (answer : Answer)
    (next : State) : Prop where
  /-- The place afterwards is one of the source. -/
  counts : next.cursor.place.Counts source
  /-- The cursor never goes back. -/
  forward : state.cursor.place.offset ≤ next.cursor.place.offset
  /-- Looking, remembering and reporting leave the cursor where it is. -/
  stays : operation.readsOn = false → next.cursor = state.cursor
  /-- Looking ahead shows the source, and NUL where there is none left. -/
  ahead : ∀ n, operation.looks? = some n →
    answer = .char (source[state.cursor.place.offset + n]?.getD '\x00')
  /-- What is looked at lies at most one behind the end of the source, wherever the cursor stands.
  Only `peekAt` looks as far as it is told to; whoever calls it sees to it that the sum with the
  cursor's offset is in the machine's range. -/
  inRange : ∀ n, operation.looks? = some n → operation ≠ .peekAt n →
    state.cursor.place.offset + n ≤ source.length + 1
  /-- The end is told from a NUL. -/
  atEnd : operation = .isAtEnd → answer = .flag (state.cursor.place.offset == source.length)
  /-- Advancing steps over one character, unless there is none left. -/
  advanced : operation = .advance →
    next.cursor.place.offset = min (state.cursor.place.offset + 1) source.length
  /-- A character that is wanted is stepped over if it stands there; else nothing changes. -/
  wanted : ∀ c, operation.wanted? = some c →
    if source[state.cursor.place.offset]? = some c then
      answer = .flag true ∧ next.cursor.place.offset = state.cursor.place.offset + 1
    else answer ≠ .flag true ∧ next = state
  /-- What is stepped over satisfies the condition, and what stands behind it does not. -/
  between : ∀ p, operation.condition? = some p →
    (∀ c ∈ (source.take next.cursor.place.offset).drop state.cursor.place.offset, p c = true) ∧
    ∀ c, source[next.cursor.place.offset]? = some c → p c = false
  /-- The text that is answered is the text of the source in between. -/
  text : ∀ p, operation = .takeWhile p →
    answer = .text ((source.take next.cursor.place.offset).drop state.cursor.place.offset)
  /-- Peeking past blanks is peeking after skipping them. -/
  pastBlanks : (peekPastBlanks.run state).1 = (peek.run (skipBlanks.run state).2).1
  /-- A span begins at a place of the source and ends at the cursor. -/
  span : ∀ span, answer = .span span →
    Place.Counts source ⟨span.start, span.line, span.column⟩ ∧ span.start ≤ span.stop ∧
      span.stop = next.cursor.place.offset
  /-- An error is reported at a place of the source that the cursor has reached. -/
  error : ∀ error, answer = .error error → ∃ place : Place, place.Counts source ∧
    place.offset ≤ next.cursor.place.offset ∧ error.line = place.line ∧
      error.column = place.column

theorem looks_run (h : state.In source) {n : Nat} (hn : operation.looks? = some n) :
    (operation.run state).1 = .char (source[state.cursor.place.offset + n]?.getD '\x00') := by
  rw [← h.cursor.getElem?_rest, ← Cursor.peekAt_eq]
  cases operation with
  | peek | peekNext | peekAt | advance =>
    cases hn
    rfl
  | _ => cases hn

theorem looks_inRange (h : state.In source) {n : Nat} (hn : operation.looks? = some n)
    (hfixed : operation ≠ .peekAt n) : state.cursor.place.offset + n ≤ source.length + 1 := by
  have hwithin := h.cursor.counts.within
  cases operation with
  | peek | peekNext | advance =>
    cases hn
    omega
  | peekAt =>
    cases hn
    exact absurd rfl hfixed
  | _ => cases hn

theorem isAtEnd_run (h : state.In source) :
    (isAtEnd.run state).1 = .flag (state.cursor.place.offset == source.length) := by
  have hwithin := h.cursor.counts.within
  have hend : state.cursor.rest = [] ↔ state.cursor.place.offset = source.length := by
    rw [h.cursor.rest_eq, List.drop_eq_nil_iff]
    omega
  refine congrArg Answer.flag (Bool.eq_iff_iff.2 ?_)
  rw [Cursor.isAtEnd, List.isEmpty_iff, hend, beq_iff_eq]

theorem advance_run (h : state.In source) :
    (advance.run state).2.cursor.place.offset =
      min (state.cursor.place.offset + 1) source.length := by
  have hwithin := h.cursor.counts.within
  have hlength := congrArg List.length h.cursor.rest_eq
  rw [List.length_drop] at hlength
  cases hr : state.cursor.rest with
  | nil =>
    have hnext : state.cursor.next = state.cursor := by simp [Cursor.next, hr]
    rw [hr, List.length_nil] at hlength
    simp only [run, Cursor.advance, hnext]
    omega
  | cons c rest =>
    have hnext := Cursor.offset_next hr
    rw [hr, List.length_cons] at hlength
    simp only [run, Cursor.advance, hnext]
    omega

theorem wanted_run (h : state.In source) {c : Char} (hc : operation.wanted? = some c) :
    if source[state.cursor.place.offset]? = some c then
      (operation.run state).1 = .flag true ∧
        (operation.run state).2.cursor.place.offset = state.cursor.place.offset + 1
    else (operation.run state).1 ≠ .flag true ∧ (operation.run state).2 = state := by
  have hhead : state.cursor.rest.head? = source[state.cursor.place.offset]? := by
    rw [List.head?_eq_getElem?, h.cursor.getElem?_rest]
    rfl
  rw [← hhead]
  rcases run_of_wanted? state hc with ⟨hfound, hrun⟩ | ⟨hmissing, hstate, hanswer⟩
  · obtain ⟨rest, hr⟩ := List.head?_eq_some_iff.1 hfound
    rw [if_pos hfound, hrun]
    exact ⟨rfl, Cursor.offset_next hr⟩
  · rw [if_neg hmissing]
    refine ⟨fun htrue => ?_, hstate⟩
    rcases hanswer with hfalse | ⟨fault, herror⟩
    · rw [htrue] at hfalse
      cases hfalse
    · rw [htrue] at herror
      cases herror

theorem condition_run (h : state.In source) {p : Char → Bool} (hp : operation.condition? = some p) :
    state.cursor.ahead p = (source.take (operation.run state).2.cursor.place.offset).drop
        state.cursor.place.offset ∧
      ∀ c, source[(operation.run state).2.cursor.place.offset]? = some c → p c = false := by
  have hin := (h.run operation).cursor
  have hrest := hin.getElem?_rest 0
  have hcursor := cursor_run_of_condition? state hp
  refine ⟨h.cursor.between ?_ ?_, ?_⟩
  · rw [hcursor, Cursor.ahead_append_rest]
  · rw [hcursor]
    rfl
  · intro c hc
    rw [Nat.add_zero, hc, hcursor, ← List.head?_eq_getElem?] at hrest
    exact Cursor.not_of_head?_past_ahead hrest

theorem span_run (h : state.In source) {span : Span} (hs : (operation.run state).1 = .span span) :
    Place.Counts source ⟨span.start, span.line, span.column⟩ ∧ span.start ≤ span.stop ∧
      span.stop = (operation.run state).2.cursor.place.offset := by
  cases hwanted : operation.wanted? with
  | some c =>
    rcases run_of_wanted? state hwanted with ⟨-, hrun⟩ | ⟨-, -, hanswer | ⟨_, hanswer⟩⟩
    · rw [hrun] at hs
      cases hs
    · rw [hanswer] at hs
      cases hs
    · rw [hanswer] at hs
      cases hs
  | none =>
    cases operation with
    | mark =>
      cases hs
      exact ⟨h.cursor.counts, Nat.le_refl _, rfl⟩
    | spanFrom back =>
      cases hs
      obtain ⟨earlier, hin, hbefore, hplace⟩ := h.marked back
      rw [Cursor.spanFrom, ← hplace]
      exact ⟨hin.counts, hbefore.offset_le, rfl⟩
    | eat | expect => cases hwanted
    | _ => cases hs

theorem error_run (h : state.In source) {error : ParseError}
    (he : (operation.run state).1 = .error error) :
    ∃ place : Place, place.Counts source ∧
      place.offset ≤ (operation.run state).2.cursor.place.offset ∧ error.line = place.line ∧
      error.column = place.column := by
  have hforward := (reaches_run state operation).offset_le
  cases hwanted : operation.wanted? with
  | some c =>
    rcases run_of_wanted? state hwanted with ⟨-, hrun⟩ | ⟨-, -, hanswer | ⟨_, hanswer⟩⟩
    · rw [hrun] at he
      cases he
    · rw [hanswer] at he
      cases he
    · rw [hanswer] at he
      cases he
      exact ⟨_, h.cursor.counts, hforward, rfl, rfl⟩
  | none =>
    cases operation with
    | error message =>
      cases he
      exact ⟨_, h.cursor.counts, hforward, rfl, rfl⟩
    | errorAt message back =>
      cases he
      obtain ⟨earlier, hin, hbefore, hplace⟩ := h.marked back
      rw [← hplace]
      exact ⟨earlier.place, hin.counts, hbefore.offset_le, rfl, rfl⟩
    | eat | expect => cases hwanted
    | _ => cases he

theorem State.In.tracks (h : state.In source) (operation : Inspection) :
    Tracks source operation state (operation.run state).1 (operation.run state).2 := by
  refine ⟨(h.run operation).cursor.counts, (reaches_run state operation).offset_le,
    cursor_run_of_not_readsOn, fun n hn => looks_run h hn, fun n hn => looks_inRange h hn, ?_, ?_,
    fun c hc => wanted_run h hc, ?_, ?_, ?_, fun span hs => span_run h hs,
    fun error he => error_run h he⟩
  · rintro rfl
    exact isAtEnd_run h
  · rintro rfl
    exact advance_run h
  · intro p hp
    obtain ⟨htaken, hbehind⟩ := condition_run h hp
    rw [← htaken]
    exact ⟨fun c hc => List.mem_takeWhile_imp hc, hbehind⟩
  · rintro p rfl
    rw [← (condition_run h rfl).1]
    rfl
  · exact congrArg Answer.char state.cursor.peekPastBlanks_eq

/-- After any run of operations over a source, the next one answers and moves by the offset that
the cursor has reached, and the run goes on with that answer and that place. -/
theorem tracks_of_run {source : Text} {operations : List Inspection} {operation : Inspection}
    {answer : Answer} {next : State}
    (h : operation.run ((State.ofText source).after operations) = (answer, next)) :
    Tracks source operation ((State.ofText source).after operations) answer next ∧
      next = (State.ofText source).after (operations ++ [operation]) ∧
      runAll (.ofText source) (operations ++ [operation]) =
        runAll (.ofText source) operations ++ [(answer, next.cursor.place)] := by
  have hin := (in_ofText source).after operations
  have htracks := hin.tracks operation
  rw [h] at htracks
  refine ⟨htracks, ?_, ?_⟩
  · rw [State.after, List.foldl_append, List.foldl_cons, List.foldl_nil]
    exact (congrArg Prod.snd h).symm
  · rw [runAll_append, runAll_cons, h]
    rfl

/-- A NUL and a newline are taken like other characters, behind an expectation that failed. -/
theorem tracks_of_run_lines :
    ∃ (source : Text) (operations : List Inspection) (answer : Answer) (next : State),
      source = "a\x00\nbc".toList ∧
      operations = [.advance, .mark, .expect '>' "to close tag".toList] ∧
      (takeWhile (· != 'c')).run ((State.ofText source).after operations) = (answer, next) ∧
      answer = .text "\x00\nb".toList ∧ next.cursor.place = ⟨4, 2, 2⟩ ∧
      Tracks source (.takeWhile (· != 'c')) ((State.ofText source).after operations) answer next :=
  ⟨_, _, _, _, rfl, rfl, rfl, by decide +kernel, by decide +kernel, (tracks_of_run rfl).1⟩

end Inspection

end JsxTemplate
