import JsxTemplate.Source.Cursor

/-
  Runs of cursor operations: what each operation answers and where it leaves the cursor.
-/

namespace JsxTemplate

/-- One operation on a cursor with remembered places. -/
inductive Inspection where
  | peek
  | peekNext
  | peekAt (offset : Nat)
  | peekPastBlanks
  | advance
  | isAtEnd
  | eat (wanted : Char)
  | expect (wanted : Char) (purpose : Text)
  | skipBlanks
  | takeWhile (p : Char → Bool)
  /-- Remembers the cursor's place. -/
  | mark
  /-- The span from a remembered place, `back` places before the newest. -/
  | spanFrom (back : Nat := 0)
  | error (message : Text)
  /-- An error at a remembered place, `back` places before the newest. -/
  | errorAt (message : Text) (back : Nat := 0)

namespace Inspection

/-- What an operation answers. -/
inductive Answer where
  | char (c : Char)
  | flag (b : Bool)
  | text (t : Text)
  | span (s : Span)
  | error (e : ParseError)
  | nothing
  deriving DecidableEq, Repr

/-- A cursor and the remembered places, newest first. -/
structure State where
  cursor : Cursor
  marks : List Place
  deriving DecidableEq, Repr

def State.ofText (source : Text) : State := ⟨.ofText source, []⟩

/-- The place remembered `back` places before the newest; before all of them, where the source
begins. -/
def State.marked (state : State) (back : Nat) : Place := state.marks.getD back .origin

/-- The answer to one operation, and the state after it. -/
def run (state : State) : Inspection → Answer × State
  | peek => (.char state.cursor.peek, state)
  | peekNext => (.char state.cursor.peekNext, state)
  | peekAt offset => (.char (state.cursor.peekAt offset), state)
  | peekPastBlanks => (.char state.cursor.peekPastBlanks, state)
  | advance => (.char state.cursor.advance.1, { state with cursor := state.cursor.advance.2 })
  | isAtEnd => (.flag state.cursor.isAtEnd, state)
  | eat wanted =>
    match state.cursor.eat wanted with
    | some cursor => (.flag true, { state with cursor := cursor })
    | none => (.flag false, state)
  | expect wanted purpose =>
    match state.cursor.expect wanted purpose with
    | .ok cursor => (.flag true, { state with cursor := cursor })
    | .error e => (.error e, state)
  | skipBlanks => (.nothing, { state with cursor := state.cursor.skipBlanks })
  | takeWhile p =>
    (.text (state.cursor.takeWhile p).1, { state with cursor := (state.cursor.takeWhile p).2 })
  | mark =>
    (.span (.empty state.cursor.place), { state with marks := state.cursor.place :: state.marks })
  | spanFrom back => (.span (state.cursor.spanFrom (state.marked back)), state)
  | error message => (.error (state.cursor.error (.remark message)), state)
  | errorAt message back => (.error (.atPlace (state.marked back) (.remark message)), state)

/-- The answers of a run of operations, each with the place after it. -/
def runAll : State → List Inspection → List (Answer × Place)
  | _, [] => []
  | state, operation :: operations =>
    let (answer, state) := operation.run state
    (answer, state.cursor.place) :: runAll state operations

end Inspection

end JsxTemplate
