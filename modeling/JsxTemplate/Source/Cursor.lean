import JsxTemplate.Text.Blank
import JsxTemplate.Source.Fault

/-
  A cursor: the part of a source that is still to be read, and its place. Looking past the end
  shows the character NUL, which may also stand in a source; `isAtEnd` tells the two apart.
-/

namespace JsxTemplate

structure Cursor where
  rest : Text
  place : Place
  deriving DecidableEq, Repr

namespace Cursor

def ofText (source : Text) : Cursor := ⟨source, .origin⟩

/-- The character `offset` places ahead. A machine adds `offset` to the offset of the place; here
the sum is a number like any other, which stands for it as long as the machine can hold it. -/
def peekAt (cursor : Cursor) (offset : Nat) : Char := cursor.rest.getD offset '\x00'

def peek (cursor : Cursor) : Char := cursor.peekAt 0

def peekNext (cursor : Cursor) : Char := cursor.peekAt 1

def isAtEnd (cursor : Cursor) : Bool := cursor.rest.isEmpty

/-- The first character ahead that is no blank. -/
def peekPastBlanks (cursor : Cursor) : Char :=
  (cursor.rest.dropWhile isBlank).headD '\x00'

/-- The cursor behind the current character; at the end it stays. -/
def next (cursor : Cursor) : Cursor :=
  match cursor.rest with
  | [] => cursor
  | c :: rest => ⟨rest, cursor.place.step c⟩

/-- The current character, and the cursor behind it. -/
def advance (cursor : Cursor) : Char × Cursor := (cursor.peek, cursor.next)

/-- Steps over `wanted` if it is the current character. -/
def eat (cursor : Cursor) (wanted : Char) : Option Cursor :=
  match cursor.rest with
  | [] => none
  | c :: rest => if c == wanted then some ⟨rest, cursor.place.step c⟩ else none

/-- An error at the cursor. -/
def error (cursor : Cursor) (fault : Fault) : ParseError := .atPlace cursor.place fault

/-- Steps over `wanted`, or complains that it is missing. -/
def expect (cursor : Cursor) (wanted : Char) (purpose : Text) : Except ParseError Cursor :=
  match cursor.eat wanted with
  | some cursor => .ok cursor
  | none => .error (cursor.error (.expected wanted purpose cursor.rest.head?))

/-- The cursor behind `taken`, which the rest begins with. -/
def past (cursor : Cursor) (taken : Text) : Cursor :=
  ⟨cursor.rest.drop taken.length, cursor.place.after taken⟩

/-- The longest run of characters ahead that satisfy `p`. -/
def ahead (cursor : Cursor) (p : Char → Bool) : Text := cursor.rest.takeWhile p

/-- The longest run of characters that satisfy `p`, and the cursor behind it. -/
def takeWhile (cursor : Cursor) (p : Char → Bool) : Text × Cursor :=
  (cursor.ahead p, cursor.past (cursor.ahead p))

def skipBlanks (cursor : Cursor) : Cursor := cursor.past (cursor.ahead isBlank)

/-- The span from an earlier place to the cursor. -/
def spanFrom (cursor : Cursor) (start : Place) : Span :=
  ⟨start.offset, cursor.place.offset, start.line, start.column⟩

theorem next_of_rest {cursor : Cursor} {c : Char} {rest : Text} (h : cursor.rest = c :: rest) :
    cursor.next = ⟨rest, cursor.place.step c⟩ := by
  simp [next, h]

theorem rest_next {cursor : Cursor} {c : Char} {rest : Text} (h : cursor.rest = c :: rest) :
    cursor.next.rest = rest := by
  rw [next_of_rest h]

theorem past_nil (cursor : Cursor) : cursor.past [] = cursor := rfl

theorem past_append (cursor : Cursor) (s t : Text) :
    cursor.past (s ++ t) = (cursor.past s).past t := by
  simp [past, Place.after_append, List.drop_drop]

theorem next_eq_past {cursor : Cursor} {c : Char} {rest : Text} (h : cursor.rest = c :: rest) :
    cursor.next = cursor.past [c] := by
  rw [next_of_rest h, past, h]
  rfl

theorem past_cons {cursor : Cursor} {c : Char} {rest : Text} (h : cursor.rest = c :: rest)
    (taken : Text) : cursor.past (c :: taken) = cursor.next.past taken := by
  rw [next_eq_past h, ← past_append]
  rfl

theorem rest_past_ahead (cursor : Cursor) (p : Char → Bool) :
    (cursor.past (cursor.ahead p)).rest = cursor.rest.dropWhile p := by
  have h : cursor.rest = cursor.ahead p ++ cursor.rest.dropWhile p :=
    List.takeWhile_append_dropWhile.symm
  calc (cursor.past (cursor.ahead p)).rest
      = (cursor.ahead p ++ cursor.rest.dropWhile p).drop (cursor.ahead p).length := by
        rw [← h]; rfl
    _ = cursor.rest.dropWhile p := List.drop_left

theorem ahead_append_rest (cursor : Cursor) (p : Char → Bool) :
    cursor.ahead p ++ (cursor.past (cursor.ahead p)).rest = cursor.rest := by
  rw [rest_past_ahead]
  exact List.takeWhile_append_dropWhile

theorem ahead_append_skipBlanks (cursor : Cursor) :
    cursor.ahead isBlank ++ cursor.skipBlanks.rest = cursor.rest :=
  cursor.ahead_append_rest isBlank

/-- The longest run ends before a character that does not satisfy `p`. -/
theorem not_of_head?_past_ahead {cursor : Cursor} {p : Char → Bool} {c : Char}
    (h : c ∈ (cursor.past (cursor.ahead p)).rest.head?) : p c = false := by
  rw [rest_past_ahead] at h
  have := List.head?_dropWhile_not p cursor.rest
  rw [Option.mem_def.1 h] at this
  exact this

theorem rest_past {cursor : Cursor} {taken rest : Text} (h : cursor.rest = taken ++ rest) :
    (cursor.past taken).rest = rest := by
  rw [past, h]
  exact List.drop_left

theorem length_next_of_rest {cursor : Cursor} {c : Char} {rest : Text}
    (h : cursor.rest = c :: rest) : cursor.next.rest.length + 1 = cursor.rest.length := by
  simp [next_of_rest h, h]

theorem length_next_le (cursor : Cursor) : cursor.next.rest.length ≤ cursor.rest.length := by
  unfold next; split <;> simp_all

theorem length_past_le (cursor : Cursor) (taken : Text) :
    (cursor.past taken).rest.length ≤ cursor.rest.length := by
  rw [past, List.length_drop]
  omega

theorem length_past_cons_lt (cursor : Cursor) (c : Char) (taken : Text) (h : cursor.rest ≠ []) :
    (cursor.past (c :: taken)).rest.length < cursor.rest.length := by
  have := List.length_pos_iff.2 h
  rw [past, List.length_drop, List.length_cons]
  omega

theorem length_skipBlanks_le (cursor : Cursor) :
    cursor.skipBlanks.rest.length ≤ cursor.rest.length :=
  length_past_le ..

theorem length_past_ahead_lt {cursor : Cursor} {p : Char → Bool} {c : Char} {rest : Text}
    (h : cursor.rest = c :: rest) (hp : p c = true) :
    (cursor.past (cursor.ahead p)).rest.length < cursor.rest.length := by
  have e : cursor.ahead p = c :: rest.takeWhile p := by
    rw [ahead, h, List.takeWhile_cons_of_pos hp]
  rw [e]
  exact length_past_cons_lt cursor c _ (by rw [h]; exact List.cons_ne_nil c rest)

theorem eat_eq_some_iff {cursor behind : Cursor} {wanted : Char} :
    cursor.eat wanted = some behind ↔
      ∃ rest, cursor.rest = wanted :: rest ∧ behind = ⟨rest, cursor.place.step wanted⟩ := by
  unfold eat
  split
  next h => simp [h]
  next c rest h =>
    by_cases hc : c = wanted
    · simp [h, hc, eq_comm]
    · simp [h, hc]

theorem expect_eq_ok_iff {cursor behind : Cursor} {wanted : Char} {purpose : Text} :
    cursor.expect wanted purpose = .ok behind ↔
      ∃ rest, cursor.rest = wanted :: rest ∧ behind = ⟨rest, cursor.place.step wanted⟩ := by
  rw [← eat_eq_some_iff]
  unfold expect
  split <;> simp_all

end Cursor

end JsxTemplate
