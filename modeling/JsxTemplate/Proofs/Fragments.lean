import Mathlib.Data.List.Induction
import JsxTemplate.Template.Buffer

/-
  What a buffer holds, told from what was added to it. The fragments added are texts and slots in
  order; the slots stay apart and the texts between two slots become one literal. So the fragments
  determine the buffer (`Buffer.ofFragments`): adding to it is appending a fragment, `concat` is
  appending all fragments of the operand, and a closed buffer is the template of its fragments
  (`materialize_ofFragments`).
-/

namespace JsxTemplate

/-- Something added to a template under construction. -/
inductive Fragment where
  | literal (text : Text)
  | slot (code : Text)
  deriving DecidableEq, Repr

namespace Fragment

def isSlot : Fragment → Bool
  | literal _ => false
  | slot _ => true

/-- The text of a literal; a slot has none. -/
def text : Fragment → Text
  | literal text => text
  | slot _ => []

/-- The code of a slot. -/
def code? : Fragment → Option Text
  | literal _ => none
  | slot code => some code

/-- The slots, in order. -/
def slots (fragments : List Fragment) : List Text := fragments.filterMap code?

/-- The texts before, between and behind the slots, each put together from all its literals. -/
def gaps (fragments : List Fragment) : List Text :=
  (fragments.splitOnP isSlot).map fun run => run.flatMap text

/-- Whether a literal comes last. -/
def endsInLiteral (fragments : List Fragment) : Bool :=
  fragments.getLast?.map isSlot == some false

theorem slots_append (fragments others : List Fragment) :
    slots (fragments ++ others) = slots fragments ++ slots others :=
  List.filterMap_append

theorem gaps_nil : gaps [] = [[]] := rfl

theorem gaps_literal (text : Text) (fragments : List Fragment) :
    gaps (.literal text :: fragments) = (gaps fragments).modifyHead (text ++ ·) := by
  have hsplit : (Fragment.literal text :: fragments).splitOnP isSlot =
      (fragments.splitOnP isSlot).modifyHead (.literal text :: ·) := by
    rw [List.splitOnP_cons_eq_if_modifyHead, if_neg (by simp [isSlot])]
  rw [gaps, hsplit, gaps]
  cases fragments.splitOnP isSlot with
  | nil => rfl
  | cons run runs => rfl

theorem gaps_slot (code : Text) (fragments : List Fragment) :
    gaps (.slot code :: fragments) = [] :: gaps fragments := by
  rw [gaps, List.splitOnP_cons_eq_if_modifyHead, if_pos (by simp [isSlot])]
  rfl

theorem length_gaps (fragments : List Fragment) :
    (gaps fragments).length = (slots fragments).length + 1 := by
  induction fragments with
  | nil => rfl
  | cons fragment fragments ih =>
    cases fragment with
    | literal text => rw [gaps_literal, List.length_modifyHead, ih]; rfl
    | slot code => rw [gaps_slot, List.length_cons, ih]; rfl

theorem gaps_ne_nil (fragments : List Fragment) : gaps fragments ≠ [] := by
  intro h
  have := length_gaps fragments
  rw [h] at this
  cases this

/-- Behind given fragments, only the gaps of what follows count. -/
theorem gaps_append_congr (fragments : List Fragment) {others others' : List Fragment}
    (h : gaps others = gaps others') :
    gaps (fragments ++ others) = gaps (fragments ++ others') := by
  induction fragments with
  | nil => exact h
  | cons fragment fragments ih =>
    cases fragment with
    | literal text => rw [List.cons_append, List.cons_append, gaps_literal, gaps_literal, ih]
    | slot code => rw [List.cons_append, List.cons_append, gaps_slot, gaps_slot, ih]

theorem gaps_append_slot (fragments : List Fragment) (code : Text) :
    gaps (fragments ++ [.slot code]) = gaps fragments ++ [[]] := by
  induction fragments with
  | nil => rfl
  | cons fragment fragments ih =>
    cases fragment with
    | literal text =>
      rw [List.cons_append, gaps_literal, gaps_literal, ih]
      cases h : gaps fragments with
      | nil => exact absurd h (gaps_ne_nil fragments)
      | cons first rest => rfl
    | slot other => rw [List.cons_append, gaps_slot, gaps_slot, ih]; rfl

/-- A literal goes to the text behind the last slot. -/
theorem gaps_append_literal (fragments : List Fragment) (text : Text) :
    gaps (fragments ++ [.literal text]) = Buffer.extendLast text (gaps fragments) := by
  induction fragments with
  | nil => simp [gaps_literal, gaps_nil, Buffer.extendLast]
  | cons fragment fragments ih =>
    cases h : gaps fragments with
    | nil => exact absurd h (gaps_ne_nil fragments)
    | cons first rest =>
      cases fragment with
      | literal other =>
        rw [List.cons_append, gaps_literal, gaps_literal, ih, h]
        cases rest <;> simp [Buffer.extendLast]
      | slot code =>
        rw [List.cons_append, gaps_slot, gaps_slot, ih, h]
        rfl

theorem endsInLiteral_append_literal (fragments : List Fragment) (text : Text) :
    endsInLiteral (fragments ++ [.literal text]) = true := by
  simp [endsInLiteral, isSlot]

theorem endsInLiteral_append_slot (fragments : List Fragment) (code : Text) :
    endsInLiteral (fragments ++ [.slot code]) = false := by
  simp [endsInLiteral, isSlot]

/-- Unless a literal comes last, there is no text behind the last slot. -/
theorem gaps_of_not_endsInLiteral {fragments : List Fragment}
    (h : endsInLiteral fragments = false) :
    gaps fragments = (gaps fragments).dropLast ++ [[]] := by
  induction fragments using List.reverseRecOn with
  | nil => rfl
  | append_singleton fragments fragment =>
    cases fragment with
    | literal text => rw [endsInLiteral_append_literal] at h; cases h
    | slot code => rw [gaps_append_slot, List.dropLast_concat]

end Fragment

open Fragment

/-! ## Buffers and their fragments -/

namespace Buffer

/-- The buffer that fragments make, when they are added to an empty one. -/
def ofFragments (fragments : List Fragment) : Buffer :=
  ⟨if endsInLiteral fragments then gaps fragments else (gaps fragments).dropLast, slots fragments⟩

theorem ofFragments_nil : ofFragments [] = empty := rfl

theorem extendLast_append (literals : List Text) (last text : Text) :
    extendLast text (literals ++ [last]) = literals ++ [last ++ text] := by
  induction literals with
  | nil => rfl
  | cons first literals ih =>
    cases literals with
    | nil => rfl
    | cons second rest => exact congrArg (first :: ·) ih

section OfFragments

variable (fragments : List Fragment)

theorem ofFragments_of_literal {fragments : List Fragment} (h : endsInLiteral fragments = true) :
    ofFragments fragments = ⟨gaps fragments, slots fragments⟩ := by
  rw [ofFragments, if_pos h]

theorem ofFragments_of_not_literal {fragments : List Fragment}
    (h : endsInLiteral fragments = false) :
    ofFragments fragments = ⟨(gaps fragments).dropLast, slots fragments⟩ := by
  rw [ofFragments, if_neg (by simp [h])]

/-- A buffer that ends with a literal has one more literal than slots, any other as many. -/
theorem length_literals_ofFragments :
    (ofFragments fragments).literals.length =
      (ofFragments fragments).expressions.length + (endsInLiteral fragments).toNat := by
  have hlength := length_gaps fragments
  cases h : endsInLiteral fragments with
  | true => rw [ofFragments_of_literal h]; exact hlength
  | false =>
    rw [ofFragments_of_not_literal h]
    simp [hlength]

theorem turns_ofFragments :
    (ofFragments fragments).literals.length = (ofFragments fragments).expressions.length ∨
      (ofFragments fragments).literals.length =
        (ofFragments fragments).expressions.length + 1 := by
  rw [length_literals_ofFragments]
  cases endsInLiteral fragments with
  | true => exact .inr rfl
  | false => exact .inl rfl

/-- With as many literals as slots, only the empty gap behind the last slot is missing. -/
theorem literals_append_ofFragments
    (h : (ofFragments fragments).literals.length = (ofFragments fragments).expressions.length) :
    (ofFragments fragments).literals ++ [[]] = gaps fragments := by
  rw [length_literals_ofFragments] at h
  cases hends : endsInLiteral fragments with
  | true => simp [hends] at h
  | false =>
    rw [ofFragments_of_not_literal hends]
    exact (gaps_of_not_endsInLiteral hends).symm

theorem literals_ofFragments
    (h : (ofFragments fragments).literals.length ≠ (ofFragments fragments).expressions.length) :
    (ofFragments fragments).literals = gaps fragments := by
  rw [length_literals_ofFragments] at h
  cases hends : endsInLiteral fragments with
  | true => rw [ofFragments_of_literal hends]
  | false => simp [hends] at h

theorem isWellFormed_ofFragments : (ofFragments fragments).isWellFormed = true := by
  have hlength := length_literals_ofFragments fragments
  rw [isWellFormed, decide_eq_true_eq]
  omega

theorem addLiteral_ofFragments (text : Text) :
    (ofFragments fragments).addLiteral text = ofFragments (fragments ++ [.literal text]) := by
  have hslots : slots (fragments ++ [.literal text]) = slots fragments := by
    rw [slots_append]
    exact List.append_nil _
  have hends : (ofFragments fragments).endsWithLiteral = endsInLiteral fragments := by
    rw [endsWithLiteral, length_literals_ofFragments]
    cases endsInLiteral fragments <;> simp
  rw [ofFragments_of_literal (endsInLiteral_append_literal fragments text), hslots,
    gaps_append_literal, addLiteral, hends]
  cases h : endsInLiteral fragments with
  | true => rw [if_pos rfl, ofFragments_of_literal h]
  | false =>
    -- The new literal fills the empty gap behind the last slot.
    rw [if_neg (by simp), ofFragments_of_not_literal h]
    generalize hliterals : (gaps fragments).dropLast = literals
    have hgaps : gaps fragments = literals ++ [[]] := by
      rw [← hliterals]
      exact gaps_of_not_endsInLiteral h
    rw [hgaps, extendLast_append]
    rfl

theorem addExpression_ofFragments (code : Text) :
    (ofFragments fragments).addExpression code = ofFragments (fragments ++ [.slot code]) := by
  have hslots : slots (fragments ++ [.slot code]) = slots fragments ++ [code] :=
    slots_append fragments _
  rw [ofFragments_of_not_literal (endsInLiteral_append_slot fragments code), hslots,
    gaps_append_slot, List.dropLast_concat, addExpression]
  split
  next h => rw [literals_append_ofFragments fragments (by simpa using h)]; rfl
  next h => rw [literals_ofFragments fragments (by simpa using h)]; rfl

end OfFragments

/-! ## Appending buffers -/

/-- Fragments may be replaced by others with the same slots and gaps that end alike. -/
theorem ofFragments_append_congr (added : List Fragment) {others others' : List Fragment}
    (hgaps : gaps others = gaps others') (hslots : slots others = slots others')
    (hlast : others.getLast?.map isSlot = others'.getLast?.map isSlot) :
    ofFragments (added ++ others) = ofFragments (added ++ others') := by
  have hends : endsInLiteral (added ++ others) = endsInLiteral (added ++ others') := by
    rw [endsInLiteral, endsInLiteral, List.getLast?_append, List.getLast?_append, Option.map_or,
      Option.map_or, hlast]
  rw [ofFragments, ofFragments, hends, gaps_append_congr added hgaps, slots_append, slots_append,
    hslots]

/-- Literals and slots in turn, as far as the literals go. -/
def turns : List Text → List Text → List Fragment
  | [], _ => []
  | text :: literals, [] => .literal text :: turns literals []
  | text :: literals, code :: expressions =>
    .literal text :: .slot code :: turns literals expressions

/-- The literals and slots of a buffer, one by one; literals beyond the last slot count. -/
def fragments (buffer : Buffer) : List Fragment := turns buffer.literals buffer.expressions

theorem replay_ofFragments (added : List Fragment) (literals expressions : List Text) :
    (ofFragments added).replay literals expressions =
      ofFragments (added ++ turns literals expressions) := by
  fun_induction turns literals expressions generalizing added with
  | case1 => rw [replay, List.append_nil]
  | case2 text literals ih =>
    rw [replay, addLiteral_ofFragments, ih, List.append_assoc]
    rfl
  | case3 text literals code expressions ih =>
    rw [replay, addLiteral_ofFragments, addExpression_ofFragments, ih, List.append_assoc,
      List.append_assoc]
    rfl

/-- An operand with at least as many literals as slots is appended fragment by fragment. -/
theorem concat_of_isWellFormed (added : List Fragment) {other : Buffer}
    (h : other.isWellFormed = true) :
    (ofFragments added).concat other = .ok (ofFragments (added ++ other.fragments)) := by
  rw [concat, if_pos h, replay_ofFragments]
  rfl

section Turns

variable {literals expressions : List Text}

theorem slots_turns (h : expressions.length ≤ literals.length) :
    slots (turns literals expressions) = expressions := by
  fun_induction turns literals expressions with
  | case1 expressions => exact (List.length_eq_zero_iff.1 (Nat.le_zero.1 h)).symm
  | case2 text literals ih => exact ih (Nat.zero_le _)
  | case3 text literals code expressions ih =>
    exact congrArg (code :: ·) (ih (Nat.le_of_succ_le_succ h))

theorem turns_append_literal (h : literals.length = expressions.length) (text : Text) :
    turns (literals ++ [text]) expressions = turns literals expressions ++ [.literal text] := by
  fun_induction turns literals expressions with
  | case1 expressions => rw [List.length_eq_zero_iff.1 h.symm]; rfl
  | case2 => cases h
  | case3 first literals code expressions ih =>
    rw [List.cons_append, turns, ih (by simpa using h)]
    rfl

theorem turns_append_slot (h : literals.length = expressions.length + 1) (code : Text) :
    turns literals (expressions ++ [code]) = turns literals expressions ++ [.slot code] := by
  fun_induction turns literals expressions with
  | case1 => cases h
  | case2 text literals => rw [List.length_eq_zero_iff.1 (Nat.succ.inj h)]; rfl
  | case3 text literals other expressions ih =>
    rw [List.cons_append, turns, ih (by simpa using h)]
    rfl

/-- Of literals and slots in turn, the literals are the gaps. -/
theorem gaps_turns (h : literals.length = expressions.length + 1) :
    gaps (turns literals expressions) = literals := by
  fun_induction turns literals expressions with
  | case1 => cases h
  | case2 text literals =>
    rw [List.length_eq_zero_iff.1 (Nat.succ.inj h), turns, gaps_literal, gaps_nil]
    simp
  | case3 text literals code expressions ih =>
    rw [gaps_literal, gaps_slot, ih (by simpa using h)]
    simp

end Turns

/-- A literal that came last still does when the fragments are taken from the buffer. -/
theorem getLast?_fragments_of_literal {added : List Fragment} (h : endsInLiteral added = true) :
    (ofFragments added).fragments.getLast?.map isSlot = some false := by
  have hlength := length_gaps added
  obtain ⟨literals, last, hgaps⟩ : ∃ literals last, gaps added = literals ++ [last] :=
    ⟨_, _, (List.dropLast_concat_getLast (gaps_ne_nil added)).symm⟩
  rw [hgaps, List.length_append, List.length_singleton] at hlength
  rw [ofFragments_of_literal h, fragments, hgaps, turns_append_literal (Nat.succ.inj hlength)]
  simp [isSlot]

/-- The fragments of a buffer are as good as those it was made from, whatever stands before. -/
theorem ofFragments_append_fragments (added others : List Fragment) :
    ofFragments (added ++ (ofFragments others).fragments) = ofFragments (added ++ others) := by
  have hslots : slots (ofFragments others).fragments = slots others :=
    slots_turns (of_decide_eq_true (isWellFormed_ofFragments others))
  -- Only the last fragment matters: it decides whether the last gap is a literal of the buffer.
  induction others using List.reverseRecOn with
  | nil => rfl
  | append_singleton others fragment =>
    cases fragment with
    | literal text =>
      have hends := endsInLiteral_append_literal others text
      refine ofFragments_append_congr added ?_ hslots ?_
      · rw [ofFragments_of_literal hends]
        exact gaps_turns (length_gaps _)
      · rw [getLast?_fragments_of_literal hends]
        simp [isSlot]
    | slot code =>
      have hfragments : (ofFragments (others ++ [.slot code])).fragments =
          turns (gaps others) (slots others) ++ [.slot code] := by
        rw [ofFragments_of_not_literal (endsInLiteral_append_slot others code), gaps_append_slot,
          List.dropLast_concat, slots_append]
        exact turns_append_slot (length_gaps others) code
      refine ofFragments_append_congr added ?_ hslots ?_
      · rw [hfragments, gaps_append_slot, gaps_append_slot, gaps_turns (length_gaps others)]
      · rw [hfragments]
        simp

/-- Appending buffers is appending their fragments. -/
theorem concat_ofFragments (added others : List Fragment) :
    (ofFragments added).concat (ofFragments others) = .ok (ofFragments (added ++ others)) := by
  rw [concat_of_isWellFormed added (isWellFormed_ofFragments others), ofFragments_append_fragments]

end Buffer

/-! ## Templates -/

/-- The template of fragments: each gap is a segment, and the one behind all slots is the tail. -/
def Template.ofFragments (fragments : List Fragment) : Template :=
  ⟨(gaps fragments).mapIdx fun i text => ⟨escape text, text, i == (slots fragments).length⟩,
    slots fragments⟩

theorem Buffer.segments_eq_mapIdx (literals : List Text) :
    segments literals =
      literals.mapIdx fun i text => ⟨escape text, text, i + 1 == literals.length⟩ := by
  fun_induction segments literals with
  | case1 => rfl
  | case2 text => rfl
  | case3 text next rest ih => rw [ih]; simp [List.mapIdx_cons]

theorem Buffer.materialize_ofFragments (fragments : List Fragment) :
    (ofFragments fragments).materialize = .ok (.ofFragments fragments) := by
  have hliterals : (if (ofFragments fragments).literals.length ==
        (ofFragments fragments).expressions.length then (ofFragments fragments).literals ++ [[]]
      else (ofFragments fragments).literals) = gaps fragments := by
    split
    next h => exact literals_append_ofFragments fragments (by simpa using h)
    next h => exact literals_ofFragments fragments (by simpa using h)
  rw [materialize, if_pos (isWellFormed_ofFragments fragments), hliterals]
  dsimp only
  rw [segments_eq_mapIdx, length_gaps, Template.ofFragments]
  simp [ofFragments]

end JsxTemplate
