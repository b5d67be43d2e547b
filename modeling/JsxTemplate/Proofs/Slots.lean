import Mathlib.Data.List.Basic
import JsxTemplate.Template.Buffer
import JsxTemplate.Proofs.Lexer

/-
  Template literals made from buffers, seen by the lexer: escaped text neither ends a literal nor
  opens a slot, and if the code of every slot closes what it opens, then a template literal leads
  from code back to the same code (`copies_template`).
-/

namespace JsxTemplate

/-! ## Escaped text -/

namespace Lexer

/-- The literal part of a template, perhaps behind a dollar sign. -/
def InRaw (depth : Nat) (outer : List Nat) (lexer : Lexer) : Prop :=
  lexer = ⟨.raw, depth, outer⟩ ∨ lexer = ⟨.dollar, depth, outer⟩

variable {depth : Nat} {outer : List Nat} {lexer : Lexer}

theorem inRaw_raw (depth : Nat) (outer : List Nat) : InRaw depth outer ⟨.raw, depth, outer⟩ :=
  .inl rfl

theorem InRaw.takes (h : InRaw depth outer lexer) (close : Option Char) (draft : Draft)
    (rest : Text) : lexer.Takes close draft rest := by
  rcases h with rfl | rfl <;> exact takes_of_mode (by simp [AtCode]) (by simp)

theorem InRaw.step (h : InRaw depth outer lexer) {c : Char} (hc : c ≠ '{') :
    lexer.step c = rawStep ⟨.raw, depth, outer⟩ c := by
  rcases h with rfl | rfl
  · rfl
  · simp only [Lexer.step]
    rw [if_neg (by simpa using hc)]
    rfl

/-- Escaped text is copied, and the lexer stays in the literal part. Behind a dollar sign the text
must not go on with a brace. -/
theorem copies_escape (h : InRaw depth outer lexer) (text : Text)
    (hdollar : lexer.mode = .dollar → text.head? ≠ some '{') (close : Option Char) (draft : Draft)
    (rest : Text) :
    lexer.Copies close draft (escape text) rest ∧
      InRaw depth outer (lexer.after (escape text)) := by
  induction text generalizing lexer draft with
  | nil => exact ⟨trivial, h⟩
  | cons c text ih =>
    rw [escape]
    split
    next hguard =>
      have hs : lexer.step '\\' = ⟨.rawGuarded, depth, outer⟩ := h.step (by decide)
      have hs' : Lexer.step ⟨.rawGuarded, depth, outer⟩ c = ⟨.raw, depth, outer⟩ := rfl
      have ht : Takes close ⟨.rawGuarded, depth, outer⟩ (draft.push '\\')
          (c :: escape text ++ rest) :=
        takes_of_mode (by simp [AtCode]) (by simp)
      obtain ⟨hcopies, hraw⟩ := ih (inRaw_raw depth outer) (by simp) ((draft.push '\\').push c)
      rw [Copies, Copies, after_cons, after_cons, hs, hs']
      exact ⟨⟨h.takes .., ht, hcopies⟩, hraw⟩
    next hguard =>
      simp only [Bool.or_eq_true, Bool.and_eq_true, beq_iff_eq, not_or, not_and] at hguard
      obtain ⟨⟨hslash, htick⟩, hbrace⟩ := hguard
      have hnext : InRaw depth outer (lexer.step c) ∧
          ((lexer.step c).mode = .dollar → text.head? ≠ some '{') := by
        by_cases hopen : c = '{'
        · subst hopen
          have hraw : lexer = ⟨.raw, depth, outer⟩ := by
            rcases h with hraw | rfl
            · exact hraw
            · exact absurd rfl (hdollar rfl)
          rw [hraw]
          exact ⟨inRaw_raw depth outer, by simp [Lexer.step, rawStep]⟩
        · rw [h.step hopen, rawStep, if_neg (by simpa using hslash), if_neg (by simpa using htick)]
          split
          next hc => exact ⟨.inr rfl, fun _ => hbrace (by simpa using hc)⟩
          next => exact ⟨inRaw_raw depth outer, by simp⟩
      obtain ⟨hcopies, hraw⟩ := ih hnext.1 hnext.2 (draft.push c)
      exact ⟨⟨h.takes .., hcopies⟩, hraw⟩

end Lexer

/-! ## Slots -/

/-- Code that may stand in a slot: behind the brace that opens the slot it is copied whole, and the
brace that closes the slot follows in code, with nothing left open. -/
def IsSlot (code : Text) : Prop :=
  ∀ (depth : Nat) (outer : List Nat) (draft : Draft) (rest : Text), draft.pending.head? = some '{' →
    Lexer.Copies none ⟨.code, 0, depth :: outer⟩ draft code ('}' :: rest) ∧
      Lexer.step (Lexer.after ⟨.code, 0, depth :: outer⟩ code) '}' = ⟨.raw, depth, outer⟩ ∧
      ∀ draft, Lexer.Takes none (Lexer.after ⟨.code, 0, depth :: outer⟩ code) draft ('}' :: rest)

/-- Literals and slots in turn, and slots that may be slots. -/
structure Buffer.Good (buffer : Buffer) : Prop where
  turns : buffer.literals.length = buffer.expressions.length ∨
    buffer.literals.length = buffer.expressions.length + 1
  slots : ∀ code ∈ buffer.expressions, IsSlot code

namespace Buffer

theorem good_empty : empty.Good := ⟨.inl rfl, nofun⟩

theorem length_extendLast (text : Text) {literals : List Text} (h : literals ≠ []) :
    (extendLast text literals).length = literals.length := by
  fun_induction extendLast text literals with
  | case1 => exact absurd rfl h
  | case2 => rfl
  | case3 first second rest ih => simpa using ih (by simp)

theorem Good.addLiteral {buffer : Buffer} (h : buffer.Good) (text : Text) :
    (buffer.addLiteral text).Good := by
  unfold Buffer.addLiteral endsWithLiteral
  split
  next hends =>
    have hlength : buffer.literals.length = buffer.expressions.length + 1 := by simpa using hends
    have hne : buffer.literals ≠ [] := by
      intro hnil
      rw [hnil] at hlength
      cases hlength
    exact ⟨.inr ((length_extendLast text hne).trans hlength), h.slots⟩
  next hends =>
    have hlength : buffer.literals.length = buffer.expressions.length :=
      h.turns.resolve_right (by simpa using hends)
    exact ⟨.inr (by simp [hlength]), h.slots⟩

theorem Good.addExpression {buffer : Buffer} (h : buffer.Good) {code : Text} (hcode : IsSlot code) :
    (buffer.addExpression code).Good := by
  have hslots : ∀ other ∈ buffer.expressions ++ [code], IsSlot other := by
    intro other hmem
    rcases List.mem_append.1 hmem with hmem | hmem
    · exact h.slots other hmem
    · rw [List.mem_singleton.1 hmem]
      exact hcode
  unfold Buffer.addExpression
  split
  next hequal => exact ⟨.inl (by simpa using hequal), hslots⟩
  next hequal =>
    have hlength : buffer.literals.length = buffer.expressions.length + 1 :=
      h.turns.resolve_left (by simpa using hequal)
    exact ⟨.inl (by simpa using hlength), hslots⟩

theorem Good.replay {buffer : Buffer} (h : buffer.Good) {literals expressions : List Text}
    (hslots : ∀ code ∈ expressions, IsSlot code) : (buffer.replay literals expressions).Good := by
  fun_induction Buffer.replay buffer literals expressions with
  | case1 => exact h
  | case2 buffer text literals ih => exact ih (h.addLiteral text) nofun
  | case3 buffer text literals code expressions ih =>
    exact ih ((h.addLiteral text).addExpression (hslots code (by simp)))
      fun other hmem => hslots other (by simp [hmem])

theorem Good.concat {buffer other result : Buffer} (h : buffer.Good) (hother : other.Good)
    (hconcat : buffer.concat other = .ok result) : result.Good := by
  unfold Buffer.concat at hconcat
  split at hconcat
  · cases hconcat
    exact h.replay hother.slots
  · cases hconcat

end Buffer

/-! ## Template literals -/

namespace Lexer

variable {depth : Nat} {outer : List Nat} {lexer : Lexer}

/-- The opening of a slot. -/
theorem InRaw.copies_opening (h : InRaw depth outer lexer) (draft : Draft) (rest : Text) :
    lexer.Copies none draft ['$', '{'] rest ∧
      lexer.after ['$', '{'] = ⟨.code, 0, depth :: outer⟩ := by
  have hs : lexer.step '$' = ⟨.dollar, depth, outer⟩ := h.step (by decide)
  rw [Copies, Copies, after_cons, hs]
  exact ⟨⟨h.takes .., InRaw.takes (.inr rfl) .., trivial⟩, rfl⟩

/-- A slot, from the literal before it to the literal behind it. -/
theorem copies_slot (h : InRaw depth outer lexer) {code : Text} (hcode : IsSlot code)
    (draft : Draft) (rest : Text) :
    lexer.Copies none draft (['$', '{'] ++ code ++ ['}']) rest ∧
      lexer.after (['$', '{'] ++ code ++ ['}']) = ⟨.raw, depth, outer⟩ := by
  obtain ⟨hopening, hinside⟩ := h.copies_opening draft (code ++ '}' :: rest)
  obtain ⟨hcopies, hclose, htakes⟩ := hcode depth outer (draft.pushAll ['$', '{']) rest rfl
  rw [List.append_assoc, copies_append, copies_append, after_append, after_append, hinside,
    List.append_assoc]
  exact ⟨⟨hopening, hcopies, htakes _, trivial⟩, hclose⟩

theorem copies_interleave {literals expressions : List Text}
    (hlength : literals.length = expressions.length + 1)
    (hslots : ∀ code ∈ expressions, IsSlot code) (draft : Draft) (rest : Text) :
    Copies none ⟨.raw, depth, outer⟩ draft
        (Template.interleave (Buffer.segments literals) expressions) rest ∧
      InRaw depth outer
        (after ⟨.raw, depth, outer⟩
          (Template.interleave (Buffer.segments literals) expressions)) := by
  induction expressions generalizing literals draft with
  | nil =>
    obtain ⟨text, rfl⟩ := List.length_eq_one_iff.1 hlength
    have hsource : Template.interleave (Buffer.segments [text]) [] = escape text := by
      simp [Buffer.segments, Template.interleave]
    rw [hsource]
    exact copies_escape (inRaw_raw depth outer) text (by simp) none draft rest
  | cons code expressions ih =>
    match literals, hlength with
    | text :: next :: literals, hlength =>
      have hlength : (next :: literals).length = expressions.length + 1 := by simpa using hlength
      obtain ⟨tail, htail⟩ : ∃ tail,
          Template.interleave (Buffer.segments (next :: literals)) expressions = tail := ⟨_, rfl⟩
      have hsource : Template.interleave (Buffer.segments (text :: next :: literals))
          (code :: expressions) = escape text ++ (['$', '{'] ++ code ++ ['}'] ++ tail) := by
        simp [Buffer.segments, Template.interleave, htail]
      obtain ⟨hescape, hraw⟩ := copies_escape (inRaw_raw depth outer) text (by simp) none draft
        (['$', '{'] ++ code ++ ['}'] ++ tail ++ rest)
      obtain ⟨hslot, hbehind⟩ := copies_slot hraw (hslots code (by simp))
        (draft.pushAll (escape text)) (tail ++ rest)
      obtain ⟨hcopies, hend⟩ := ih hlength (fun other hmem => hslots other (by simp [hmem]))
        ((draft.pushAll (escape text)).pushAll (['$', '{'] ++ code ++ ['}']))
      rw [htail] at hcopies hend
      generalize ['$', '{'] ++ code ++ ['}'] = slot at *
      rw [List.append_assoc] at hescape
      rw [hsource, copies_append, copies_append, after_append, after_append, hbehind,
        List.append_assoc]
      exact ⟨⟨hescape, hslot, hcopies⟩, hend⟩

end Lexer

namespace Buffer

/-- A template literal leads from code back to the code it stands in. -/
theorem Good.copies_template {buffer : Buffer} (h : buffer.Good) {template : Template}
    (hmaterialize : buffer.materialize = .ok template) {lexer : Lexer} (hopen : lexer.Open)
    (draft : Draft) (rest : Text) :
    lexer.Copies none draft template.toSource rest ∧
      lexer.after template.toSource = lexer.inCode := by
  obtain ⟨literals, hlength, rfl⟩ : ∃ literals : List Text,
      literals.length = buffer.expressions.length + 1 ∧
        template = ⟨segments literals, buffer.expressions⟩ := by
    unfold materialize at hmaterialize
    split at hmaterialize
    · cases hmaterialize
      refine ⟨_, ?_, rfl⟩
      split
      next hequal => simpa using hequal
      next hequal => exact h.turns.resolve_left (by simpa using hequal)
    · cases hmaterialize
  have hs : lexer.step '\x60' = ⟨.raw, lexer.depth, lexer.outer⟩ :=
    hopen.step (by decide) (by decide)
  have ht : ∀ rest, lexer.Takes none draft ('\x60' :: rest) := by
    intro rest
    refine Lexer.takes_of_atCode ?_ (fun hc => absurd hc (by decide)) fun hc =>
      absurd hc (by decide)
    rcases hopen with hm | hm <;> simp [Lexer.AtCode, hm]
  obtain ⟨inside, hinside⟩ : ∃ inside,
      Template.interleave (segments literals) buffer.expressions = inside := ⟨_, rfl⟩
  have hcontent : Lexer.Copies none ⟨.raw, lexer.depth, lexer.outer⟩ (draft.push '\x60') inside
        ('\x60' :: rest) ∧
      Lexer.InRaw lexer.depth lexer.outer (Lexer.after ⟨.raw, lexer.depth, lexer.outer⟩ inside) :=
    hinside ▸ Lexer.copies_interleave hlength h.slots _ _
  obtain ⟨hcopies, hraw⟩ := hcontent
  have hend : Lexer.step _ '\x60' = lexer.inCode := hraw.step (by decide)
  unfold Template.toSource
  rw [hinside, List.append_assoc, List.singleton_append, Lexer.Copies, Lexer.after_cons, hs,
    Lexer.copies_append, Lexer.after_append]
  exact ⟨⟨ht _, hcopies, hraw.takes .., trivial⟩, hend⟩

end Buffer

end JsxTemplate
