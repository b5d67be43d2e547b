import Mathlib.Logic.Function.Basic
import JsxTemplate.Template.Escape
import JsxTemplate.Proofs.Steps

/-
  Escaped text read back. `cook?` reads the literal part of a template up to where it ends, at a
  backtick or at a slot, and the reader goes over the same stretch (`template_of_cook?`). What is
  read from escaped text is the text, wherever the literal goes on from there (`cooks_escape`).
-/

namespace JsxTemplate

/-- Literal text up to an unguarded backtick or an unguarded slot, and what stands from there on. A
backslash stands for the character behind it. -/
def cook? : Text → Option (Text × Text)
  | [] => none
  | c :: rest =>
    if c == '\\' then
      match rest with
      | [] => none
      | guarded :: rest => (cook? rest).map fun found => (guarded :: found.1, found.2)
    else if c == '\x60' || (c == '$' && rest.head? == some '{') then some ([], c :: rest)
    else (cook? rest).map fun found => (c :: found.1, found.2)

/-- The literal part of a template ends here. -/
def EndsLiteral (rest : Text) : Prop := ['\x60'] <+: rest ∨ ['$', '{'] <+: rest

theorem cook?_of_endsLiteral {rest : Text} (h : EndsLiteral rest) :
    cook? rest = some ([], rest) := by
  rcases h with ⟨tail, rfl⟩ | ⟨tail, rfl⟩ <;> simp [cook?.eq_def]

theorem EndsLiteral.head?_ne {rest : Text} (h : EndsLiteral rest) : rest.head? ≠ some '{' := by
  rcases h with ⟨tail, rfl⟩ | ⟨tail, rfl⟩ <;> simp

/-- A dollar sign is guarded before a brace of the text itself; behind the text there is none. -/
theorem head?_escape_append {rest : Text} (h : EndsLiteral rest) (text : Text) :
    (escape text ++ rest).head? = some '{' ↔ text.head? = some '{' := by
  cases text with
  | nil => simpa [escape] using h.head?_ne
  | cons c text =>
    rw [escape]
    split
    next hguard =>
      have hc : c ≠ '{' := by
        rintro rfl
        simp at hguard
      simp [hc]
    next => simp

theorem cook?_escape_append {rest : Text} (h : EndsLiteral rest) (text : Text) :
    cook? (escape text ++ rest) = some (text, rest) := by
  induction text with
  | nil => exact cook?_of_endsLiteral h
  | cons c text ih =>
    rw [escape]
    split
    next => simp [cook?, ih]
    next hguard =>
      simp only [Bool.or_eq_true, Bool.and_eq_true, beq_iff_eq, not_or, not_and] at hguard
      obtain ⟨⟨hslash, htick⟩, hdollar⟩ := hguard
      have hends : ¬ ((c == '\x60' ||
          (c == '$' && (escape text ++ rest).head? == some '{')) = true) := by
        simp only [Bool.or_eq_true, Bool.and_eq_true, beq_iff_eq, head?_escape_append h]
        rintro (hc | ⟨hc, hbrace⟩)
        · exact htick hc
        · exact hdollar hc hbrace
      rw [List.cons_append, cook?.eq_def]
      dsimp only
      rw [if_neg (by simpa using hslash), if_neg hends, ih]
      rfl

namespace Reader

/-- The reader copies the literal part of a template up to where `cook?` stops, in one step for each
character that it stands for. -/
theorem template_of_cook? {source text behind : Text} (h : cook? source = some (text, behind)) :
    ∃ raw, source = raw ++ behind ∧ ∀ fuel start draft cursor, cursor.rest = source →
      template (fuel + text.length) start draft cursor =
        template fuel start (draft.pushAll raw) (cursor.past raw) := by
  fun_induction cook? source generalizing text with
  | case1 => cases h
  | case2 => cases h
  | case3 c hguard guarded rest ih =>
    obtain ⟨⟨found, behind⟩, hfound, heq⟩ := Option.map_eq_some_iff.1 h
    cases heq
    obtain ⟨raw, rfl, hraw⟩ := ih hfound
    refine ⟨c :: guarded :: raw, rfl, fun fuel start draft cursor hr => ?_⟩
    have hr' : (cursor.past [c, guarded]).rest = raw ++ behind := Cursor.rest_past hr
    rw [List.length_cons, ← Nat.add_assoc, template, hr]
    dsimp only
    rw [if_pos hguard, hraw fuel start _ _ hr', ← Draft.pushAll_append, ← Cursor.past_append]
    rfl
  | case4 c rest hguard hends =>
    cases h
    exact ⟨[], rfl, fun fuel start draft cursor hr => rfl⟩
  | case5 c rest hguard hends ih =>
    obtain ⟨⟨found, behind⟩, hfound, heq⟩ := Option.map_eq_some_iff.1 h
    cases heq
    obtain ⟨raw, rfl, hraw⟩ := ih hfound
    refine ⟨c :: raw, rfl, fun fuel start draft cursor hr => ?_⟩
    simp only [Bool.or_eq_true, Bool.and_eq_true, beq_iff_eq, not_or, not_and] at hends
    have hhole : ¬ ((c == '$' && cursor.peekNext == '{') = true) := by
      simp only [Bool.and_eq_true, beq_iff_eq, not_and]
      intro hc hnext
      exact hends.2 hc ((peekNext_eq_iff hr (by decide)).1 hnext)
    rw [List.length_cons, ← Nat.add_assoc, template, hr]
    dsimp only
    rw [if_neg hguard, if_neg (by simpa using hends.1), if_neg hhole,
      hraw fuel start _ _ (Cursor.rest_next hr), ← Cursor.past_cons hr]
    rfl

end Reader

/-- Escaped text stands for the text, and ends where the text does: nothing in it ends the literal
or opens a slot, and it swallows neither a backtick nor a slot behind it. The reader copies it whole
and goes on from there. So no two texts are escaped alike. -/
theorem cooks_escape {text rest : Text} (h : EndsLiteral rest) :
    cook? (escape text ++ rest) = some (text, rest) ∧
      (∀ fuel start draft cursor, cursor.rest = escape text ++ rest →
        Reader.template (fuel + text.length) start draft cursor =
          Reader.template fuel start (draft.pushAll (escape text)) (cursor.past (escape text))) ∧
      Function.Injective escape := by
  refine ⟨cook?_escape_append h text, ?_, ?_⟩
  · obtain ⟨raw, hraw, hreads⟩ := Reader.template_of_cook? (cook?_escape_append h text)
    rw [← List.append_cancel_right hraw] at hreads
    exact hreads
  · intro s t hst
    have hs := cook?_escape_append h s
    rw [hst, cook?_escape_append h t] at hs
    exact (congrArg Prod.fst (Option.some.inj hs)).symm

/-- A dollar sign at the end of the text, right before a slot. -/
theorem cooks_escape_before_slot :
    EndsLiteral "$\x7bx\x7d`".toList ∧
      escape "`$\x7b\\$".toList = "\\`\\$\x7b\\\\$".toList ∧
      cook? ("\\`\\$\x7b\\\\$".toList ++ "$\x7bx\x7d`".toList) =
        some ("`$\x7b\\$".toList, "$\x7bx\x7d`".toList) := by
  have hends : EndsLiteral "$\x7bx\x7d`".toList := .inr ⟨"x\x7d`".toList, rfl⟩
  have hescape : escape "`$\x7b\\$".toList = "\\`\\$\x7b\\\\$".toList := by decide
  refine ⟨hends, hescape, ?_⟩
  rw [← hescape]
  exact (cooks_escape hends).1

end JsxTemplate
