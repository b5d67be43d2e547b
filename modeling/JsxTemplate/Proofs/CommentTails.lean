import JsxTemplate.Reader.Parse
import JsxTemplate.Proofs.Nesting
import JsxTemplate.Proofs.Steps

/-
  What stands behind a comment. A comment is copied whole into the pending code, and the look back
  from a `<` does not tell it from code: it sees the slash that ends a block comment, and the last
  word of a line comment (`atExpressionStart_comment`).
-/

namespace JsxTemplate

inductive Comment where
  | block (body : Text)
  | line (body : Text)

namespace Comment

/-- A comment as written; a line comment has its newline. -/
def text : Comment → Text
  | block body => '/' :: '*' :: body ++ ['*', '/']
  | line body => '/' :: '/' :: body ++ ['\n']

/-- The comment does not end before its end. -/
def Complete : Comment → Prop
  | block body => ¬ ['*', '/'] <:+: body ++ ['*']
  | line body => '\n' ∉ body

/-- Whether the comment, taken for code, ends where an expression may begin. -/
def endsAtStart : Comment → Bool
  | block _ => false
  | line body => !body.isBlank && (Draft.empty.pushAll body).atExpressionStart

end Comment

theorem commentBody_of_complete {body : Text} (h : ¬ ['*', '/'] <:+: body ++ ['*'])
    (rest : Text) : commentBody (body ++ '*' :: '/' :: rest) = some (body ++ ['*', '/']) := by
  induction body with
  | nil => rfl
  | cons c body ih =>
    have hgoesOn : ¬ (c = '*' ∧ (body ++ '*' :: '/' :: rest).head? = some '/') := by
      rintro ⟨rfl, hslash⟩
      cases body with
      | nil => cases hslash
      | cons d body =>
        cases hslash
        exact h ⟨[], body ++ ['*'], rfl⟩
    have hbody : ¬ ['*', '/'] <:+: body ++ ['*'] := fun hend =>
      h (hend.trans (List.suffix_cons c _).isInfix)
    exact commentBody_cons (ih hbody) hgoesOn

namespace Reader

variable {cursor : Cursor} {body rest : Text}

/-- The newline that ends a line comment. -/
theorem code_newline (hr : cursor.rest = '\n' :: rest) (fuel : Nat) (close : Option Char)
    (start : Place) (depth : Nat) (draft : Draft) :
    code (fuel + 1) close start depth draft cursor =
      code fuel close start depth (draft.push '\n') cursor.next := by
  rw [code.eq_def]
  dsimp only
  rw [hr]
  rfl

theorem code_lineComment (h : '\n' ∉ body) (hr : cursor.rest = '/' :: '/' :: body ++ '\n' :: rest)
    (fuel : Nat) (close : Option Char) (start : Place) (depth : Nat) (draft : Draft) :
    code (fuel + 1) close start depth draft cursor =
      code fuel close start depth (draft.pushAll ('/' :: '/' :: body))
        (cursor.past ('/' :: '/' :: body)) := by
  have hnext : cursor.peekNext = '/' := (peekNext_eq_iff hr (by decide)).2 rfl
  have hahead : cursor.ahead (· != '\n') = '/' :: '/' :: body := by
    have hbody : ∀ c ∈ '/' :: '/' :: body, (c != '\n') = true := by
      intro c hc
      rw [bne_iff_ne]
      rintro rfl
      exact h (by simpa using hc)
    rw [Cursor.ahead, hr, List.takeWhile_append_of_pos hbody]
    simp
  rw [code.eq_def]
  dsimp only
  rw [hr]
  simp [isOpener, isCloser, hnext, hahead]

theorem code_blockComment (h : ¬ ['*', '/'] <:+: body ++ ['*'])
    (hr : cursor.rest = '/' :: '*' :: body ++ '*' :: '/' :: rest) (fuel : Nat)
    (close : Option Char) (start : Place) (depth : Nat) (draft : Draft) :
    code (fuel + 1) close start depth draft cursor =
      code fuel close start depth (draft.pushAll ('/' :: '*' :: body ++ ['*', '/']))
        (cursor.past ('/' :: '*' :: body ++ ['*', '/'])) := by
  have hnext : cursor.peekNext = '*' := (peekNext_eq_iff hr (by decide)).2 rfl
  rw [code.eq_def]
  dsimp only
  rw [hr]
  simp [isOpener, isCloser, hnext, commentBody_of_complete h rest]

/-- A comment in code is copied whole, and reading goes on behind it as before. -/
theorem code_comment {comment : Comment} (h : comment.Complete)
    (hr : cursor.rest = comment.text ++ rest) (close : Option Char) (depth : Nat) (draft : Draft) :
    ∃ spent, ∀ fuel start, code (fuel + spent) close start depth draft cursor =
      code fuel close start depth (draft.pushAll comment.text) (cursor.past comment.text) := by
  cases comment with
  | block body =>
    have hr : cursor.rest = '/' :: '*' :: body ++ '*' :: '/' :: rest := by
      simpa [Comment.text] using hr
    exact ⟨1, fun fuel start => code_blockComment h hr fuel close start depth draft⟩
  | line body =>
    have hr : cursor.rest = '/' :: '/' :: body ++ '\n' :: rest := by
      simpa [Comment.text] using hr
    have hend : (cursor.past ('/' :: '/' :: body)).rest = '\n' :: rest := Cursor.rest_past hr
    refine ⟨2, fun fuel start => ?_⟩
    rw [Comment.text, Draft.pushAll_append, Cursor.past_append, ← Cursor.next_eq_past hend]
    exact (code_lineComment h hr (fuel + 1) close start depth draft).trans
      (code_newline hend fuel close start depth _)

end Reader

namespace Draft

/-- Behind a slash no expression begins. -/
theorem atExpressionStart_of_slash {draft : Draft} {before : Text}
    (h : draft.pending.dropWhile isBlank = '/' :: before) : draft.atExpressionStart = false := by
  have hword : ('/' :: before).takeWhile isIdentifierChar = [] :=
    List.takeWhile_cons_of_neg (by decide)
  rw [atExpressionStart_of_last h, hword]
  rfl

theorem atExpressionStart_blockComment (draft : Draft) (body : Text) :
    (draft.pushAll (Comment.block body).text).atExpressionStart = false := by
  have hpending : (draft.pushAll (Comment.block body).text).pending =
      '/' :: '*' :: (body.reverse ++ '*' :: '/' :: draft.pending) := by
    rw [pushAll_pending]
    simp [Comment.text]
  apply atExpressionStart_of_slash
  rw [hpending]
  exact List.dropWhile_cons_of_neg (by decide)

/-- The newline does not matter, and neither does what stands before the slashes, if there is more
than blanks behind them. -/
theorem atExpressionStart_lineComment (draft : Draft) (body : Text) :
    (draft.pushAll (Comment.line body).text).atExpressionStart =
      (!body.isBlank && (empty.pushAll body).atExpressionStart) := by
  have hdraft : draft.pushAll (Comment.line body).text =
      ⟨draft.nodes, '\n' :: body.reverse ++ '/' :: '/' :: draft.pending⟩ := by
    simp [pushAll, List.reverseAux_eq, Comment.text]
  have hnewline : isBlank '\n' = true := by decide
  have hblanks : (∀ c ∈ '\n' :: body.reverse, isBlank c = true) ↔ body.isBlank = true := by
    simp [hnewline, Text.isBlank]
  rw [hdraft]
  by_cases hblank : body.isBlank = true
  · have hslash : ('\n' :: body.reverse ++ '/' :: '/' :: draft.pending).dropWhile isBlank =
        '/' :: '/' :: draft.pending := by
      rw [List.dropWhile_append_of_pos (hblanks.2 hblank)]
      exact List.dropWhile_cons_of_neg (by decide)
    rw [hblank]
    exact atExpressionStart_of_slash hslash
  · have hne : ('\n' :: body.reverse).dropWhile isBlank ≠ [] := by
      rw [ne_eq, List.dropWhile_eq_nil_iff]
      exact mt hblanks.1 hblank
    have hbody : atExpressionStart ⟨[], '\n' :: body.reverse⟩ =
        (empty.pushAll body).atExpressionStart := by
      unfold atExpressionStart
      rw [List.dropWhile_cons_of_pos hnewline, pushAll_pending]
      simp [empty, pushAll]
    have hslash : ∀ c ∈ ('/' :: '/' :: draft.pending).head?,
        c ≠ '+' ∧ c ≠ '-' ∧ isIdentifierChar c = false := by
      rintro c ⟨⟩
      decide
    rw [atExpressionStart_append hne hslash, hbody]
    simp [hblank]

end Draft

/-- Behind a comment, which is copied whole, the comment alone decides whether an expression may
begin: behind a block comment none does, and behind a line comment one does if its words would end
so as code. So a comment is passed over exactly where the code before it ends in the same way. -/
theorem atExpressionStart_comment {comment : Comment} (h : comment.Complete) (draft : Draft) :
    (∀ close depth cursor rest, cursor.rest = comment.text ++ rest →
      ∃ spent, ∀ fuel start, Reader.code (fuel + spent) close start depth draft cursor =
        Reader.code fuel close start depth (draft.pushAll comment.text)
          (cursor.past comment.text)) ∧
      (draft.pushAll comment.text).atExpressionStart = comment.endsAtStart ∧
      ((draft.pushAll comment.text).atExpressionStart = draft.atExpressionStart ↔
        draft.atExpressionStart = comment.endsAtStart) := by
  have hstart : (draft.pushAll comment.text).atExpressionStart = comment.endsAtStart := by
    cases comment with
    | block body => exact draft.atExpressionStart_blockComment body
    | line body => exact draft.atExpressionStart_lineComment body
  refine ⟨fun close depth cursor rest hr => Reader.code_comment h hr close depth draft, hstart, ?_⟩
  rw [hstart]
  exact eq_comm

/-- An element behind an equals sign is read as one, and behind a comment there it is not; a line
comment that ends in `return` makes an element of a comparison. -/
theorem atExpressionStart_comment_hides :
    Comment.Complete (.block " c ".toList) ∧ Comment.Complete (.line " return".toList) ∧
      (Draft.empty.pushAll "x = ".toList).atExpressionStart = true ∧
      ((Draft.empty.pushAll "x = ".toList).pushAll "/* c */".toList).atExpressionStart = false ∧
      (parse "x = <a/>".toList).toOption.map Expression.containsMarkup = some true ∧
      (parse "x = /* c */ <a/>".toList).toOption.map Expression.containsMarkup = some false ∧
      (Draft.empty.pushAll "x ".toList).atExpressionStart = false ∧
      ((Draft.empty.pushAll "x ".toList).pushAll "// return\n".toList).atExpressionStart = true ∧
      (parse "x <a/>".toList).toOption.map Expression.containsMarkup = some false ∧
      (parse "x // return\n<a/>".toList).toOption.map Expression.containsMarkup = some true := by
  have hblock : Comment.Complete (.block " c ".toList) := by
    unfold Comment.Complete
    decide
  have hline : Comment.Complete (.line " return".toList) := by
    unfold Comment.Complete
    decide
  exact ⟨hblock, hline, by decide, (atExpressionStart_comment hblock _).2.1, by decide +kernel,
    by decide +kernel, by decide, (atExpressionStart_comment hline _).2.1, by decide +kernel,
    by decide +kernel⟩

end JsxTemplate
