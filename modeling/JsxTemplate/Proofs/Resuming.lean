import JsxTemplate.Proofs.Reads

/-
  From steps back to reading. A reader may be stopped between any two characters, in the middle of
  a string, a comment or a template literal; `Resumes` says what reading on from there gives. One
  step changes nothing about that (`resumes_of_step`), so a run of steps that ends where the code
  ends is a reading of that code (`codeReads_of_steps`).
-/

namespace JsxTemplate.Reader

/-- Reading on in code, with the templates around it suspended. -/
def CodeResumes (close : Option Char) : Nat → List Nat → Draft → Cursor → Draft × Cursor → Prop
  | depth, [], draft, cursor, result => CodeReads close depth draft cursor result
  | depth, outside :: outer, draft, cursor, result =>
    ∃ draft₁ cursor₁ rest draft₂ cursor₂,
      CodeReads (some '}') depth draft cursor (draft₁, cursor₁) ∧ cursor₁.rest = '}' :: rest ∧
        TemplateReads (draft₁.push '}') cursor₁.next (draft₂, cursor₂) ∧
        CodeResumes close outside outer draft₂ cursor₂ result

/-- Reading on in the literal part of a template. -/
def RawResumes (close : Option Char) (depth : Nat) (outer : List Nat) (draft : Draft)
    (cursor : Cursor) (result : Draft × Cursor) : Prop :=
  ∃ draft₁ cursor₁, TemplateReads draft cursor (draft₁, cursor₁) ∧
    CodeResumes close depth outer draft₁ cursor₁ result

/-- Reading on in code behind `taken`. -/
def ResumesPast (close : Option Char) (lexer : Lexer) (draft : Draft) (cursor : Cursor)
    (taken : Text) (result : Draft × Cursor) : Prop :=
  CodeResumes close lexer.depth lexer.outer (draft.pushAll taken) (cursor.past taken) result

/-- Reading on from wherever the lexer is. -/
def Resumes (close : Option Char) (lexer : Lexer) (draft : Draft) (cursor : Cursor)
    (result : Draft × Cursor) : Prop :=
  match lexer.mode with
  | .code => ResumesPast close lexer draft cursor [] result
  | .slash =>
    match cursor.rest with
    | '/' :: _ => ResumesPast close lexer draft cursor (cursor.ahead (· != '\n')) result
    | '*' :: rest =>
      ∃ body, commentBody rest = some body ∧
        ResumesPast close lexer draft cursor ('*' :: body) result
    | _ => ResumesPast close lexer draft cursor [] result
  | .line => ResumesPast close lexer draft cursor (cursor.ahead (· != '\n')) result
  | .block =>
    ∃ body, commentBody cursor.rest = some body ∧ ResumesPast close lexer draft cursor body result
  | .star =>
    ∃ body, commentBody ('*' :: cursor.rest) = some ('*' :: body) ∧
      ResumesPast close lexer draft cursor body result
  | .string quote =>
    ∃ body, stringBody quote cursor.rest = some body ∧
      ResumesPast close lexer draft cursor body result
  | .guarded quote =>
    ∃ c rest body, cursor.rest = c :: rest ∧ stringBody quote rest = some body ∧
      ResumesPast close lexer draft cursor (c :: body) result
  | .raw => RawResumes close lexer.depth lexer.outer draft cursor result
  | .rawGuarded =>
    ∃ c rest, cursor.rest = c :: rest ∧
      RawResumes close lexer.depth lexer.outer (draft.push c) cursor.next result
  | .dollar =>
    if cursor.rest.head? = some '{' then
      CodeResumes close 0 (lexer.depth :: lexer.outer) (draft.push '{') cursor.next result
    else RawResumes close lexer.depth lexer.outer draft cursor result

variable {close : Option Char} {lexer : Lexer} {depth depth' : Nat} {outer : List Nat}
  {draft draft' : Draft} {cursor cursor' behind : Cursor} {result : Draft × Cursor} {c : Char}
  {rest : Text}

/-- What the innermost code reads as decides how reading goes on. -/
theorem CodeResumes.imp
    (h : ∀ result,
      CodeReads (if outer.isEmpty then close else some '}') depth' draft' cursor' result →
      CodeReads (if outer.isEmpty then close else some '}') depth draft cursor result)
    (hresumes : CodeResumes close depth' outer draft' cursor' result) :
    CodeResumes close depth outer draft cursor result := by
  cases outer with
  | nil => exact h result hresumes
  | cons outside outer =>
    obtain ⟨draft₁, cursor₁, rest, draft₂, cursor₂, hcode, hrest⟩ := hresumes
    exact ⟨draft₁, cursor₁, rest, draft₂, cursor₂, h _ hcode, hrest⟩

theorem resumesPast_cons (hr : cursor.rest = c :: rest) (taken : Text) :
    ResumesPast close lexer (draft.push c) cursor.next taken result ↔
      ResumesPast close lexer draft cursor (c :: taken) result := by
  rw [ResumesPast, ResumesPast, Cursor.past_cons hr]
  rfl

theorem resumes_iff_of_atCode (hc : lexer.AtCode cursor.rest) :
    Resumes close lexer draft cursor result ↔
      CodeResumes close lexer.depth lexer.outer draft cursor result := by
  obtain ⟨mode, depth, outer⟩ := lexer
  cases mode with
  | code => exact Iff.rfl
  | slash =>
    unfold Resumes
    dsimp only
    split
    next hr => exact absurd (by rw [hr]; rfl) hc.1
    next hr => exact absurd (by rw [hr]; rfl) hc.2
    next => exact Iff.rfl
  | line =>
    have hnil : cursor.ahead (· != '\n') = [] := by
      unfold Cursor.ahead
      cases hr : cursor.rest with
      | nil => rfl
      | cons c rest =>
        have hnewline : c = '\n' := hc c (by rw [hr]; rfl)
        simp [hnewline]
    unfold Resumes ResumesPast
    rw [hnil]
    exact Iff.rfl
  | _ => exact hc.elim

/-! ## Copying a character -/

theorem ahead_cons {p : Char → Bool} (hr : cursor.rest = c :: rest) (hp : p c = true) :
    cursor.ahead p = c :: cursor.next.ahead p := by
  rw [Cursor.ahead, hr, List.takeWhile_cons_of_pos hp, Cursor.ahead, Cursor.rest_next hr]

/-- A slash in code: a comment, or a character like any other. -/
theorem resumes_slash (hr : cursor.rest = '/' :: rest)
    (h : Resumes close { lexer with mode := .slash } (draft.push '/') cursor.next result) :
    CodeResumes close lexer.depth lexer.outer draft cursor result := by
  have hnext : cursor.next.rest = rest := Cursor.rest_next hr
  unfold Resumes at h
  dsimp only at h
  split at h
  next tail htail =>
    rw [resumesPast_cons hr, ← ahead_cons hr (by decide)] at h
    exact h.imp fun _ => CodeReads.lineComment (by rw [hr, ← hnext, htail])
  next tail htail =>
    obtain ⟨body, hbody, h⟩ := h
    rw [resumesPast_cons hr] at h
    exact h.imp fun _ => CodeReads.blockComment (by rw [hr, ← hnext, htail]) hbody
  next hslash hstar =>
    have hhead : rest.head? ≠ some '/' ∧ rest.head? ≠ some '*' := by
      rw [← hnext]
      refine ⟨fun he => ?_, fun he => ?_⟩
      · obtain ⟨tail, htail⟩ := List.head?_eq_some_iff.1 he
        exact hslash tail htail
      · obtain ⟨tail, htail⟩ := List.head?_eq_some_iff.1 he
        exact hstar tail htail
    refine h.imp fun _ => CodeReads.plain hr (by decide) (by decide) (fun _ => hhead) ?_ ?_ <;>
      intro hne <;> cases hne

/-- A closing bracket in code: the end of a hole, or a character like any other. -/
theorem resumes_closer (hr : cursor.rest = c :: rest) (hc : isCloser c = true)
    (hstop : lexer.AtCode cursor.rest → ¬ lexer.Stops close cursor.rest)
    (hcode : lexer.AtCode cursor.rest)
    (h : Resumes close (lexer.codeStep c) (draft.push c) cursor.next result) :
    CodeResumes close lexer.depth lexer.outer draft cursor result := by
  have hne : c ≠ '\'' ∧ c ≠ '"' ∧ c ≠ '\x60' ∧ c ≠ '/' ∧ c ≠ '<' := by
    refine ⟨?_, ?_, ?_, ?_, ?_⟩ <;> rintro rfl <;> cases hc
  have hplain : ∀ {bracket : Option Char}, ¬ (lexer.depth = 0 ∧ bracket = some c) → ∀ result,
      CodeReads bracket (lexer.depth - 1) (draft.push c) cursor.next result →
      CodeReads bracket lexer.depth draft cursor result := by
    intro bracket hgoes result hreads
    refine CodeReads.plain hr ⟨hne.1, hne.2.1⟩ hne.2.2.1 (fun hs => absurd hs hne.2.2.2.1)
      (fun hl => absurd hl hne.2.2.2.2) (fun _ => hgoes) ?_
    rw [depthAfter, if_neg (by simp [Lexer.not_isOpener_of_isCloser hc]), if_pos hc]
    exact hreads
  obtain ⟨mode, depth, outer⟩ := lexer
  cases outer with
  | nil =>
    rw [Lexer.codeStep_closer hc (by simp)] at h
    refine CodeResumes.imp (hplain ?_) h
    rintro ⟨hdepth, hclose⟩
    exact hstop hcode ⟨rfl, hdepth, c, hclose, hc, by rw [hr]; rfl⟩
  | cons outside outer =>
    by_cases hend : depth = 0 ∧ c = '}'
    · obtain ⟨rfl, rfl⟩ := hend
      obtain ⟨draft₂, cursor₂, htemplate, h⟩ := h
      exact ⟨draft, cursor, rest, draft₂, cursor₂, CodeReads.stops hr rfl, hr, htemplate, h⟩
    · rw [Lexer.codeStep_closer hc fun _ hdepth hbrace => hend ⟨hdepth, hbrace⟩] at h
      refine CodeResumes.imp (hplain ?_) h
      rintro ⟨hdepth, hclose⟩
      exact hend ⟨hdepth, by simpa using hclose.symm⟩

/-- A character of code. -/
theorem resumes_codeStep (hr : cursor.rest = c :: rest) (hcode : lexer.AtCode cursor.rest)
    (ht : lexer.Takes close draft cursor.rest)
    (h : Resumes close (lexer.codeStep c) (draft.push c) cursor.next result) :
    CodeResumes close lexer.depth lexer.outer draft cursor result := by
  by_cases hcloser : isCloser c = true
  · exact resumes_closer hr hcloser ht.goesOn hcode h
  have hopens : c = '<' → opensElement draft cursor = false := by
    rintro rfl
    have hnothing := ht.opensNothing hcode (by rw [hr]; rfl)
    exact hnothing
  by_cases hopener : isOpener c = true
  · rw [Lexer.codeStep_opener hopener] at h
    refine CodeResumes.imp (fun _ hreads => ?_) h
    have hne : c ≠ '\'' ∧ c ≠ '"' ∧ c ≠ '\x60' ∧ c ≠ '/' := by
      refine ⟨?_, ?_, ?_, ?_⟩ <;> rintro rfl <;> cases hopener
    refine CodeReads.plain hr ⟨hne.1, hne.2.1⟩ hne.2.2.1 (fun hs => absurd hs hne.2.2.2) hopens
      (fun hcl => absurd hcl hcloser) ?_
    rw [depthAfter, if_pos hopener]
    exact hreads
  by_cases hquote : c = '\'' ∨ c = '"'
  · have hs : lexer.codeStep c = { lexer with mode := .string c } := by
      rcases hquote with rfl | rfl <;> rfl
    rw [hs] at h
    obtain ⟨body, hbody, h⟩ := h
    rw [Cursor.rest_next hr] at hbody
    rw [resumesPast_cons hr] at h
    exact CodeResumes.imp (fun _ => CodeReads.string hr hquote hbody) h
  by_cases htick : c = '\x60'
  · subst htick
    obtain ⟨draft₁, cursor₁, htemplate, h⟩ := h
    exact CodeResumes.imp (fun _ => CodeReads.template hr htemplate) h
  by_cases hslash : c = '/'
  · subst hslash
    exact resumes_slash hr h
  · rw [Lexer.codeStep_plain (by simpa using hopener) (by simpa using hcloser)
      (by simpa using hquote) htick hslash] at h
    refine CodeResumes.imp (fun _ hreads => ?_) h
    refine CodeReads.plain hr (by simpa using hquote) htick (fun hs => absurd hs hslash) hopens
      (fun hcl => absurd hcl hcloser) ?_
    rw [depthAfter, if_neg hopener, if_neg hcloser]
    exact hreads

/-- A character of the literal part of a template. -/
theorem resumes_rawStep (hr : cursor.rest = c :: rest)
    (h : Resumes close (lexer.rawStep c) (draft.push c) cursor.next result) :
    RawResumes close lexer.depth lexer.outer draft cursor result := by
  by_cases hguard : c = '\\'
  · subst hguard
    obtain ⟨d, tail, htail, draft₁, cursor₁, htemplate, h⟩ := h
    exact ⟨draft₁, cursor₁, TemplateReads.guarded (by rw [hr, ← htail, Cursor.rest_next hr])
      htemplate, h⟩
  by_cases htick : c = '\x60'
  · subst htick
    exact ⟨_, _, TemplateReads.ends hr, h⟩
  by_cases hdollar : c = '$'
  · subst hdollar
    have hs : lexer.rawStep '$' = { lexer with mode := .dollar } := rfl
    rw [hs] at h
    unfold Resumes at h
    dsimp only at h
    split at h
    next hbrace =>
      obtain ⟨tail, htail⟩ := List.head?_eq_some_iff.1 hbrace
      obtain ⟨draft₁, cursor₁, rest₁, draft₂, cursor₂, hcode, hr₁, htemplate, h⟩ := h
      have hr' : cursor.rest = '$' :: '{' :: tail := by rw [hr, ← htail, Cursor.rest_next hr]
      exact ⟨draft₂, cursor₂, TemplateReads.hole hr' hcode hr₁ htemplate, h⟩
    next hbrace =>
      obtain ⟨draft₁, cursor₁, htemplate, h⟩ := h
      rw [Cursor.rest_next hr] at hbrace
      exact ⟨draft₁, cursor₁, TemplateReads.plain hr hguard htick (fun _ => hbrace) htemplate, h⟩
  · have hs : lexer.rawStep c = { lexer with mode := .raw } := by
      simp [Lexer.rawStep, hguard, htick, hdollar]
    rw [hs] at h
    obtain ⟨draft₁, cursor₁, htemplate, h⟩ := h
    exact ⟨draft₁, cursor₁, TemplateReads.plain hr hguard htick (fun hd => absurd hd hdollar)
      htemplate, h⟩

/-- A character of a string that is not broken. -/
theorem resumes_string {quote : Char} (hr : cursor.rest = c :: rest)
    (hm : lexer.mode = .string quote) (hc : c ≠ '\n')
    (h : Resumes close (lexer.step c) (draft.push c) cursor.next result) :
    ∃ body, stringBody quote cursor.rest = some body ∧
      ResumesPast close lexer draft cursor body result := by
  have hnext : cursor.next.rest = rest := Cursor.rest_next hr
  rw [hr, stringBody.eq_def]
  simp only [Lexer.step, hm] at h
  by_cases hguard : c = '\\'
  · subst hguard
    obtain ⟨d, tail, body, htail, hbody, h⟩ := h
    rw [hnext] at htail
    refine ⟨'\\' :: d :: body, ?_, (resumesPast_cons hr _).1 h⟩
    simp [htail, hbody]
  rw [if_neg (by simpa using hguard)] at h
  by_cases hquote : c = quote
  · rw [if_pos (by simpa using hquote)] at h
    refine ⟨[c], ?_, (resumesPast_cons hr _).1 h⟩
    subst hquote
    simp [hc, hguard]
  · rw [if_neg (by simpa using hquote)] at h
    unfold Resumes at h
    rw [hm] at h
    obtain ⟨body, hbody, h⟩ := h
    rw [hnext] at hbody
    refine ⟨c :: body, ?_, (resumesPast_cons hr _).1 h⟩
    simp [hc, hguard, hquote, hbody]

/-- A character of a block comment, behind a star or not. -/
theorem resumes_block (hr : cursor.rest = c :: rest) (hm : lexer.mode = .block)
    (h : Resumes close (lexer.step c) (draft.push c) cursor.next result) :
    ∃ body, commentBody cursor.rest = some body ∧
      ResumesPast close lexer draft cursor body result := by
  have hnext : cursor.next.rest = rest := Cursor.rest_next hr
  simp only [Lexer.step, hm] at h
  by_cases hstar : c = '*'
  · subst hstar
    obtain ⟨body, hbody, h⟩ := h
    rw [hnext] at hbody
    exact ⟨'*' :: body, by rw [hr, hbody], (resumesPast_cons hr _).1 h⟩
  · rw [if_neg (by simpa using hstar)] at h
    unfold Resumes at h
    rw [hm] at h
    obtain ⟨body, hbody, h⟩ := h
    rw [hnext] at hbody
    exact ⟨c :: body, by rw [hr, commentBody_cons hbody (by simp [hstar])],
      (resumesPast_cons hr _).1 h⟩

theorem resumes_star (hr : cursor.rest = c :: rest) (hm : lexer.mode = .star)
    (h : Resumes close (lexer.step c) (draft.push c) cursor.next result) :
    ∃ body, commentBody ('*' :: cursor.rest) = some ('*' :: body) ∧
      ResumesPast close lexer draft cursor body result := by
  have hnext : cursor.next.rest = rest := Cursor.rest_next hr
  simp only [Lexer.step, hm] at h
  rw [hr]
  by_cases hslash : c = '/'
  · subst hslash
    exact ⟨['/'], rfl, (resumesPast_cons hr _).1 h⟩
  rw [if_neg (by simpa using hslash)] at h
  have hend : ¬ ('*' = '*' ∧ (c :: rest).head? = some '/') := by simp [hslash]
  by_cases hstar : c = '*'
  · subst hstar
    rw [if_pos (by decide)] at h
    unfold Resumes at h
    rw [hm] at h
    obtain ⟨body, hbody, h⟩ := h
    rw [hnext] at hbody
    exact ⟨'*' :: body, commentBody_cons hbody hend, (resumesPast_cons hr _).1 h⟩
  · rw [if_neg (by simpa using hstar)] at h
    obtain ⟨body, hbody, h⟩ := h
    rw [hnext] at hbody
    exact ⟨c :: body, commentBody_cons (commentBody_cons hbody (by simp [hstar])) hend,
      (resumesPast_cons hr _).1 h⟩

/-- Reading on from a character is reading on from behind it. -/
theorem resumes_copy (hr : cursor.rest = c :: rest) (ht : lexer.Takes close draft cursor.rest)
    (h : Resumes close (lexer.step c) (draft.push c) cursor.next result) :
    Resumes close lexer draft cursor result := by
  by_cases hcode : lexer.AtCode cursor.rest
  · rw [resumes_iff_of_atCode hcode]
    rw [Lexer.step_of_atCode (by rw [← hr]; exact hcode)] at h
    exact resumes_codeStep hr hcode ht h
  obtain ⟨mode, depth, outer⟩ := lexer
  cases mode with
  | code => exact absurd trivial hcode
  | slash =>
    have hc : c = '/' ∨ c = '*' := by
      by_contra hne
      exact hcode (by simpa [Lexer.AtCode, hr, not_or] using hne)
    unfold Resumes
    dsimp only
    rw [hr]
    rcases hc with rfl | rfl
    · show ResumesPast _ _ _ _ _ _
      rw [ahead_cons hr (by decide), ← resumesPast_cons hr]
      exact h
    · obtain ⟨body, hbody, h⟩ := h
      rw [Cursor.rest_next hr] at hbody
      exact ⟨body, hbody, (resumesPast_cons hr _).1 h⟩
  | line =>
    have hc : c ≠ '\n' := by simpa [Lexer.AtCode, hr] using hcode
    have hs : (Lexer.step ⟨.line, depth, outer⟩ c) = ⟨.line, depth, outer⟩ := by
      simp [Lexer.step, hc]
    rw [hs] at h
    show ResumesPast _ _ _ _ _ _
    rw [ahead_cons hr (by simpa using hc), ← resumesPast_cons hr]
    exact h
  | block => exact resumes_block hr rfl h
  | star => exact resumes_star hr rfl h
  | string quote =>
    have hc : c ≠ '\n' := by simpa [hr] using ht.unbroken quote rfl
    exact resumes_string hr rfl hc h
  | guarded quote =>
    obtain ⟨body, hbody, h⟩ := h
    rw [Cursor.rest_next hr] at hbody
    exact ⟨c, rest, body, hr, hbody, (resumesPast_cons hr _).1 h⟩
  | raw => exact resumes_rawStep hr h
  | rawGuarded => exact ⟨c, rest, hr, h⟩
  | dollar =>
    unfold Resumes
    dsimp only
    rw [hr]
    by_cases hbrace : c = '{'
    · subst hbrace
      exact h
    · rw [if_neg (by simpa using hbrace)]
      have hs : Lexer.step ⟨.dollar, depth, outer⟩ c = Lexer.rawStep ⟨.dollar, depth, outer⟩ c := by
        simp [Lexer.step, hbrace]
      rw [hs] at h
      exact resumes_rawStep hr h

/-! ## Steps -/

theorem ElementReads.head {found : Element} (h : ElementReads cursor found behind) :
    ∃ rest, cursor.rest = '<' :: rest := by
  have hread := h (2 * cursor.rest.length + 1) (by omega)
  rw [element] at hread
  obtain ⟨opened, hexpect, -⟩ := bind_eq_ok hread
  obtain ⟨rest, hr, -⟩ := expect_eq_ok hexpect
  exact ⟨rest, hr⟩

theorem resumes_of_step {reading reading' : Reading}
    (hstep : Step ElementReads close reading reading')
    (h : Resumes close reading'.lexer reading'.draft reading'.cursor result) :
    Resumes close reading.lexer reading.draft reading.cursor result := by
  cases hstep with
  | copy hr ht => exact resumes_copy hr ht h
  | markup hc hopens he hnone =>
    obtain ⟨rest, hr⟩ := he.head
    rw [resumes_iff_of_atCode hc]
    exact CodeResumes.imp (fun _ => CodeReads.markup hr hopens he hnone) h
  | call hc hopens he hsome =>
    obtain ⟨rest, hr⟩ := he.head
    rw [resumes_iff_of_atCode hc]
    exact CodeResumes.imp (fun _ => CodeReads.call hr hopens he hsome) h

/-- Steps from code to where it may end are a reading of it. -/
theorem codeReads_of_steps {final : Draft}
    (hsteps : Steps ElementReads close ⟨.initial, .empty, cursor⟩ ⟨lexer, final, behind⟩)
    (houter : lexer.outer = []) (hc : lexer.AtCode behind.rest)
    (hend : EndsAt close lexer.depth behind.rest) :
    CodeReads close 0 .empty cursor (final, behind) := by
  have hlast : Resumes close lexer final behind (final, behind) := by
    rw [resumes_iff_of_atCode hc, houter]
    cases close with
    | none => exact CodeReads.ends hend
    | some c =>
      obtain ⟨hdepth, hcloser, hhead⟩ := hend
      obtain ⟨rest, hr⟩ := List.head?_eq_some_iff.1 hhead
      rw [hdepth]
      exact CodeReads.stops hr hcloser
  have hall : ∀ reading, Steps ElementReads close reading ⟨lexer, final, behind⟩ →
      Resumes close reading.lexer reading.draft reading.cursor (final, behind) := by
    intro reading hreading
    induction hreading using Relation.ReflTransGen.head_induction_on with
    | refl => exact hlast
    | head hstep _ ih => exact resumes_of_step hstep ih
  exact hall _ hsteps

end JsxTemplate.Reader
