import Mathlib.Data.List.TakeWhile
import Mathlib.Logic.Relation
import JsxTemplate.Proofs.Lexer

/-
  Reading code in single steps. The reader descends into strings, comments and template literals;
  seen through the lexer, all of that is copying one character after another, and only an element
  is more than a character. `steps_of_code`: what the reader does with code is a run of such steps,
  from code to code.
-/

namespace JsxTemplate

/-- Where a reader of code stands. -/
structure Reading where
  lexer : Lexer
  draft : Draft
  cursor : Cursor

/-- One step of reading code that ends at `close`, where `reads` says what reading an element
gives. -/
inductive Step (reads : Cursor → Element → Cursor → Prop) (close : Option Char) :
    Reading → Reading → Prop where
  | copy {lexer : Lexer} {draft : Draft} {cursor : Cursor} {c : Char} {rest : Text}
      (hr : cursor.rest = c :: rest) (ht : lexer.Takes close draft cursor.rest) :
      Step reads close ⟨lexer, draft, cursor⟩ ⟨lexer.step c, draft.push c, cursor.next⟩
  | markup {lexer : Lexer} {draft : Draft} {cursor behind : Cursor} {element : Element}
      (hc : lexer.AtCode cursor.rest) (hopens : Reader.opensElement draft cursor = true)
      (he : reads cursor element behind) (hnone : Reader.callee? draft behind = none) :
      Step reads close ⟨lexer, draft, cursor⟩ ⟨lexer.inCode, draft.add (.markup element), behind⟩
  | call {lexer : Lexer} {draft : Draft} {cursor behind : Cursor} {element : Element}
      {callee : Callee} (hc : lexer.AtCode cursor.rest)
      (hopens : Reader.opensElement draft cursor = true) (he : reads cursor element behind)
      (hsome : Reader.callee? draft behind = some callee) :
      Step reads close ⟨lexer, draft, cursor⟩
        ⟨lexer.leaveCall, { draft with pending := callee.before }.add (.call callee.text element),
          behind.skipBlanks.next⟩

/-- A run of steps. -/
abbrev Steps (reads : Cursor → Element → Cursor → Prop) (close : Option Char) :
    Reading → Reading → Prop :=
  Relation.ReflTransGen (Step reads close)

namespace Steps

variable {reads : Cursor → Element → Cursor → Prop} {close : Option Char}

theorem copy {lexer : Lexer} {draft : Draft} {cursor : Cursor} {c : Char} {rest : Text}
    {reading : Reading} (hr : cursor.rest = c :: rest) (ht : lexer.Takes close draft cursor.rest)
    (h : Steps reads close ⟨lexer.step c, draft.push c, cursor.next⟩ reading) :
    Steps reads close ⟨lexer, draft, cursor⟩ reading :=
  .head (.copy hr ht) h

theorem one {lexer next : Lexer} {draft : Draft} {cursor : Cursor} {c : Char} {rest : Text}
    (hr : cursor.rest = c :: rest) (ht : lexer.Takes close draft cursor.rest)
    (hs : lexer.step c = next) :
    Steps reads close ⟨lexer, draft, cursor⟩ ⟨next, draft.push c, cursor.next⟩ :=
  hs ▸ .single (.copy hr ht)

theorem string {quote : Char} {rest body : Text} (hb : stringBody quote rest = some body)
    {lexer : Lexer} (hm : lexer.mode = .string quote) {draft : Draft} {cursor : Cursor}
    (hr : cursor.rest = rest) :
    Steps reads close ⟨lexer, draft, cursor⟩
      ⟨lexer.inCode, draft.pushAll body, cursor.past body⟩ := by
  have hn : ∀ rest, ¬ lexer.AtCode rest := by simp [Lexer.AtCode, hm]
  fun_induction stringBody quote rest generalizing body lexer draft cursor with
  | case1 => simp at hb
  | case2 => simp at hb
  | case3 => simp at hb
  | case4 c hc hb' guarded rest ih =>
    obtain ⟨tail, htail, rfl⟩ := Option.map_eq_some_iff.1 hb
    have hb' : c = '\\' := by simpa using hb'
    subst hb'
    have ht : lexer.Takes close draft cursor.rest := by
      refine ⟨fun h => absurd h (hn _), fun h => absurd h (hn _), fun _ _ => ?_⟩
      rw [hr]
      simp
    apply copy hr ht
    have hs : lexer.step '\\' = { lexer with mode := .guarded quote } := by
      simp [Lexer.step, hm]
    have hr' : cursor.next.rest = guarded :: rest := Cursor.rest_next hr
    rw [hs]
    apply copy hr' (Lexer.takes_of_mode (by simp [Lexer.AtCode]) (by simp))
    have hs' : Lexer.step { lexer with mode := .guarded quote } guarded = lexer := by
      obtain ⟨mode, depth, outer⟩ := lexer
      subst hm
      rfl
    rw [hs', Cursor.past_cons hr, Cursor.past_cons hr']
    exact ih htail hm (Cursor.rest_next hr') hn
  | case5 c rest hc hb' hq =>
    cases hb
    have hq' : c = quote := by simpa using hq
    have ht : lexer.Takes close draft cursor.rest := by
      refine ⟨fun h => absurd h (hn _), fun h => absurd h (hn _), fun _ _ => ?_⟩
      rw [hr]
      simpa using hc
    apply copy hr ht
    have hs : lexer.step c = lexer.inCode := by
      simp only [Lexer.step, hm]
      rw [if_neg hb', if_pos hq]
    rw [hs, Cursor.past_cons hr]
    exact .refl
  | case6 c rest hc hb' hq ih =>
    obtain ⟨tail, htail, rfl⟩ := Option.map_eq_some_iff.1 hb
    have ht : lexer.Takes close draft cursor.rest := by
      refine ⟨fun h => absurd h (hn _), fun h => absurd h (hn _), fun _ _ => ?_⟩
      rw [hr]
      simpa using hc
    apply copy hr ht
    have hs : lexer.step c = lexer := by
      simp only [Lexer.step, hm]
      rw [if_neg hb', if_neg hq]
    rw [hs, Cursor.past_cons hr]
    exact ih htail hm (Cursor.rest_next hr) hn

/-- A line comment goes on up to its newline. -/
theorem line {text rest : Text} (hn : ∀ c ∈ text, c ≠ '\n') {lexer : Lexer}
    (hm : lexer.mode = .line) {draft : Draft} {cursor : Cursor} (hr : cursor.rest = text ++ rest) :
    Steps reads close ⟨lexer, draft, cursor⟩
      ⟨lexer, draft.pushAll text, cursor.past text⟩ := by
  induction text generalizing draft cursor with
  | nil => exact .refl
  | cons c text ih =>
    have hc : c ≠ '\n' := hn c (by simp)
    have hcode : ¬ lexer.AtCode cursor.rest := by simp [Lexer.AtCode, hm, hr, hc]
    apply copy hr (Lexer.takes_of_mode hcode (by simp [hm]))
    have hs : lexer.step c = lexer := by simp [Lexer.step, hm, hc]
    rw [hs, Cursor.past_cons hr]
    exact ih (fun d hd => hn d (by simp [hd])) (Cursor.rest_next hr)

/-- A block comment goes on up to a star and a slash. Behind a star that is not the last one the
lexer waits for the slash; the next character tells it off. -/
theorem block {rest body : Text} (hb : commentBody rest = some body) {lexer : Lexer}
    (hm : lexer.mode = .block ∨ lexer.mode = .star ∧ rest.head? ≠ some '/')
    {draft : Draft} {cursor : Cursor} (hr : cursor.rest = rest) :
    Steps reads close ⟨lexer, draft, cursor⟩
      ⟨lexer.inCode, draft.pushAll body, cursor.past body⟩ := by
  fun_induction commentBody rest generalizing body lexer draft cursor with
  | case1 => simp at hb
  | case2 rest =>
    cases hb
    have hs : lexer.step '*' = { lexer with mode := .star } := by
      obtain ⟨mode, depth, outer⟩ := lexer
      rcases hm with rfl | ⟨rfl, -⟩ <;> rfl
    have hr' : cursor.next.rest = '/' :: rest := Cursor.rest_next hr
    have ht : lexer.Takes close draft cursor.rest := by
      refine Lexer.takes_of_mode ?_ ?_ <;> rcases hm with hm | ⟨hm, -⟩ <;> simp [Lexer.AtCode, hm]
    apply copy hr ht
    rw [hs]
    apply copy hr' (Lexer.takes_of_mode (by simp [Lexer.AtCode]) (by simp))
    rw [Cursor.past_cons hr, Cursor.past_cons hr']
    exact .refl
  | case3 c rest hend ih =>
    obtain ⟨tail, htail, rfl⟩ := Option.map_eq_some_iff.1 hb
    have ht : lexer.Takes close draft cursor.rest := by
      refine Lexer.takes_of_mode ?_ ?_ <;> rcases hm with hm | ⟨hm, -⟩ <;> simp [Lexer.AtCode, hm]
    apply copy hr ht
    have hi : (lexer.step c).inCode = lexer.inCode ∧
        ((lexer.step c).mode = .block ∨ (lexer.step c).mode = .star ∧ c = '*') := by
      obtain ⟨mode, depth, outer⟩ := lexer
      rcases hm with rfl | ⟨rfl, hslash⟩
      · by_cases hc : c = '*' <;> simp [Lexer.step, Lexer.inCode, hc]
      · have hslash : c ≠ '/' := by simpa using hslash
        by_cases hc : c = '*' <;> simp [Lexer.step, Lexer.inCode, hslash, hc]
    rw [Cursor.past_cons hr, ← hi.1]
    refine ih htail ?_ (Cursor.rest_next hr)
    apply hi.2.imp_right
    rintro ⟨hstar, hc⟩
    refine ⟨hstar, fun hslash => ?_⟩
    obtain ⟨tail, rfl⟩ : ∃ tail, rest = '/' :: tail := by
      cases rest with
      | nil => simp at hslash
      | cons d rest => exact ⟨rest, by simpa using hslash⟩
    exact hend tail hc rfl

/-- A line comment from its first slash. -/
theorem lineComment {lexer : Lexer} {draft : Draft} {cursor : Cursor} {tail : Text}
    (hr : cursor.rest = '/' :: '/' :: tail) (ht : lexer.Takes close draft cursor.rest)
    (hs : lexer.step '/' = { lexer with mode := .slash }) :
    Steps reads close ⟨lexer, draft, cursor⟩ ⟨{ lexer with mode := .line },
      draft.pushAll (cursor.ahead (· != '\n')), cursor.past (cursor.ahead (· != '\n'))⟩ := by
  have hr₁ : cursor.next.rest = '/' :: tail := Cursor.rest_next hr
  have hr₂ : cursor.next.next.rest = tail.takeWhile (· != '\n') ++ tail.dropWhile (· != '\n') := by
    rw [Cursor.rest_next hr₁, List.takeWhile_append_dropWhile]
  have ha : cursor.ahead (· != '\n') = '/' :: '/' :: tail.takeWhile (· != '\n') := by
    rw [Cursor.ahead, hr]; rfl
  have ht₁ : Lexer.Takes close { lexer with mode := .slash } (draft.push '/') cursor.next.rest :=
    Lexer.takes_of_mode (by simp [Lexer.AtCode, hr₁]) (by simp)
  have hn : ∀ c ∈ tail.takeWhile (· != '\n'), c ≠ '\n' := by
    intro c hc
    simpa using List.mem_takeWhile_imp hc
  rw [ha, Cursor.past_cons hr, Cursor.past_cons hr₁]
  exact (one hr ht hs).trans ((one hr₁ ht₁ rfl).trans (line hn rfl hr₂))

/-- A block comment from its slash. -/
theorem blockComment {lexer : Lexer} {draft : Draft} {cursor : Cursor} {tail body : Text}
    (hr : cursor.rest = '/' :: '*' :: tail) (ht : lexer.Takes close draft cursor.rest)
    (hs : lexer.step '/' = { lexer with mode := .slash }) (hb : commentBody tail = some body) :
    Steps reads close ⟨lexer, draft, cursor⟩ ⟨lexer.inCode, draft.pushAll ('/' :: '*' :: body),
      cursor.past ('/' :: '*' :: body)⟩ := by
  have hr₁ : cursor.next.rest = '*' :: tail := Cursor.rest_next hr
  have ht₁ : Lexer.Takes close { lexer with mode := .slash } (draft.push '/') cursor.next.rest :=
    Lexer.takes_of_mode (by simp [Lexer.AtCode, hr₁]) (by simp)
  rw [Cursor.past_cons hr, Cursor.past_cons hr₁]
  exact (one hr ht hs).trans ((one hr₁ ht₁ rfl).trans (block hb (.inl rfl) (Cursor.rest_next hr₁)))

end Steps

theorem bind_eq_ok {ε α β : Type} {x : Except ε α} {f : α → Except ε β} {b : β}
    (h : x >>= f = .ok b) : ∃ a, x = .ok a ∧ f a = .ok b := by
  cases x with
  | error stop => cases h
  | ok a => exact ⟨a, rfl, h⟩

namespace Reader

theorem faultAt_ne_ok {α : Type} {place : Place} {fault : Fault} {a : α} :
    faultAt place fault ≠ .ok a := nofun

theorem expect_eq_ok {cursor behind : Cursor} {wanted : Char} {purpose : Text}
    (h : expect cursor wanted purpose = .ok behind) :
    ∃ rest, cursor.rest = wanted :: rest ∧ behind = cursor.next := by
  unfold expect at h
  match he : cursor.expect wanted purpose with
  | .error _ => rw [he] at h; cases h
  | .ok found =>
    rw [he] at h
    cases h
    obtain ⟨rest, hr, rfl⟩ := Cursor.expect_eq_ok_iff.1 he
    exact ⟨rest, hr, (Cursor.next_of_rest hr).symm⟩

theorem expect_of_rest {cursor : Cursor} {wanted : Char} {rest : Text}
    (h : cursor.rest = wanted :: rest) (purpose : Text) :
    expect cursor wanted purpose = .ok cursor.next := by
  have he : cursor.expect wanted purpose = .ok cursor.next :=
    Cursor.expect_eq_ok_iff.2 ⟨rest, h, Cursor.next_of_rest h⟩
  rw [expect, he]
  rfl

theorem peekNext_eq_iff {cursor : Cursor} {c d : Char} {rest : Text}
    (hr : cursor.rest = c :: rest) (hd : d ≠ '\x00') :
    cursor.peekNext = d ↔ rest.head? = some d := by
  simp only [Cursor.peekNext, Cursor.peekAt, hr, List.getD_cons_succ]
  cases rest with
  | nil => simp [hd.symm]
  | cons e rest => simp

/-- Code read up to `close` ends at that bracket with nothing left open, or with the source. -/
def EndsAt (close : Option Char) (depth : Nat) (rest : Text) : Prop :=
  match close with
  | none => rest = []
  | some c => depth = 0 ∧ isCloser c = true ∧ rest.head? = some c

/-- Reading an element with less than `bound` fuel. -/
def ElementBelow (bound : Nat) (cursor : Cursor) (found : Element) (behind : Cursor) : Prop :=
  ∃ fuel < bound, element fuel cursor = .ok (found, behind)

/-- Where a lexer in the literal part of a template may go on there. -/
def AtRaw (lexer : Lexer) (rest : Text) : Prop :=
  lexer.mode = .raw ∨ lexer.mode = .dollar ∧ rest.head? ≠ some '{'

/-- What reading code and template literals with that fuel amounts to. -/
structure Runs (bound fuel : Nat) : Prop where
  code : ∀ {close start depth draft cursor draft' cursor'},
    code fuel close start depth draft cursor = .ok (draft', cursor') →
    ∀ (base : Option Char) (lexer : Lexer), lexer.AtCode cursor.rest → lexer.depth = depth →
      lexer.frame base = close →
      ∃ lexer', Steps (ElementBelow bound) base ⟨lexer, draft, cursor⟩ ⟨lexer', draft', cursor'⟩ ∧
        lexer'.outer = lexer.outer ∧ lexer'.AtCode cursor'.rest ∧
        EndsAt close lexer'.depth cursor'.rest
  template : ∀ {start draft cursor draft' cursor'},
    template fuel start draft cursor = .ok (draft', cursor') →
    ∀ (base : Option Char) (lexer : Lexer), AtRaw lexer cursor.rest →
      Steps (ElementBelow bound) base ⟨lexer, draft, cursor⟩ ⟨lexer.inCode, draft', cursor'⟩

section Step

variable {bound fuel : Nat} (runs : Runs bound fuel)
include runs

/-- After some steps from code to code, the rest of the code. -/
theorem Runs.code_after {close : Option Char} {start : Place} {depth : Nat}
    {draft draft₁ draft' : Draft} {cursor cursor₁ cursor' : Cursor} {base : Option Char}
    {lexer lexer₁ : Lexer}
    (hs : Steps (ElementBelow bound) base ⟨lexer, draft, cursor⟩ ⟨lexer₁, draft₁, cursor₁⟩)
    (h : Reader.code fuel close start depth draft₁ cursor₁ = .ok (draft', cursor'))
    (hc : lexer₁.AtCode cursor₁.rest) (hd : lexer₁.depth = depth)
    (ho : lexer₁.outer = lexer.outer) (hfr : lexer.frame base = close) :
    ∃ lexer', Steps (ElementBelow bound) base ⟨lexer, draft, cursor⟩ ⟨lexer', draft', cursor'⟩ ∧
      lexer'.outer = lexer.outer ∧ lexer'.AtCode cursor'.rest ∧
      EndsAt close lexer'.depth cursor'.rest := by
  have hfr₁ : lexer₁.frame base = close := by rw [← hfr, Lexer.frame, Lexer.frame, ho]
  obtain ⟨lexer', hs', ho', hc', he⟩ := runs.code h base lexer₁ hc hd hfr₁
  exact ⟨lexer', hs.trans hs', ho'.trans ho, hc', he⟩

theorem Runs.code_succ (hf : fuel < bound) {close : Option Char} {start : Place} {depth : Nat}
    {draft draft' : Draft} {cursor cursor' : Cursor}
    (h : Reader.code (fuel + 1) close start depth draft cursor = .ok (draft', cursor'))
    (base : Option Char) (lexer : Lexer) (hc : lexer.AtCode cursor.rest)
    (hd : lexer.depth = depth) (hfr : lexer.frame base = close) :
    ∃ lexer', Steps (ElementBelow bound) base ⟨lexer, draft, cursor⟩ ⟨lexer', draft', cursor'⟩ ∧
      lexer'.outer = lexer.outer ∧ lexer'.AtCode cursor'.rest ∧
      EndsAt close lexer'.depth cursor'.rest := by
  subst hd
  unfold Reader.code at h
  split at h
  next hr =>
    split at h
    · exact absurd h faultAt_ne_ok
    · cases h
      exact ⟨lexer, .refl, rfl, hc, hr⟩
  next c rest hr =>
    have hc' := hc
    rw [hr] at hc'
    have hstep : lexer.step c = lexer.codeStep c := Lexer.step_of_atCode hc'
    have htakes : (isCloser c = true → lexer.depth = 0 → lexer.frame base ≠ some c) →
        (c = '<' → opensElement draft cursor = false) → lexer.Takes base draft cursor.rest := by
      intro hstop hopens
      rw [hr]
      exact Lexer.takes_of_atCode hc' hstop fun hlt => by rw [← hr]; exact hopens hlt
    split at h
    next hopener =>
      have hne : isCloser c = true → lexer.depth = 0 → lexer.frame base ≠ some c := by
        intro hcloser
        rw [Lexer.not_isOpener_of_isCloser hcloser] at hopener
        cases hopener
      have ht := htakes hne (by rintro rfl; cases hopener)
      rw [Lexer.codeStep_opener hopener] at hstep
      exact runs.code_after (.one hr ht hstep) h trivial rfl rfl hfr
    split at h
    next hcloser =>
      split at h
      next hstop =>
        cases h
        simp only [Bool.and_eq_true, beq_iff_eq] at hstop
        refine ⟨lexer, .refl, rfl, hc, ?_⟩
        rw [hstop.2]
        exact ⟨hstop.1, hcloser, by rw [hr]; rfl⟩
      next hstop =>
        have hstop : lexer.depth = 0 → lexer.frame base ≠ some c := by
          intro h0 hclose
          rw [hfr] at hclose
          exact hstop (by simp [h0, hclose])
        have ht := htakes (fun _ => hstop) (by rintro rfl; cases hcloser)
        have hhole : lexer.outer ≠ [] → lexer.depth = 0 → c ≠ '}' := by
          rintro houter h0 rfl
          exact hstop h0 (by simp [Lexer.frame, houter])
        rw [Lexer.codeStep_closer hcloser hhole] at hstep
        exact runs.code_after (.one hr ht hstep) h trivial rfl rfl hfr
    next hopener hcloser =>
    have hne : isCloser c = true → lexer.depth = 0 → lexer.frame base ≠ some c :=
      fun h => absurd h hcloser
    split at h
    next hquote =>
      split at h
      · exact absurd h faultAt_ne_ok
      next body hbody =>
        have hquote' : c = '\'' ∨ c = '"' := by simpa using hquote
        have ht := htakes hne (by rintro rfl; simp at hquote')
        have hs : lexer.step c = { lexer with mode := .string c } := by
          rw [hstep]
          rcases hquote' with rfl | rfl <;> rfl
        have hbody : stringBody c cursor.next.rest = some body := by
          rw [Cursor.rest_next hr]; exact hbody
        rw [Cursor.past_cons hr] at h
        exact runs.code_after ((Steps.one hr ht hs).trans (Steps.string hbody rfl rfl)) h
          trivial rfl rfl hfr
    next hquote =>
    have hquote : c ≠ '\'' ∧ c ≠ '"' := by simpa using hquote
    split at h
    next htick =>
      obtain ⟨⟨draft₁, cursor₁⟩, htemplate, hgo⟩ := bind_eq_ok h
      have htick : c = '\x60' := by simpa using htick
      subst htick
      have ht := htakes hne (by simp)
      have hs : lexer.step '\x60' = { lexer with mode := .raw } := hstep
      exact runs.code_after ((Steps.one hr ht hs).trans (runs.template htemplate _ _ (.inl rfl)))
        hgo trivial rfl rfl hfr
    next htick =>
    have htick : c ≠ '\x60' := by simpa using htick
    split at h
    next hline =>
      simp only [Bool.and_eq_true, beq_iff_eq] at hline
      obtain ⟨rfl, hnext⟩ := hline
      obtain ⟨tail, rfl⟩ := List.head?_eq_some_iff.1 ((peekNext_eq_iff hr (by decide)).1 hnext)
      refine runs.code_after (Steps.lineComment hr (htakes hne (by simp)) hstep) h ?_ rfl rfl hfr
      intro d hd
      simpa using Cursor.not_of_head?_past_ahead hd
    next hline =>
    split at h
    next hblock =>
      simp only [Bool.and_eq_true, beq_iff_eq] at hblock
      obtain ⟨rfl, hnext⟩ := hblock
      obtain ⟨tail, rfl⟩ := List.head?_eq_some_iff.1 ((peekNext_eq_iff hr (by decide)).1 hnext)
      split at h
      · exact absurd h faultAt_ne_ok
      next body hbody =>
        exact runs.code_after (Steps.blockComment hr (htakes hne (by simp)) hstep hbody) h trivial
          rfl rfl hfr
    next hblock =>
    split at h
    next hlt =>
      simp only [Bool.and_eq_true, beq_iff_eq] at hlt
      obtain ⟨⟨found, behind⟩, helement, hgo⟩ := bind_eq_ok h
      dsimp only at hgo
      split at hgo
      next callee hcallee =>
        have hcall : Step (ElementBelow bound) base ⟨lexer, draft, cursor⟩ _ :=
          .call hc hlt.2 ⟨fuel, hf, helement⟩ hcallee
        exact runs.code_after (.single hcall) hgo trivial rfl rfl hfr
      next hcallee =>
        have hmarkup : Step (ElementBelow bound) base ⟨lexer, draft, cursor⟩ _ :=
          .markup hc hlt.2 ⟨fuel, hf, helement⟩ hcallee
        exact runs.code_after (.single hmarkup) hgo trivial rfl rfl hfr
    next hlt =>
      have ht := htakes hne (by rintro rfl; simpa using hlt)
      by_cases hslash : c = '/'
      · subst hslash
        have hs : lexer.step '/' = { lexer with mode := .slash } := hstep
        refine runs.code_after (Steps.one hr ht hs) h ?_ rfl rfl hfr
        rw [Cursor.rest_next hr]
        refine ⟨fun hnext => ?_, fun hnext => ?_⟩
        · exact hline (by simp [(peekNext_eq_iff hr (by decide)).2 hnext])
        · exact hblock (by simp [(peekNext_eq_iff hr (by decide)).2 hnext])
      · rw [Lexer.codeStep_plain (by simpa using hopener) (by simpa using hcloser) hquote htick
          hslash] at hstep
        exact runs.code_after (Steps.one hr ht hstep) h trivial rfl rfl hfr

theorem Runs.template_succ {start : Place} {draft draft' : Draft} {cursor cursor' : Cursor}
    (h : Reader.template (fuel + 1) start draft cursor = .ok (draft', cursor'))
    (base : Option Char) (lexer : Lexer) (hraw : AtRaw lexer cursor.rest) :
    Steps (ElementBelow bound) base ⟨lexer, draft, cursor⟩ ⟨lexer.inCode, draft', cursor'⟩ := by
  have ht : ∀ draft, lexer.Takes base draft cursor.rest := by
    intro draft
    refine Lexer.takes_of_mode ?_ ?_ <;> rcases hraw with hm | ⟨hm, -⟩ <;> simp [Lexer.AtCode, hm]
  have hstep : ∀ c rest, cursor.rest = c :: rest → lexer.step c = lexer.rawStep c := by
    intro c rest hr
    rcases hraw with hm | ⟨hm, hbrace⟩
    · simp [Lexer.step, hm]
    · have hc : c ≠ '{' := by simpa [hr] using hbrace
      simp [Lexer.step, hm, hc]
  rw [Reader.template] at h
  split at h
  · exact absurd h faultAt_ne_ok
  next c rest hr =>
    have hs := hstep c rest hr
    split at h
    next hguard =>
      have hguard : c = '\\' := by simpa using hguard
      subst hguard
      split at h
      · exact absurd h faultAt_ne_ok
      next guarded tail =>
        have hr₁ : cursor.next.rest = guarded :: tail := Cursor.rest_next hr
        rw [Cursor.past_cons hr, ← Cursor.next_eq_past hr₁] at h
        have hs : lexer.step '\\' = { lexer with mode := .rawGuarded } := hs
        have ht₁ : Lexer.Takes base { lexer with mode := .rawGuarded } (draft.push '\\')
            cursor.next.rest := Lexer.takes_of_mode (by simp [Lexer.AtCode]) (by simp)
        have hgo : Steps (ElementBelow bound) base ⟨{ lexer with mode := .raw }, _, _⟩ _ :=
          runs.template h _ _ (.inl rfl)
        exact (Steps.one hr (ht draft) hs).trans ((Steps.one hr₁ ht₁ rfl).trans hgo)
    next hguard =>
    split at h
    next htick =>
      cases h
      have htick : c = '\x60' := by simpa using htick
      subst htick
      exact .one hr (ht draft) hs
    next htick =>
    split at h
    next hhole =>
      simp only [Bool.and_eq_true, beq_iff_eq] at hhole
      obtain ⟨rfl, hnext⟩ := hhole
      obtain ⟨tail, rfl⟩ := List.head?_eq_some_iff.1 ((peekNext_eq_iff hr (by decide)).1 hnext)
      have hr₁ : cursor.next.rest = '{' :: tail := Cursor.rest_next hr
      obtain ⟨⟨draft₁, cursor₁⟩, hcode, h⟩ := bind_eq_ok h
      obtain ⟨cursor₂, hexpect, h⟩ := bind_eq_ok h
      obtain ⟨rest₁, hr₂, rfl⟩ := expect_eq_ok hexpect
      rw [Cursor.past_cons hr, ← Cursor.next_eq_past hr₁] at hcode
      -- The code of the hole starts with nothing open, above the code that holds the template.
      obtain ⟨inner, hinner, houter, hc, hend⟩ :=
        runs.code hcode base ⟨.code, 0, lexer.depth :: lexer.outer⟩ trivial rfl rfl
      have hs : lexer.step '$' = { lexer with mode := .dollar } := hs
      have ht₁ : Lexer.Takes base { lexer with mode := .dollar } (draft.push '$')
          cursor.next.rest :=
        Lexer.takes_of_mode (by simp [Lexer.AtCode]) (by simp)
      have ht₂ : inner.Takes base draft₁ cursor₁.rest :=
        ⟨fun _ hstop => absurd hstop.1 (by simp [houter]), fun _ hlt => by simp [hr₂] at hlt,
          fun quote hm => absurd hc (by simp [Lexer.AtCode, hm])⟩
      have hclose : inner.step '}' = ⟨.raw, lexer.depth, lexer.outer⟩ := by
        rw [hr₂] at hc
        rw [Lexer.step_of_atCode hc]
        have h0 : inner.depth = 0 := hend.1
        simp [Lexer.codeStep, isOpener, isCloser, houter, h0]
      have hgo : Steps (ElementBelow bound) base ⟨⟨.raw, lexer.depth, lexer.outer⟩, _, _⟩ _ :=
        runs.template h _ _ (.inl rfl)
      exact (Steps.one hr (ht draft) hs).trans ((Steps.one hr₁ ht₁ rfl).trans
        (hinner.trans ((Steps.one hr₂ ht₂ hclose).trans hgo)))
    next hhole =>
      by_cases hdollar : c = '$'
      · subst hdollar
        have hs : lexer.step '$' = { lexer with mode := .dollar } := hs
        have hbrace : cursor.next.rest.head? ≠ some '{' := by
          rw [Cursor.rest_next hr]
          intro hnext
          exact hhole (by simp [(peekNext_eq_iff hr (by decide)).2 hnext])
        have hgo : Steps (ElementBelow bound) base ⟨{ lexer with mode := .dollar }, _, _⟩ _ :=
          runs.template h _ _ (.inr ⟨rfl, hbrace⟩)
        exact (Steps.one hr (ht draft) hs).trans hgo
      · have hs : lexer.step c = { lexer with mode := .raw } := by
          rw [hs, Lexer.rawStep, if_neg hguard, if_neg htick, if_neg (by simpa using hdollar)]
        have hgo : Steps (ElementBelow bound) base ⟨{ lexer with mode := .raw }, _, _⟩ _ :=
          runs.template h _ _ (.inl rfl)
        exact (Steps.one hr (ht draft) hs).trans hgo

end Step

theorem runs (bound fuel : Nat) (hf : fuel ≤ bound) : Runs bound fuel := by
  induction fuel with
  | zero => exact ⟨nofun, nofun⟩
  | succ fuel ih =>
    have ih := ih (by omega)
    exact ⟨ih.code_succ (by omega), ih.template_succ⟩

/-- Reading an expression from scratch: steps to where it may end. -/
theorem steps_of_code {fuel : Nat} {close : Option Char} {start : Place} {draft : Draft}
    {cursor behind : Cursor}
    (h : code fuel close start 0 .empty cursor = .ok (draft, behind)) :
    ∃ lexer : Lexer, Steps (ElementBelow fuel) close ⟨.initial, .empty, cursor⟩
        ⟨lexer, draft, behind⟩ ∧
      lexer.outer = [] ∧ lexer.AtCode behind.rest ∧ EndsAt close lexer.depth behind.rest :=
  (runs fuel fuel (Nat.le_refl fuel)).code h close .initial trivial rfl rfl

end Reader

end JsxTemplate
