import JsxTemplate.Reader.Basic

/-
  A lexer for code, one character at a time: what the character before the cursor belongs to, how
  many brackets are open, and which code is suspended by template literals. It finds no markup;
  `Takes` says when the reader copies a character and neither stops nor opens an element there.
  `Copies` is the same for a stretch of code, and `after` the state behind it.
-/

namespace JsxTemplate

/-- What the character before the cursor belongs to. -/
inductive Mode where
  | code
  /-- Code, behind a slash that may begin a comment. -/
  | slash
  | line
  | block
  /-- A block comment, behind a star that may end it. -/
  | star
  | string (quote : Char)
  /-- A string, behind a backslash. -/
  | guarded (quote : Char)
  /-- The literal part of a template. -/
  | raw
  /-- The literal part of a template, behind a backslash. -/
  | rawGuarded
  /-- The literal part of a template, behind a dollar sign that may open a hole. -/
  | dollar
  deriving DecidableEq, Repr

/-- `depth` brackets are open in the innermost code, `outer` counts those of the code around each
template literal whose hole the cursor is in. -/
structure Lexer where
  mode : Mode
  depth : Nat
  outer : List Nat
  deriving DecidableEq, Repr

namespace Lexer

def initial : Lexer := ⟨.code, 0, []⟩

def inCode (lexer : Lexer) : Lexer := { lexer with mode := .code }

/-- Behind a call whose parenthesis was counted when it opened. -/
def leaveCall (lexer : Lexer) : Lexer := ⟨.code, lexer.depth - 1, lexer.outer⟩

/-- A character of code. A brace that closes nothing ends a hole, if there is one. -/
def codeStep (lexer : Lexer) (c : Char) : Lexer :=
  if isOpener c then ⟨.code, lexer.depth + 1, lexer.outer⟩
  else if isCloser c then
    match lexer.outer with
    | [] => ⟨.code, lexer.depth - 1, []⟩
    | depth :: outer =>
      if lexer.depth == 0 && c == '}' then ⟨.raw, depth, outer⟩
      else ⟨.code, lexer.depth - 1, depth :: outer⟩
  else if c == '\'' || c == '"' then { lexer with mode := .string c }
  else if c == '\x60' then { lexer with mode := .raw }
  else if c == '/' then { lexer with mode := .slash }
  else lexer.inCode

/-- A character of the literal part of a template. -/
def rawStep (lexer : Lexer) (c : Char) : Lexer :=
  if c == '\\' then { lexer with mode := .rawGuarded }
  else if c == '\x60' then lexer.inCode
  else if c == '$' then { lexer with mode := .dollar }
  else { lexer with mode := .raw }

def step (lexer : Lexer) (c : Char) : Lexer :=
  match lexer.mode with
  | .code => lexer.codeStep c
  | .slash =>
    if c == '/' then { lexer with mode := .line }
    else if c == '*' then { lexer with mode := .block }
    else lexer.codeStep c
  | .line => if c == '\n' then lexer.inCode else lexer
  | .block => if c == '*' then { lexer with mode := .star } else lexer
  | .star =>
    if c == '/' then lexer.inCode
    else if c == '*' then lexer
    else { lexer with mode := .block }
  | .string quote =>
    if c == '\\' then { lexer with mode := .guarded quote }
    else if c == quote then lexer.inCode
    else lexer
  | .guarded quote => { lexer with mode := .string quote }
  | .raw => lexer.rawStep c
  | .rawGuarded => { lexer with mode := .raw }
  | .dollar => if c == '{' then ⟨.code, 0, lexer.depth :: lexer.outer⟩ else lexer.rawStep c

def after (lexer : Lexer) (text : Text) : Lexer := text.foldl step lexer

theorem after_nil (lexer : Lexer) : lexer.after [] = lexer := rfl

theorem after_cons (lexer : Lexer) (c : Char) (text : Text) :
    lexer.after (c :: text) = (lexer.step c).after text := rfl

theorem after_append (lexer : Lexer) (s t : Text) :
    lexer.after (s ++ t) = (lexer.after s).after t := by
  simp [after, List.foldl_append]

/-- The next character, if there is one, belongs to code. -/
def AtCode (lexer : Lexer) (rest : Text) : Prop :=
  match lexer.mode with
  | .code => True
  | .slash => rest.head? ≠ some '/' ∧ rest.head? ≠ some '*'
  | .line => ∀ c ∈ rest.head?, c = '\n'
  | _ => False

theorem AtCode.congr {lexer : Lexer} {rest rest' : Text} (h : rest.head? = rest'.head?)
    (hc : lexer.AtCode rest) : lexer.AtCode rest' := by
  unfold AtCode at *
  rw [← h]
  exact hc

/-- What belongs to code is lexed as code. -/
theorem step_of_atCode {lexer : Lexer} {c : Char} {rest : Text} (h : lexer.AtCode (c :: rest)) :
    lexer.step c = lexer.codeStep c := by
  obtain ⟨mode, depth, outer⟩ := lexer
  cases mode with
  | code => rfl
  | slash =>
    simp only [AtCode, List.head?_cons, ne_eq, Option.some.injEq] at h
    simp [step, h.1, h.2]
  | line =>
    have hc : c = '\n' := h c rfl
    subst hc
    rfl
  | _ => exact absurd h (by simp [AtCode])

theorem codeStep_opener {c : Char} (h : isOpener c = true) (lexer : Lexer) :
    lexer.codeStep c = ⟨.code, lexer.depth + 1, lexer.outer⟩ := by
  simp [codeStep, h]

theorem not_isOpener_of_isCloser {c : Char} (h : isCloser c = true) : isOpener c = false := by
  simp only [isCloser, Bool.or_eq_true, beq_iff_eq] at h
  rcases h with (rfl | rfl) | rfl <;> rfl

/-- A closer that ends no hole. -/
theorem codeStep_closer {c : Char} (h : isCloser c = true) {lexer : Lexer}
    (hh : lexer.outer ≠ [] → lexer.depth = 0 → c ≠ '}') :
    lexer.codeStep c = ⟨.code, lexer.depth - 1, lexer.outer⟩ := by
  obtain ⟨mode, depth, outer⟩ := lexer
  cases outer with
  | nil => simp [codeStep, h, not_isOpener_of_isCloser h]
  | cons inner outer =>
    have hn : ¬ (depth = 0 ∧ c = '}') := fun hd => hh (by simp) hd.1 hd.2
    simp [codeStep, h, not_isOpener_of_isCloser h, hn]

/-- Code that is neither bracket nor quote nor slash. -/
theorem codeStep_plain {c : Char} (ho : isOpener c = false) (hc : isCloser c = false)
    (hq : c ≠ '\'' ∧ c ≠ '"') (hb : c ≠ '\x60') (hs : c ≠ '/') (lexer : Lexer) :
    lexer.codeStep c = lexer.inCode := by
  simp [codeStep, ho, hc, hq.1, hq.2, hb, hs]

/-- The bracket that ends the innermost code. -/
def frame (close : Option Char) (lexer : Lexer) : Option Char :=
  if lexer.outer.isEmpty then close else some '}'

/-- The next character ends the outermost code. -/
def Stops (close : Option Char) (lexer : Lexer) (rest : Text) : Prop :=
  lexer.outer = [] ∧ lexer.depth = 0 ∧ ∃ c, close = some c ∧ isCloser c = true ∧ rest.head? = some c

/-- The reader copies the next character: it does not stop there, opens no element there, and
does not find a string broken by a newline. -/
structure Takes (close : Option Char) (lexer : Lexer) (draft : Draft) (rest : Text) : Prop where
  goesOn : lexer.AtCode rest → ¬ lexer.Stops close rest
  opensNothing : lexer.AtCode rest → rest.head? = some '<' →
    Reader.opensElement draft (.ofText rest) = false
  unbroken : ∀ quote, lexer.mode = .string quote → rest.head? ≠ some '\n'

theorem takes_of_atCode {close : Option Char} {lexer : Lexer} {draft : Draft} {c : Char}
    {rest : Text} (hc : lexer.AtCode (c :: rest))
    (hstop : isCloser c = true → lexer.depth = 0 → lexer.frame close ≠ some c)
    (hopens : c = '<' → Reader.opensElement draft (.ofText (c :: rest)) = false) :
    lexer.Takes close draft (c :: rest) where
  goesOn := by
    rintro - ⟨houter, hdepth, d, rfl, hd, hhead⟩
    obtain rfl : c = d := by simpa using hhead
    exact hstop hd hdepth (by simp [frame, houter])
  opensNothing := fun _ hlt => hopens (by simpa using hlt)
  unbroken := fun quote hm => absurd hc (by simp [AtCode, hm])

/-- Outside of code and strings, every character is copied. -/
theorem takes_of_mode {close : Option Char} {lexer : Lexer} {draft : Draft} {rest : Text}
    (hc : ¬ lexer.AtCode rest) (hs : ∀ quote, lexer.mode ≠ .string quote) :
    lexer.Takes close draft rest :=
  ⟨fun h => absurd h hc, fun h => absurd h hc, fun quote h => absurd h (hs quote)⟩

/-- The reader copies all of `text`, with `rest` behind it. -/
def Copies (close : Option Char) : Lexer → Draft → Text → Text → Prop
  | _, _, [], _ => True
  | lexer, draft, c :: text, rest =>
    lexer.Takes close draft (c :: text ++ rest) ∧
      Copies close (lexer.step c) (draft.push c) text rest

theorem copies_append {close : Option Char} {lexer : Lexer} {draft : Draft} {s t rest : Text} :
    Copies close lexer draft (s ++ t) rest ↔
      Copies close lexer draft s (t ++ rest) ∧
        Copies close (lexer.after s) (draft.pushAll s) t rest := by
  induction s generalizing lexer draft with
  | nil => simp [Copies, after_nil, Draft.pushAll]
  | cons c s ih =>
    have hp : draft.pushAll (c :: s) = (draft.push c).pushAll s := rfl
    simp only [List.cons_append, Copies, ih, after_cons, hp, List.append_assoc, and_assoc]

/-- Whether a `<` opens an element is decided by the one character behind it. -/
theorem opensElement_congr {draft : Draft} {c : Char} {rest rest' : Text}
    (h : rest.head? = rest'.head?) :
    Reader.opensElement draft (.ofText (c :: rest)) =
      Reader.opensElement draft (.ofText (c :: rest')) := by
  have hp : ∀ r : Text, (Cursor.ofText (c :: r)).peekNext = r.head?.getD '\x00' := by
    intro r
    cases r <;> rfl
  rw [Reader.opensElement, Reader.opensElement, hp, hp, h]

theorem Takes.congr {close : Option Char} {lexer : Lexer} {draft : Draft} {c : Char}
    {rest rest' : Text} (h : rest.head? = rest'.head?)
    (ht : lexer.Takes close draft (c :: rest)) : lexer.Takes close draft (c :: rest') where
  goesOn := ht.goesOn
  opensNothing := fun hc hlt => by rw [← opensElement_congr h]; exact ht.opensNothing hc hlt
  unbroken := ht.unbroken

/-- Before anything but a `<`, what stands behind does not matter. -/
theorem Takes.congr_of_ne {close : Option Char} {lexer : Lexer} {draft : Draft} {c : Char}
    {rest rest' : Text} (hc : c ≠ '<') (ht : lexer.Takes close draft (c :: rest)) :
    lexer.Takes close draft (c :: rest') where
  goesOn := ht.goesOn
  opensNothing := fun _ hlt => absurd (by simpa using hlt) hc
  unbroken := ht.unbroken

theorem Copies.congr {close : Option Char} {lexer : Lexer} {draft : Draft} {text rest rest' : Text}
    (h : rest.head? = rest'.head?) (hcopies : Copies close lexer draft text rest) :
    Copies close lexer draft text rest' := by
  induction text generalizing lexer draft with
  | nil => trivial
  | cons c text ih =>
    have hhead : (text ++ rest).head? = (text ++ rest').head? := by
      rw [List.head?_append, List.head?_append, h]
    exact ⟨hcopies.1.congr hhead, ih hcopies.2⟩

theorem Copies.congr_of_last {close : Option Char} {lexer : Lexer} {draft : Draft}
    {text rest rest' : Text} (hlast : ∀ c ∈ text.getLast?, c ≠ '<')
    (hcopies : Copies close lexer draft text rest) : Copies close lexer draft text rest' := by
  induction text generalizing lexer draft with
  | nil => trivial
  | cons c text ih =>
    cases text with
    | nil => exact ⟨hcopies.1.congr_of_ne (hlast c rfl), trivial⟩
    | cons d text =>
      have hhead : (d :: text ++ rest).head? = (d :: text ++ rest').head? := rfl
      exact ⟨hcopies.1.congr hhead, ih hlast hcopies.2⟩

/-! ## Strings are opened by quotes -/

/-- Strings are opened by quotes. -/
def Proper (lexer : Lexer) : Prop :=
  ∀ quote, lexer.mode = .string quote ∨ lexer.mode = .guarded quote → quote = '\'' ∨ quote = '"'

theorem Proper.of_mode {lexer : Lexer} (hs : ∀ quote, lexer.mode ≠ .string quote)
    (hg : ∀ quote, lexer.mode ≠ .guarded quote) : lexer.Proper := by
  rintro quote (h | h)
  · exact absurd h (hs quote)
  · exact absurd h (hg quote)

theorem proper_initial : initial.Proper := .of_mode nofun nofun

theorem proper_inCode (lexer : Lexer) : lexer.inCode.Proper := .of_mode nofun nofun

theorem proper_codeStep (lexer : Lexer) (c : Char) : (lexer.codeStep c).Proper := by
  unfold codeStep
  split
  · exact .of_mode nofun nofun
  split
  · split
    · exact .of_mode nofun nofun
    · split <;> exact .of_mode nofun nofun
  split
  next hquote =>
    rintro quote (h | h)
    · obtain rfl : c = quote := by simpa using h
      simpa using hquote
    · cases h
  split
  · exact .of_mode nofun nofun
  split <;> exact .of_mode nofun nofun

theorem proper_rawStep (lexer : Lexer) (c : Char) : (lexer.rawStep c).Proper := by
  unfold rawStep
  split
  · exact .of_mode nofun nofun
  split
  · exact .of_mode nofun nofun
  split <;> exact .of_mode nofun nofun

theorem Proper.step {lexer : Lexer} (h : lexer.Proper) (c : Char) : (lexer.step c).Proper := by
  obtain ⟨mode, depth, outer⟩ := lexer
  unfold Lexer.step
  cases mode with
  | code => exact proper_codeStep _ c
  | slash =>
    dsimp only
    split
    · exact .of_mode nofun nofun
    split
    · exact .of_mode nofun nofun
    · exact proper_codeStep _ c
  | line => dsimp only; split <;> exact .of_mode nofun nofun
  | block => dsimp only; split <;> exact .of_mode nofun nofun
  | star =>
    dsimp only
    split
    · exact .of_mode nofun nofun
    split <;> exact .of_mode nofun nofun
  | string quote =>
    have hquote := h quote (.inl rfl)
    dsimp only
    split
    · rintro other (h | h)
      · cases h
      · cases h; exact hquote
    split
    · exact .of_mode nofun nofun
    · exact h
  | guarded quote =>
    rintro other (h' | h')
    · cases h'; exact h _ (.inr rfl)
    · cases h'
  | raw => exact proper_rawStep _ c
  | rawGuarded => exact .of_mode nofun nofun
  | dollar =>
    dsimp only
    split
    · exact .of_mode nofun nofun
    · exact proper_rawStep _ c

theorem Proper.after {lexer : Lexer} (h : lexer.Proper) (text : Text) :
    (lexer.after text).Proper := by
  induction text generalizing lexer with
  | nil => exact h
  | cons c text ih => exact ih (h.step c)

/-! ## The parenthesis of a call -/

/-- What may stand around the parenthesis of a call. -/
def aroundCall (c : Char) : Bool := isBlank c || c == '('

theorem ne_of_aroundCall {c : Char} (h : aroundCall c = true) :
    ∀ d ∈ ['\\', '\x60', '$', '{', '/', '*', '\'', '"'], c ≠ d := by
  rintro d hd rfl
  have hnone : ∀ d ∈ ['\\', '\x60', '$', '{', '/', '*', '\'', '"'], aroundCall d = false :=
    Text.eq_false_of_all (by decide)
  rw [hnone c hd] at h
  cases h

/-- Blanks and parentheses end no string, block comment or template literal. -/
theorem step_aroundCall {lexer : Lexer} (hp : lexer.Proper) {c : Char} (hc : aroundCall c = true)
    (hm : lexer.mode ≠ .code ∧ lexer.mode ≠ .slash ∧ lexer.mode ≠ .line) :
    (lexer.step c).mode ≠ .code ∧ (lexer.step c).mode ≠ .slash ∧ (lexer.step c).mode ≠ .line := by
  have hne := ne_of_aroundCall hc
  simp only [List.mem_cons, List.not_mem_nil, or_false, forall_eq_or_imp, forall_eq] at hne
  obtain ⟨hguard, htick, hdollar, hbrace, hslash, hstar, hsingle, hdouble⟩ := hne
  obtain ⟨mode, depth, outer⟩ := lexer
  cases mode with
  | string quote =>
    have hquote : c ≠ quote := by
      rcases hp quote (.inl rfl) with rfl | rfl <;> assumption
    simp [step, hguard, hquote]
  | _ => simp_all [step, rawStep]

/-- What stands around the parenthesis of a call whose argument is an element is code, but for a
line comment that ends there. -/
theorem mode_of_aroundCall {lexer : Lexer} (hp : lexer.Proper) {text rest : Text}
    (htext : ∀ c ∈ text, aroundCall c = true) (hc : (lexer.after text).AtCode rest) :
    lexer.mode = .code ∨ lexer.mode = .slash ∨ lexer.mode = .line := by
  refine Decidable.byContradiction fun hm => ?_
  simp only [not_or] at hm
  have hend : (lexer.after text).mode ≠ .code ∧ (lexer.after text).mode ≠ .slash ∧
      (lexer.after text).mode ≠ .line := by
    clear hc
    induction text generalizing lexer with
    | nil => exact hm
    | cons c text ih =>
      exact ih (hp.step c) (fun d hd => htext d (by simp [hd]))
        (step_aroundCall hp (htext c (by simp)) hm)
  unfold AtCode at hc
  split at hc <;> simp_all

/-- Code, perhaps behind a slash. -/
def Open (lexer : Lexer) : Prop := lexer.mode = .code ∨ lexer.mode = .slash

theorem open_of_atCode {lexer : Lexer} {c : Char} {rest : Text} (h : lexer.AtCode (c :: rest))
    (hc : c ≠ '\n') : lexer.Open := by
  obtain ⟨mode, depth, outer⟩ := lexer
  cases mode with
  | code => exact .inl rfl
  | slash => exact .inr rfl
  | line => exact absurd (h c rfl) hc
  | _ => exact h.elim

theorem Open.step {lexer : Lexer} (h : lexer.Open) {c : Char} (hslash : c ≠ '/') (hstar : c ≠ '*') :
    lexer.step c = lexer.codeStep c := by
  rcases h with hm | hm <;> simp [Lexer.step, hm, hslash, hstar]

theorem Open.step_blank {lexer : Lexer} (h : lexer.Open) {c : Char} (hc : isBlank c = true) :
    lexer.step c = lexer.inCode := by
  have hne : ∀ d, isBlank d = false → c ≠ d := by
    rintro d hd rfl
    rw [hd] at hc
    cases hc
  have hplain : isOpener c = false ∧ isCloser c = false := by
    simp only [isOpener, isCloser, Bool.or_eq_false_iff, beq_eq_false_iff_ne]
    exact ⟨⟨⟨hne _ (by decide), hne _ (by decide)⟩, hne _ (by decide)⟩,
      ⟨⟨hne _ (by decide), hne _ (by decide)⟩, hne _ (by decide)⟩⟩
  rw [h.step (hne _ (by decide)) (hne _ (by decide))]
  exact codeStep_plain hplain.1 hplain.2 ⟨hne _ (by decide), hne _ (by decide)⟩
    (hne _ (by decide)) (hne _ (by decide)) lexer

/-- Blanks in code do not matter, but for a slash before them. -/
theorem Open.after_blanks {lexer : Lexer} (h : lexer.Open) {blanks : Text} (hb : blanks.isBlank) :
    lexer.after blanks = lexer ∨ lexer.after blanks = lexer.inCode := by
  induction blanks generalizing lexer with
  | nil => exact .inl rfl
  | cons c blanks ih =>
    simp only [Text.isBlank, List.all_cons, Bool.and_eq_true] at hb
    rw [after_cons, h.step_blank hb.1]
    exact .inr ((ih (.inl rfl) hb.2).elim id id)

/-- The parenthesis of a call is one more bracket, with blanks around it or without. -/
theorem Open.after_paren {lexer : Lexer} (h : lexer.Open) {before behind : Text}
    (hbefore : before.isBlank) (hbehind : behind.isBlank) :
    lexer.after (before ++ '(' :: behind) = ⟨.code, lexer.depth + 1, lexer.outer⟩ := by
  have hparen : (lexer.after before).step '(' = ⟨.code, lexer.depth + 1, lexer.outer⟩ := by
    rcases h.after_blanks hbefore with hb | hb
    · rw [hb, h.step (by decide) (by decide), codeStep_opener (by decide)]
    · rw [hb]
      rfl
  have hcode : Open ⟨.code, lexer.depth + 1, lexer.outer⟩ := .inl rfl
  rw [after_append, after_cons, hparen]
  exact (hcode.after_blanks hbehind).elim id id

end Lexer

end JsxTemplate
