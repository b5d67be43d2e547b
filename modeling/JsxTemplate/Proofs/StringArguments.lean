import JsxTemplate.Proofs.Output
import JsxTemplate.Proofs.Regular

/-
  Calls with a string in the callee, as in `f("a")(<br/>)`. The reader copies a string whole, but
  the walk back to the callee counts the brackets in it as if they were code. So the callee is found
  exactly where the text before the parenthesis is a chain for the walk (`parse_string_argument`),
  as it is if the brackets in the string are balanced.
-/

namespace JsxTemplate

/-! ## Copying strings -/

namespace Lexer

/-- A string without its own quote, backslashes and newlines is copied up to its closing quote. -/
theorem copies_string {quote : Char} (hquote : quote = '\'' ∨ quote = '"') {body : Text}
    (hbody : ∀ c ∈ body, c ≠ quote ∧ c ≠ '\\' ∧ c ≠ '\n') {lexer : Lexer}
    (hm : lexer.mode = .string quote) (close : Option Char) (draft : Draft) (rest : Text) :
    lexer.Copies close draft (body ++ [quote]) rest ∧
      lexer.after (body ++ [quote]) = lexer.inCode := by
  have htakes : ∀ {c : Char}, c ≠ '\n' → ∀ draft rest, lexer.Takes close draft (c :: rest) := by
    intro c hc draft rest
    have hcode : ¬ lexer.AtCode (c :: rest) := by simp [AtCode, hm]
    exact ⟨fun h => absurd h hcode, fun h => absurd h hcode, fun _ _ => by simpa using hc⟩
  induction body generalizing draft with
  | nil =>
    have hstep : lexer.step quote = lexer.inCode := by
      rcases hquote with rfl | rfl <;> simp [step, hm]
    have hc : quote ≠ '\n' := by
      rcases hquote with rfl | rfl <;> decide
    exact ⟨⟨htakes hc draft rest, trivial⟩, hstep⟩
  | cons c body ih =>
    obtain ⟨hend, hguard, hnewline⟩ := hbody c (by simp)
    have hstep : lexer.step c = lexer := by
      simp [step, hm, hend, hguard]
    obtain ⟨hcopies, hafter⟩ := ih (fun d hd => hbody d (by simp [hd])) (draft.push c)
    rw [List.cons_append, Copies, after_cons, hstep]
    exact ⟨⟨htakes hnewline draft _, hcopies⟩, hafter⟩

/-- A stretch that is copied, and one behind it. -/
theorem copies_trans {close : Option Char} {lexer middle last : Lexer} {draft : Draft}
    {s t rest : Text} (hs : lexer.Copies close draft s (t ++ rest) ∧ lexer.after s = middle)
    (ht : middle.Copies close (draft.pushAll s) t rest ∧ middle.after t = last) :
    lexer.Copies close draft (s ++ t) rest ∧ lexer.after (s ++ t) = last := by
  obtain ⟨hs, rfl⟩ := hs
  rw [copies_append, after_append]
  exact ⟨⟨hs, ht.1⟩, ht.2⟩

/-- In code, a string is copied with its quotes. -/
theorem copies_quoted {quote : Char} (hquote : quote = '\'' ∨ quote = '"') {body : Text}
    (hbody : ∀ c ∈ body, c ≠ quote ∧ c ≠ '\\' ∧ c ≠ '\n') (depth : Nat) (close : Option Char)
    (draft : Draft) (rest : Text) :
    Copies close ⟨.code, depth, []⟩ draft (quote :: body ++ [quote]) rest ∧
      after ⟨.code, depth, []⟩ (quote :: body ++ [quote]) = ⟨.code, depth, []⟩ := by
  have hopen : step ⟨.code, depth, []⟩ quote = ⟨.string quote, depth, []⟩ := by
    rcases hquote with rfl | rfl <;> rfl
  have htakes : Takes close ⟨.code, depth, []⟩ draft (quote :: (body ++ [quote]) ++ rest) := by
    refine takes_of_atCode trivial ?_ ?_ <;> rcases hquote with rfl | rfl <;> nofun
  have hmode : (⟨.string quote, depth, []⟩ : Lexer).mode = .string quote := rfl
  obtain ⟨hcopies, hafter⟩ := copies_string hquote hbody hmode close (draft.push quote) rest
  rw [List.cons_append, Copies, after_cons, hopen]
  exact ⟨⟨htakes, hcopies⟩, hafter⟩

end Lexer

/-! ## An element as the only argument -/

/-- What code is read as, with an element in parentheses behind it. -/
def argumentNodes (code : Text) (element : Element) : Expression :=
  match Callee.ofPending? ('(' :: code.reverse) with
  | some callee => codeNodes callee.before.reverse ++ [.call callee.text element]
  | none => [.code (code ++ ['(']), .markup element, .code [')']]

theorem argumentNodes_eq_call_iff {code : Text} {element : Element} :
    argumentNodes code element = [.call code element] ↔
      Callee.ofPending? ('(' :: code.reverse) = some ⟨code, []⟩ := by
  unfold argumentNodes
  split
  next callee hcallee =>
    rw [hcallee, Option.some.injEq]
    constructor
    · intro h
      obtain ⟨text, before⟩ := callee
      unfold codeNodes at h
      split at h
      next hempty =>
        obtain rfl : before = [] := by simpa using hempty
        obtain rfl : text = code := by simpa using h
        rfl
      next => simp at h
    · rintro rfl
      rfl
  next hnone =>
    rw [hnone]
    simp

theorem argumentNodes_unplaced (code : Text) (element : Element) :
    (argumentNodes code element).unplaced = argumentNodes code element.unplaced := by
  unfold argumentNodes codeNodes
  split
  · split <;> rfl
  · rfl

/-- An element in parentheses is read behind any code that is copied, whether called or not. -/
theorem argumentNodes_spelled {code own : Text} {element : Element} {depth : Nat}
    (hcopies : Lexer.initial.Copies none .empty (code ++ ['(']) (own ++ [')']))
    (hafter : Lexer.initial.after (code ++ ['(']) = ⟨.code, depth, []⟩)
    (hown : element.Spelled own)
    (hopens : Reader.opensElement (Draft.empty.pushAll (code ++ ['('])) (.ofText (own ++ [')'])) =
      true) :
    (argumentNodes code element).Spelled (code ++ ['('] ++ (own ++ [')'])) := by
  obtain ⟨draft, hdraft⟩ : ∃ draft, Draft.empty.pushAll (code ++ ['(']) = draft := ⟨_, rfl⟩
  rw [hdraft] at hopens
  have hnodes : draft.nodes = [] := by rw [← hdraft]; rfl
  have hpending : draft.pending = '(' :: code.reverse := by
    rw [← hdraft, Draft.pushAll_pending]
    simp [Draft.empty]
  have hreverse : draft.pending.reverse = code ++ ['('] := by rw [hpending]; simp
  have hcallee : Reader.callee? draft (.ofText [')']) =
      Callee.ofPending? ('(' :: code.reverse) := by
    rw [callee?_of_paren (show Text.isBlank [] from rfl) rfl, hpending]
  have hends : ∀ depth, Lexer.Ends none ⟨.code, depth, []⟩ := fun depth =>
    ⟨trivial, rfl, by simp⟩
  -- Whatever the draft ends as, it is spelled if it is reached from behind the parenthesis.
  have hspelled : ∀ {final : Draft}, Continues none final [] ⟨.code, depth, []⟩ draft
      (.ofText (own ++ [')'])) →
      Expression.Spelled final.finish (code ++ ['('] ++ (own ++ [')'])) := by
    intro final h
    unfold Continues at h
    rw [hreverse, hnodes] at h
    obtain ⟨nodes, text, hfinish, htext, hspelled⟩ := h .initial hafter.symm hcopies
    have htext : own ++ [')'] = text := by simpa [Cursor.ofText] using htext
    rw [htext, show final.finish = nodes from hfinish]
    exact hspelled
  unfold argumentNodes
  split
  next callee hfound =>
    have hfinish : (Draft.add ⟨draft.nodes, callee.before⟩ (.call callee.text element)).finish =
        codeNodes callee.before.reverse ++ [.call callee.text element] := by
      rw [Draft.finish_add, Draft.finish, settle_nodes_reverse, hnodes]
      rfl
    rw [← hfinish]
    exact hspelled (continues_call hown rfl trivial hopens (hcallee.trans hfound)
      (continues_end (hends _) rfl))
  next hfound =>
    have hfinish : ((draft.add (.markup element)).pushAll [')']).finish =
        [.code (code ++ ['(']), .markup element, .code [')']] := by
      rw [Draft.finish_pushAll (draft.add_pending _) (by simp), Draft.finish_add, ← hdraft,
        Draft.finish_pushAll rfl (by simp)]
      rfl
    have htakes : Lexer.Takes none ⟨.code, depth, []⟩ (draft.add (.markup element)) [')'] :=
      Lexer.takes_of_atCode trivial (by simp [Lexer.frame]) (fun hlt => absurd hlt (by decide))
    have hclose : (Lexer.inCode ⟨.code, depth, []⟩).step ')' = ⟨.code, depth - 1, []⟩ := by
      cases depth <;> rfl
    rw [← hfinish]
    refine hspelled (continues_markup rfl (by simp) hown rfl trivial hopens (hcallee.trans hfound)
      (continues_copy rfl htakes ?_))
    rw [hclose]
    exact continues_end (hends _) rfl

/-! ## A string as the argument before it -/

/-- A function called with a string. -/
def stringCall (name : Text) (quote : Char) (body : Text) : Text :=
  name ++ '(' :: (quote :: body ++ [quote]) ++ [')']

/-- The element `<br/>`. -/
def lineBreak : Element := ⟨"br".toList, [], [], true, none, .nowhere⟩

theorem lineBreak_spelled : lineBreak.Spelled "<br/>".toList := by
  unfold lineBreak Element.Spelled
  refine ⟨by decide, List.all_eq_true.1 (by decide), [], ?_, rfl, rfl, rfl⟩
  unfold attributesSpelled
  rfl

section StringCall

variable {name body : Text} {quote : Char}

theorem takeWhile_stringCall (hname : IsIdentifier name) :
    (stringCall name quote body).takeWhile isIdentifierChar = name := by
  rw [stringCall, List.append_assoc, List.takeWhile_append_of_pos hname.2, List.cons_append,
    List.takeWhile_cons_of_neg (by decide), List.append_nil]

/-- Quotes are no brackets. -/
theorem looseChain_stringCall (hquote : quote = '\'' ∨ quote = '"') (h : Balanced body) :
    LooseChain name true (stringCall name quote body) := by
  have hquote : ∀ c ∈ [quote], isOpener c = false ∧ isCloser c = false := by
    rw [List.forall_mem_singleton]
    rcases hquote with rfl | rfl <;> decide
  have hinside : Balanced (quote :: body ++ [quote]) := by
    show openAfter? 0 ([quote] ++ body ++ [quote]) = some 0
    rw [openAfter?_append, openAfter?_append, openAfter?_of_plain hquote, Option.bind_some,
      show openAfter? 0 body = some 0 from h, Option.bind_some, openAfter?_of_plain hquote]
  have hroot : LooseChain name false name := .root
  have hgroup := hroot.group (.inl rfl) (show isOpener '(' = true by decide)
    (.inl (Eq.refl ')')) hinside
  rw [List.append_nil] at hgroup
  exact hgroup

/-- Behind the call, a parenthesis is copied as code. -/
theorem copies_stringCall (hname : IsIdentifier name) (hquote : quote = '\'' ∨ quote = '"')
    (hbody : ∀ c ∈ body, c ≠ quote ∧ c ≠ '\\' ∧ c ≠ '\n') (rest : Text) :
    Lexer.initial.Copies none .empty (stringCall name quote body ++ ['(']) rest ∧
      Lexer.initial.after (stringCall name quote body ++ ['(']) = ⟨.code, 1, []⟩ := by
  have hplain : ∀ c ∈ name ++ ['('], isPlain c = true := by
    intro c hc
    rcases List.mem_append.1 hc with hc | hc
    · exact isPlain_of_isIdentifierChar (hname.2 c hc)
    · obtain rfl := List.mem_singleton.1 hc
      decide
  have hopen : openAfter? 0 (name ++ ['(']) = some 1 := by
    rw [openAfter?_append,
      openAfter?_of_plain fun c hc => bracket_of_isIdentifierChar (hname.2 c hc)]
    rfl
  have hclose : ∀ c ∈ [')', '('], isPlain c = true := List.all_eq_true.1 (by decide)
  have hsplit : stringCall name quote body ++ ['('] =
      name ++ ['('] ++ (quote :: body ++ [quote]) ++ [')', '('] := by
    simp [stringCall]
  rw [hsplit]
  apply Lexer.copies_trans
  · exact Lexer.copies_trans (copies_of_isPlain hplain hopen .empty _)
      (Lexer.copies_quoted hquote hbody 1 none _ _)
  · exact copies_of_isPlain hclose rfl _ rest

theorem transformSource_of_call {source callee : Text} {found : Expression}
    (hparse : parse source = .ok found) (hfound : found.unplaced = [.call callee lineBreak])
    (overrides : Overrides) :
    transformSource overrides source = .ok (callee ++ "`<br/>`".toList) := by
  have hcompiled : compileNodes (.merge overrides) found =
      .ok [.tagged callee ⟨[⟨"<br/>".toList, "<br/>".toList, true⟩], []⟩] := by
    rw [← compileNodes_unplaced, show nodesUnplaced found = _ from hfound]
    rfl
  refine transformSource_eq_ok_iff.2 ⟨found, _, hparse, hcompiled, ?_⟩
  rw [nodesSource, nodesSource, List.append_nil]
  rfl

/-- A string in the callee. Whatever the string, the source is read. The callee is found exactly if
it is a chain when all its brackets are counted, those in the string too, and then the output is the
callee tagged with the template. Balanced brackets in the string are enough. -/
theorem parse_string_argument (hname : IsIdentifier name) (hkeyword : isKeyword name = false)
    (hdigit : ∀ c ∈ name.head?, c.isDigit = false) (hquote : quote = '\'' ∨ quote = '"')
    (hbody : ∀ c ∈ body, c ≠ quote ∧ c ≠ '\\' ∧ c ≠ '\n') :
    ∃ found : Expression,
      parse (stringCall name quote body ++ "(<br/>)".toList) = .ok found ∧
      found.unplaced = argumentNodes (stringCall name quote body) lineBreak ∧
      (found.unplaced = [.call (stringCall name quote body) lineBreak] ↔
        ∃ called, LooseChain name called (stringCall name quote body)) ∧
      (found.unplaced = [.call (stringCall name quote body) lineBreak] → ∀ overrides : Overrides,
        transformSource overrides (stringCall name quote body ++ "(<br/>)".toList) =
          .ok (stringCall name quote body ++ "`<br/>`".toList)) ∧
      (Balanced body → found.unplaced = [.call (stringCall name quote body) lineBreak]) := by
  obtain ⟨hcopies, hafter⟩ := copies_stringCall hname hquote hbody ("<br/>".toList ++ [')'])
  have hopens : Reader.opensElement (Draft.empty.pushAll (stringCall name quote body ++ ['(']))
      (.ofText ("<br/>".toList ++ [')'])) = true := by
    have hstart := atExpressionStart_call (show Text.isBlank [] from rfl) .empty
      (stringCall name quote body) []
    rw [List.append_nil] at hstart
    rw [Reader.opensElement, hstart]
    decide
  have hsource : stringCall name quote body ++ ['('] ++ ("<br/>".toList ++ [')']) =
      stringCall name quote body ++ "(<br/>)".toList := by simp
  have hspelled := argumentNodes_spelled hcopies hafter lineBreak_spelled hopens
  rw [hsource] at hspelled
  obtain ⟨found, hparse, hfound⟩ := parse_of_spelled hspelled
  rw [argumentNodes_unplaced] at hfound
  have hfound : found.unplaced = argumentNodes (stringCall name quote body) lineBreak := hfound
  have hcall : found.unplaced = [.call (stringCall name quote body) lineBreak] ↔
      ∃ called, LooseChain name called (stringCall name quote body) := by
    rw [hfound, argumentNodes_eq_call_iff]
    exact ofPending?_eq_self_iff hname hkeyword hdigit (takeWhile_stringCall hname)
  exact ⟨found, hparse, hfound, hcall, transformSource_of_call hparse,
    fun hbalanced => hcall.2 ⟨true, looseChain_stringCall hquote hbalanced⟩⟩

/-- Balanced brackets in the string, and a lone one: it closes the call, as far as brackets are
counted, so that the last one has nothing to close, and the element is no argument. -/
theorem parse_string_argument_brackets :
    transformSource .empty "f(\"(a)\")(<br/>)".toList = .ok "f(\"(a)\")`<br/>`".toList ∧
      transformSource .empty "f(\")\")(<br/>)".toList = .ok "f(\")\")(`<br/>`)".toList ∧
      ¬ ∃ called, LooseChain ['f'] called (stringCall ['f'] '"' [')']) := by
  have hname : IsIdentifier ['f'] := ⟨by decide, List.all_eq_true.1 (by decide)⟩
  have hdigit : ∀ c ∈ ['f'].head?, c.isDigit = false := by
    rintro c ⟨⟩
    decide
  have hquote : '"' = '\'' ∨ '"' = '"' := .inr rfl
  obtain ⟨found, hparse, -, -, houtput, hbalanced⟩ :=
    parse_string_argument hname (by decide) hdigit hquote
      (show ∀ c ∈ "(a)".toList, c ≠ '"' ∧ c ≠ '\\' ∧ c ≠ '\n' by simp)
  obtain ⟨other, hother, hnodes, hcall, -⟩ :=
    parse_string_argument hname (by decide) hdigit hquote
      (show ∀ c ∈ [')'], c ≠ '"' ∧ c ≠ '\\' ∧ c ≠ '\n' by simp)
  refine ⟨houtput (hbalanced rfl) .empty, by decide +kernel, ?_⟩
  rw [← hcall, hnodes, argumentNodes_eq_call_iff]
  decide +kernel

end StringCall

end JsxTemplate
