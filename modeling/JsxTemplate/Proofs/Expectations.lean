import JsxTemplate.Proofs.Recursion

/-
  Who reports a fault, and which faults nobody reports. A reader reports what is wrong with its own
  stretch of the source and passes on what the readers that it calls report (`accounts_of_answer`),
  so every error comes from a call that reading the source comes to. Four brackets are looked for
  though they are known to stand there: the `<` of an element and the brace of a hole, on which the
  reader was put, and the brace that closes a hole of markup or of a template literal, at which code
  has stopped. Main statement: `expectationsHold`.
-/

namespace JsxTemplate

namespace Reader

/-! ## Errors of a single call -/

theorem bind_eq_error {ε α β : Type} {x : Except ε α} {f : α → Except ε β} {e : ε}
    (h : x >>= f = .error e) : x = .error e ∨ ∃ a, x = .ok a ∧ f a = .error e := by
  cases x with
  | error stop =>
    cases h
    exact .inl rfl
  | ok a => exact .inr ⟨a, rfl, h⟩

theorem eq_of_faultAt {α : Type} {place : Place} {fault : Fault} {error : ParseError}
    (h : (faultAt place fault : Except Stop α) = .error (.fault error)) : error.fault = fault := by
  cases h
  rfl

theorem eq_of_expect {cursor : Cursor} {wanted : Char} {purpose : Text} {error : ParseError}
    (h : expect cursor wanted purpose = .error (.fault error)) :
    error.fault = .expected wanted purpose cursor.rest.head? := by
  unfold expect Cursor.expect at h
  split at h
  · cases h
  · cases h
    rfl

/-- Where the bracket stands, only what is read behind it can go wrong. -/
theorem error_behind {β : Type} {cursor : Cursor} {wanted : Char} {rest purpose : Text}
    {f : Cursor → Except Stop β} {stop : Stop} (hr : cursor.rest = wanted :: rest)
    (h : expect cursor wanted purpose >>= f = .error stop) : f cursor.next = .error stop := by
  rw [expect_of_rest hr] at h
  exact h

/-- Code that is to end at a bracket ends in front of it, however many brackets were open. -/
theorem rest_of_code {fuel : Nat} {close : Char} {start : Place} {depth : Nat}
    {draft draft' : Draft} {cursor behind : Cursor}
    (h : code fuel (some close) start depth draft cursor = .ok (draft', behind)) :
    ∃ rest, behind.rest = close :: rest := by
  -- The lexer of code with `depth` open brackets and no template literal around it.
  obtain ⟨lexer, -, -, -, -, -, hhead⟩ :=
    (runs fuel fuel (Nat.le_refl fuel)).code h (some close) ⟨.code, depth, []⟩ trivial rfl rfl
  exact List.head?_eq_some_iff.1 hhead

namespace Call

/-- What a reader finds wrong with its own stretch of the source. -/
def Reports : Call → Fault → Prop
  | code close .., fault =>
    (∃ c ∈ close, fault = .unterminatedExpression c) ∨ fault = .unterminatedString ∨
      fault = .unterminatedComment
  | template .., fault => fault = .unterminatedTemplate
  | element _, fault => fault = .fragment ∨ fault = .missingTag
  | attributes tag .., fault =>
    fault = .unterminatedTag tag ∨ fault = .spreadAttribute ∨
      (∃ c, fault = .unexpectedInTag tag c) ∨
      ∃ found, fault = .expected '>' "after '/' in a self-closing tag".toList found
  | oneAttribute _, fault => ∃ name, fault = .missingValue name ∨ fault = .unterminatedValue name
  | hole _, _ => False
  | children tag .., fault =>
    fault = .unclosedElement tag ∨ (∃ name, fault = .mismatchedClosing tag name) ∨
      ∃ found, fault = .expected '>' "to end a closing tag".toList found
  | verbatim .., _ => False

/-- The call reports the error itself, or passes it on from a call that it makes. -/
def Accounts (fuel : Nat) (call : Call) (error : ParseError) : Prop :=
  call.Reports error.fault ∨
    ∃ next, Calls fuel call next ∧ next.answer fuel = .error (.fault error)

end Call

section Accounts

variable {fuel : Nat} {error : ParseError}

theorem accounts_of_code {close : Option Char} {start : Place} {depth : Nat} {draft : Draft}
    {cursor : Cursor}
    (h : code (fuel + 1) close start depth draft cursor = .error (.fault error)) :
    (Call.code close start depth draft cursor).Accounts fuel error := by
  unfold code at h
  split at h
  next hr =>
    split at h
    next c => exact .inl (.inl ⟨c, rfl, eq_of_faultAt h⟩)
    next => cases h
  next c rest hr =>
    split at h
    next hopen => exact .inr ⟨_, .codeOpener hr hopen, h⟩
    next hopen =>
    split at h
    next hclose =>
      split at h
      next => cases h
      next hgo => exact .inr ⟨_, .codeCloser hr hclose (by simpa using hgo), h⟩
    next hclose =>
    split at h
    next hquote =>
      split at h
      next => exact .inl (.inr (.inl (eq_of_faultAt h)))
      next body hbody => exact .inr ⟨_, .codePastString hr (by simpa using hquote) hbody, h⟩
    next hquote =>
    split at h
    next htick =>
      obtain rfl : c = '\x60' := by simpa using htick
      rcases bind_eq_error h with hinner | ⟨found, hfound, hbehind⟩
      · exact .inr ⟨_, .codeTemplate hr, hinner⟩
      · exact .inr ⟨_, .codePastTemplate hr hfound, hbehind⟩
    next htick =>
    split at h
    next hline =>
      obtain ⟨rfl, hnext⟩ : c = '/' ∧ cursor.peekNext = '/' := by simpa using hline
      exact .inr ⟨_, .codeLine hr hnext, h⟩
    next hline =>
    split at h
    next hblock =>
      obtain ⟨rfl, hnext⟩ : c = '/' ∧ cursor.peekNext = '*' := by simpa using hblock
      obtain ⟨tail, rfl⟩ := List.head?_eq_some_iff.1 ((peekNext_eq_iff hr (by decide)).1 hnext)
      split at h
      next => exact .inl (.inr (.inr (eq_of_faultAt h)))
      next body hbody => exact .inr ⟨_, .codePastBlock hr hbody, h⟩
    next hblock =>
    split at h
    next hmarkup =>
      obtain ⟨rfl, hopens⟩ : c = '<' ∧ opensElement draft cursor = true := by
        simpa using hmarkup
      rcases bind_eq_error h with hinner | ⟨⟨found, behind⟩, hfound, hbehind⟩
      · exact .inr ⟨_, .codeElement hr hopens, hinner⟩
      · dsimp only at hbehind
        split at hbehind
        next callee hcallee => exact .inr ⟨_, .codePastCall hr hopens hfound hcallee, hbehind⟩
        next hcallee => exact .inr ⟨_, .codePastMarkup hr hopens hfound hcallee, hbehind⟩
    next hmarkup => exact .inr ⟨_, .codePlain hr (by grind [copiesCode]), h⟩

theorem accounts_of_template {start : Place} {draft : Draft} {cursor : Cursor}
    (h : template (fuel + 1) start draft cursor = .error (.fault error)) :
    (Call.template start draft cursor).Accounts fuel error := by
  unfold template at h
  split at h
  next => exact .inl (eq_of_faultAt h)
  next c rest hr =>
    split at h
    next hguard =>
      obtain rfl : c = '\\' := by simpa using hguard
      split at h
      next => exact .inl (eq_of_faultAt h)
      next guarded tail => exact .inr ⟨_, .templateGuarded hr, h⟩
    next hguard =>
    split at h
    next => cases h
    next htick =>
    split at h
    next hhole =>
      obtain ⟨rfl, hnext⟩ : c = '$' ∧ cursor.peekNext = '{' := by simpa using hhole
      obtain ⟨tail, rfl⟩ := List.head?_eq_some_iff.1 ((peekNext_eq_iff hr (by decide)).1 hnext)
      rcases bind_eq_error h with hinner | ⟨⟨draft', closing⟩, hcode, hbehind⟩
      · exact .inr ⟨_, .templateHole hr, hinner⟩
      · -- The code of the hole has stopped at its brace, so that the brace is not missing.
        obtain ⟨rest', hr'⟩ := rest_of_code hcode
        exact .inr ⟨_, .templatePastHole hr hcode hr', error_behind hr' hbehind⟩
    next hhole => exact .inr ⟨_, .templatePlain hr (by grind [copiesRaw]), h⟩

theorem accounts_of_element {cursor : Cursor} (hentered : (Call.element cursor).Entered)
    (h : element (fuel + 1) cursor = .error (.fault error)) :
    (Call.element cursor).Accounts fuel error := by
  obtain ⟨rest, hr⟩ := hentered
  unfold element at h
  have hbehind := error_behind hr h
  split at hbehind
  next => exact .inl (.inl (eq_of_faultAt hbehind))
  next =>
    dsimp only at hbehind
    split at hbehind
    next => exact .inl (.inr (eq_of_faultAt hbehind))
    next htag =>
      have htag : cursor.next.ahead isTagChar ≠ [] := by simpa using htag
      rcases bind_eq_error hbehind with hinner | ⟨⟨found, closes, inner⟩, hfound, hlast⟩
      · exact .inr ⟨_, .elementAttributes hr htag, hinner⟩
      · dsimp only at hlast
        split at hlast
        next => cases hlast
        next hcloses =>
          obtain rfl : closes = false := by simpa using hcloses
          rcases bind_eq_error hlast with hinner | ⟨_, -, hdone⟩
          · exact .inr ⟨_, .elementChildren hr htag hfound, hinner⟩
          · cases hdone

theorem accounts_of_attributes {tag : Text} {start : Place} {found : List Attribute}
    {cursor : Cursor}
    (h : attributes (fuel + 1) tag start found cursor = .error (.fault error)) :
    (Call.attributes tag start found cursor).Accounts fuel error := by
  unfold attributes at h
  dsimp only at h
  split at h
  next => exact .inl (.inl (eq_of_faultAt h))
  next c rest hr =>
    split at h
    next =>
      rcases bind_eq_error h with hinner | ⟨_, -, hdone⟩
      · exact .inl (.inr (.inr (.inr ⟨_, eq_of_expect hinner⟩)))
      · cases hdone
    next =>
    split at h
    next => cases h
    next =>
    split at h
    next => exact .inl (.inr (.inl (eq_of_faultAt h)))
    next =>
    split at h
    next hc =>
      rcases bind_eq_error h with hinner | ⟨one, hone, hbehind⟩
      · exact .inr ⟨_, .attributesOne hr hc, hinner⟩
      · exact .inr ⟨_, .attributesPastOne hr hc hone, hbehind⟩
    next => exact .inl (.inr (.inr (.inl ⟨c, eq_of_faultAt h⟩)))

theorem accounts_of_oneAttribute {cursor : Cursor}
    (h : oneAttribute (fuel + 1) cursor = .error (.fault error)) :
    (Call.oneAttribute cursor).Accounts fuel error := by
  unfold oneAttribute at h
  dsimp only at h
  split at h
  next => cases h
  next after heat =>
    split at h
    next => exact .inl ⟨_, .inl (eq_of_faultAt h)⟩
    next c rest hr =>
      split at h
      next =>
        split at h
        next => exact .inl ⟨_, .inr (eq_of_faultAt h)⟩
        next => cases h
      next =>
      split at h
      next hc =>
        obtain rfl : c = '{' := by simpa using hc
        rcases bind_eq_error h with hinner | ⟨_, -, hdone⟩
        · exact .inr ⟨_, .oneHole heat hr, hinner⟩
        · cases hdone
      next => exact .inl ⟨_, .inl (eq_of_faultAt h)⟩

theorem accounts_of_hole {cursor : Cursor} (hentered : (Call.hole cursor).Entered)
    (h : hole (fuel + 1) cursor = .error (.fault error)) :
    (Call.hole cursor).Accounts fuel error := by
  obtain ⟨rest, hr⟩ := hentered
  unfold hole at h
  have hbehind := error_behind hr h
  rcases bind_eq_error hbehind with hinner | ⟨⟨draft, closing⟩, hcode, hlast⟩
  · exact .inr ⟨_, .holeCode hr, hinner⟩
  · -- Behind the code nothing is left but its brace, at which it has stopped.
    obtain ⟨rest', hr'⟩ := rest_of_code hcode
    have hdone := error_behind hr' hlast
    cases hdone

theorem accounts_of_children {tag : Text} {start : Place} {found : List Child} {cursor : Cursor}
    (h : children (fuel + 1) tag start found cursor = .error (.fault error)) :
    (Call.children tag start found cursor).Accounts fuel error := by
  unfold children at h
  split at h
  next => exact .inl (.inl (eq_of_faultAt h))
  next c rest hr =>
    split at h
    next hlt =>
      obtain rfl : c = '<' := by simpa using hlt
      split at h
      next =>
        rcases bind_eq_error h with hinner | ⟨_, -, hlast⟩
        · exact .inl (.inr (.inr ⟨_, eq_of_expect hinner⟩))
        · split at hlast
          next => cases hlast
          next => exact .inl (.inr (.inl ⟨_, eq_of_faultAt hlast⟩))
      next hopen =>
        have hopen : cursor.peekNext ≠ '/' := by simpa using hopen
        rcases bind_eq_error h with hinner | ⟨child, hchild, hbehind⟩
        · exact .inr ⟨_, .childrenElement hr hopen, hinner⟩
        · exact .inr ⟨_, .childrenPastElement hr hopen hchild, hbehind⟩
    next hlt =>
    split at h
    next hbrace =>
      obtain rfl : c = '{' := by simpa using hbrace
      rcases bind_eq_error h with hinner | ⟨child, hchild, hbehind⟩
      · exact .inr ⟨_, .childrenHole hr, hinner⟩
      · exact .inr ⟨_, .childrenPastHole hr hchild, hbehind⟩
    next hbrace =>
      exact .inr ⟨_, .childrenText hr ⟨by simpa using hlt, by simpa using hbrace⟩, h⟩

theorem accounts_of_answer {call : Call} (hentered : call.Entered)
    (h : call.answer (fuel + 1) = .error (.fault error)) : call.Accounts fuel error := by
  cases call with
  | code => exact accounts_of_code h
  | template => exact accounts_of_template h
  | element => exact accounts_of_element hentered h
  | attributes => exact accounts_of_attributes h
  | oneAttribute => exact accounts_of_oneAttribute h
  | hole => exact accounts_of_hole hentered h
  | children => exact accounts_of_children h
  | verbatim => cases h

end Accounts

/-! ## Errors of a whole source -/

/-- An error is passed on from call to call; the first of them reported it. -/
theorem reported_of_answer {source : Text} {fuel : Nat} {call : Call} {error : ParseError}
    (hmade : Call.MadeIn source call) (h : call.answer fuel = .error (.fault error)) :
    ∃ origin, Call.MadeIn source origin ∧ origin.Reports error.fault := by
  induction fuel generalizing call with
  | zero => cases call <;> cases h
  | succ fuel ih =>
    rcases accounts_of_answer hmade.entered h with hown | ⟨next, hcalls, hnext⟩
    · exact ⟨call, hmade, hown⟩
    · exact ih (hmade.tail ⟨fuel, hcalls⟩) hnext

theorem reported_of_parse {source : Text} {error : ParseError}
    (h : parse source = .error error) :
    ∃ origin, Call.MadeIn source origin ∧ origin.Reports error.fault := by
  have hanswer : (Call.ofSource source).answer (fuelFor source.length) = .error (.fault error) :=
    parse_eq_error_iff.1 h
  exact reported_of_answer .refl hanswer

/-! ## The words of an error -/

theorem Call.Reports.wanted {call : Call} {wanted : Char} {purpose : Text} {found : Option Char}
    (h : call.Reports (.expected wanted purpose found)) : wanted = '>' := by
  cases call with
  | attributes => simp_all [Call.Reports]
  | children => simp_all [Call.Reports]
  | _ => simp [Call.Reports] at h

theorem Call.Reports.ne_remark {call : Call} {fault : Fault} (h : call.Reports fault)
    (message : Text) : fault ≠ .remark message := by
  rintro rfl
  cases call <;> simp [Call.Reports] at h

end Reader

/-- The texts differ before either of them ends. -/
def Text.Differ (s t : Text) : Prop := ¬ s <+: t ∧ ¬ t <+: s

instance (s t : Text) : Decidable (s.Differ t) := inferInstanceAs (Decidable (_ ∧ _))

theorem Text.Differ.append {s t : Text} (h : s.Differ t) (behind : Text) :
    s.Differ (t ++ behind) := by
  have ht := List.prefix_append t behind
  refine ⟨fun hs => ?_, fun hs => h.2 (ht.trans hs)⟩
  exact (List.prefix_or_prefix_of_prefix hs ht).elim h.1 h.2

/-- A message that begins by naming an expected character is about that character. -/
theorem Fault.expected_of_message {fault : Fault} {c : Char}
    (hremark : ∀ message, fault ≠ .remark message)
    (h : "Expected '".toList ++ [c] <+: fault.message) :
    ∃ purpose found, fault = .expected c purpose found := by
  have hwords : "Expected '".toList <+: fault.message := (List.prefix_append _ _).trans h
  cases fault with
  | expected wanted purpose found =>
    have hown : "Expected '".toList ++ [wanted] <+: (expected wanted purpose found).message := by
      have hpurpose := (List.prefix_append ("Expected '".toList ++ [wanted]) "' ".toList).trans
        (List.prefix_append _ purpose)
      cases found with
      | none => exact hpurpose.trans (List.prefix_append _ _)
      | some d =>
        have hgot := hpurpose.trans (List.prefix_append _ ", got '".toList)
        exact (hgot.trans (List.prefix_append _ [d])).trans (List.prefix_append _ _)
    have heq := (List.prefix_of_prefix_length_le h hown (by simp)).eq_of_length (by simp)
    obtain rfl : c = wanted := by simpa using heq
    exact ⟨purpose, found, rfl⟩
  | remark message => exact absurd rfl (hremark message)
  | unterminatedString | unterminatedTemplate | unterminatedComment | fragment | missingTag
  | spreadAttribute => exact absurd hwords (by decide +kernel)
  | unexpectedInTag | mismatchedClosing =>
    -- Such a message quotes two texts of the source, with words between and behind them.
    refine absurd hwords ((((Text.Differ.append ?_ _).append _).append _).append _).1
    decide +kernel
  | _ =>
    refine absurd hwords ((Text.Differ.append ?_ _).append _).1
    decide +kernel

open Reader

/-- How a complaint would begin about a bracket that is looked for where it is known to stand. -/
def needlessComplaints : List Text :=
  ["Expected '<' to open an element".toList, "Expected '\x7b' to open an expression".toList,
    "Expected '\x7d' to close an expression".toList,
    "Expected '\x7d' to close template literal hole".toList]

theorem bracket_of_needlessComplaints {text : Text} (h : text ∈ needlessComplaints) :
    ∃ c, c ≠ '>' ∧ "Expected '".toList ++ [c] <+: text := by
  simp only [needlessComplaints, List.mem_cons, List.not_mem_nil, or_false] at h
  rcases h with rfl | rfl | rfl | rfl
  · exact ⟨'<', by decide, by decide +kernel⟩
  · exact ⟨'{', by decide, by decide +kernel⟩
  · exact ⟨'}', by decide, by decide +kernel⟩
  · exact ⟨'}', by decide, by decide +kernel⟩

theorem Reader.Call.Reports.not_needless {call : Call} {fault : Fault} (h : call.Reports fault)
    {text : Text} (htext : text ∈ needlessComplaints) : ¬ text <+: fault.message := by
  intro hmessage
  obtain ⟨c, hc, hwords⟩ := bracket_of_needlessComplaints htext
  obtain ⟨purpose, found, rfl⟩ :=
    Fault.expected_of_message h.ne_remark (hwords.trans hmessage)
  exact hc h.wanted

/-! ## Expectations that cannot fail -/

/-- The brackets on which the reader relies stand where it looks for them. -/
structure ExpectationsHold (source : Text) : Prop where
  /-- Code that is to end at a brace ends in front of one, and not with the source. -/
  stops : ∀ fuel start depth draft cursor draft' behind,
    code fuel (some '}') start depth draft cursor = .ok (draft', behind) →
    ∃ rest, behind.rest = '}' :: rest
  /-- Elements are read from their `<` on. -/
  element : ∀ cursor, Call.MadeIn source (.element cursor) → ∃ rest, cursor.rest = '<' :: rest
  /-- Holes are read from their brace on. -/
  hole : ∀ cursor, Call.MadeIn source (.hole cursor) → ∃ rest, cursor.rest = '{' :: rest
  /-- No call is left out: the others have no part in an answer. -/
  complete : ∀ fuel fuel' call,
    (∀ next, Calls fuel call next → next.answer fuel = next.answer fuel') →
    call.answer (fuel + 1) = call.answer (fuel' + 1)
  /-- An error is reported by a reader that finds its own stretch of the source at fault. -/
  reported : ∀ error, parse source = .error error →
    ∃ call, Call.MadeIn source call ∧ call.Reports error.fault
  /-- The one character ever found missing is the end of a tag. -/
  missing : ∀ error wanted purpose found, parse source = .error error →
    error.fault = .expected wanted purpose found → wanted = '>'
  /-- None of the needless complaints is made. -/
  silent : ∀ error, parse source = .error error →
    ∀ text ∈ needlessComplaints, ¬ text <+: error.message

/-- Whatever the source, no reader is put on a wrong character and none stops at a wrong one, so
that looking for those brackets never fails. -/
theorem expectationsHold (source : Text) : ExpectationsHold source := by
  refine ⟨?_, ?_, ?_, ?_, ?_, ?_, ?_⟩
  · intro fuel start depth draft cursor draft' behind hcode
    exact rest_of_code hcode
  · intro cursor hmade
    exact hmade.entered
  · intro cursor hmade
    exact hmade.entered
  · intro fuel fuel' call h
    exact answer_congr h
  · intro error herror
    exact reported_of_parse herror
  · intro error wanted purpose found herror hfault
    obtain ⟨call, -, hreports⟩ := reported_of_parse herror
    rw [hfault] at hreports
    exact hreports.wanted
  · intro error herror text htext
    obtain ⟨call, -, hreports⟩ := reported_of_parse herror
    exact hreports.not_needless htext

/-- A template literal in a hole is read up to the brace of the hole, and the one thing missing is
the end of the closing tag. -/
theorem expectationsHold_hole :
    ∃ (source : Text) (error : ParseError) (draft : Draft) (behind : Cursor),
      source = "<a>\x7b\x60$\x7bx\x7d\x60\x7d</a b>".toList ∧
      code 8 (some '}') ⟨4, 1, 5⟩ 0 .empty ⟨source.drop 4, ⟨4, 1, 5⟩⟩ = .ok (draft, behind) ∧
      (∃ rest, behind.rest = '}' :: rest) ∧
      parse source = .error error ∧
      error.fault = .expected '>' "to end a closing tag".toList (some 'b') ∧
      ∀ text ∈ needlessComplaints, ¬ text <+: error.message := by
  let source : Text := "<a>\x7b\x60$\x7bx\x7d\x60\x7d</a b>".toList
  obtain ⟨draft, behind, hcode⟩ : ∃ draft behind,
      code 8 (some '}') ⟨4, 1, 5⟩ 0 .empty ⟨source.drop 4, ⟨4, 1, 5⟩⟩ = .ok (draft, behind) :=
    ⟨_, _, rfl⟩
  have herror : (match parse source with
      | .error error => some error
      | .ok _ => none) = some ⟨.expected '>' "to end a closing tag".toList (some 'b'), 1, 16⟩ := by
    decide +kernel
  cases h : parse source with
  | ok expression => rw [h] at herror; cases herror
  | error error =>
    rw [h] at herror
    cases herror
    exact ⟨source, _, draft, behind, rfl, hcode,
      (expectationsHold source).stops _ _ _ _ _ _ _ hcode, h, rfl,
      (expectationsHold source).silent _ h⟩

end JsxTemplate
