import JsxTemplate.Proofs.Steps
import JsxTemplate.Reader.Parse

/-
  The calls that reading makes. A call is a reader with what it is given; `Calls` says which calls
  come directly out of one, another turn of the same loop among them. A reader that calls twice
  makes the second call behind what the first one read. Strings, comments and quoted values are
  loops too, though they need no fuel. Main statement: the answer to a call depends on nothing but
  the answers to the calls it makes (`answer_congr`), so the relation leaves none of them out.
-/

namespace JsxTemplate.Reader

/-! ## Stretches that are taken as they stand -/

/-- A stretch that a loop of its own takes over, up to its closing. -/
inductive Verbatim where
  | string (quote : Char)
  | comment
  | value (quote : Char)
  deriving DecidableEq, Repr

namespace Verbatim

def body : Verbatim → Text → Option Text
  | string quote => stringBody quote
  | comment => commentBody
  | value quote => quotedBody quote

def closing : Verbatim → Text
  | string quote => [quote]
  | comment => ['*', '/']
  | value quote => [quote]

/-- What one turn of the loop takes, unless the loop is left there. -/
def turn? : Verbatim → Text → Option Text
  | _, [] => none
  | string quote, c :: rest =>
    if c == '\n' then none
    else if c == '\\' then some (c :: rest.take 1)
    else if c == quote then none
    else some [c]
  | comment, c :: rest => if c == '*' && rest.head? == some '/' then none else some [c]
  | value quote, c :: _ => if c == quote then none else some [c]

/-- A turn takes some of the text, and the loop goes on behind it. -/
theorem body_of_turn? {kind : Verbatim} {s taken : Text} (h : kind.turn? s = some taken) :
    taken ≠ [] ∧ ∃ rest, s = taken ++ rest ∧ kind.body s = (kind.body rest).map (taken ++ ·) := by
  revert h
  fun_cases turn? kind s with
  | case3 quote c rest hline hguard =>
    intro h
    cases h
    refine ⟨List.cons_ne_nil _ _, rest.drop 1, ?_, ?_⟩
    · rw [List.cons_append, List.take_append_drop]
    · obtain rfl : c = '\\' := by simpa using hguard
      cases rest with
      | nil => rfl
      | cons guarded rest => rfl
  | case5 quote c rest hline hguard hquote =>
    intro h
    cases h
    refine ⟨List.cons_ne_nil _ _, rest, rfl, ?_⟩
    rw [body, stringBody.eq_def]
    dsimp only
    rw [if_neg hline, if_neg hguard, if_neg hquote]
    rfl
  | case7 c rest hend =>
    intro h
    cases h
    refine ⟨List.cons_ne_nil _ _, rest, rfl, ?_⟩
    rw [body, commentBody]
    · rfl
    · rintro tail rfl rfl
      exact hend rfl
  | case9 quote c rest hquote =>
    intro h
    cases h
    refine ⟨List.cons_ne_nil _ _, rest, rfl, ?_⟩
    rw [body, quotedBody, if_neg hquote]
    rfl
  | _ =>
    intro h
    cases h

/-- Without another turn the loop is left, at its closing or for want of one. -/
theorem body_of_turn?_eq_none {kind : Verbatim} {s : Text} (h : kind.turn? s = none) :
    kind.body s = none ∨ kind.body s = some kind.closing ∧ kind.closing <+: s := by
  revert h
  fun_cases turn? kind s with
  | case1 =>
    intro _
    refine .inl ?_
    cases kind <;> rfl
  | case2 quote c rest hline =>
    intro _
    refine .inl ?_
    rw [body, stringBody.eq_def]
    dsimp only
    rw [if_pos hline]
  | case4 quote c rest hline hguard hquote =>
    intro _
    refine .inr ?_
    obtain rfl : c = quote := by simpa using hquote
    refine ⟨?_, rest, rfl⟩
    rw [body, stringBody.eq_def]
    dsimp only
    rw [if_neg hline, if_neg hguard, if_pos hquote]
    rfl
  | case6 c rest hend =>
    intro _
    refine .inr ?_
    obtain ⟨rfl, hslash⟩ : c = '*' ∧ rest.head? = some '/' := by simpa using hend
    obtain ⟨tail, rfl⟩ := List.head?_eq_some_iff.1 hslash
    exact ⟨rfl, tail, rfl⟩
  | case8 quote c rest hquote =>
    intro _
    refine .inr ?_
    obtain rfl : c = quote := by simpa using hquote
    refine ⟨?_, rest, rfl⟩
    rw [body, quotedBody, if_pos hquote]
    rfl
  | _ =>
    intro h
    cases h

end Verbatim

/-! ## Calls -/

/-- A reader, with what it is given. -/
inductive Call where
  | code (close : Option Char) (start : Place) (depth : Nat) (draft : Draft) (cursor : Cursor)
  | template (start : Place) (draft : Draft) (cursor : Cursor)
  | element (cursor : Cursor)
  | attributes (tag : Text) (start : Place) (found : List Attribute) (cursor : Cursor)
  | oneAttribute (cursor : Cursor)
  | hole (cursor : Cursor)
  | children (tag : Text) (start : Place) (found : List Child) (cursor : Cursor)
  | verbatim (kind : Verbatim) (cursor : Cursor)

/-- A character of code that is copied, whatever it is. -/
def copiesCode (draft : Draft) (cursor : Cursor) (c : Char) : Bool :=
  !isOpener c && !isCloser c && !(c == '\'' || c == '"') && c != '\x60' &&
    !(c == '/' && cursor.peekNext == '/') && !(c == '/' && cursor.peekNext == '*') &&
    !(c == '<' && opensElement draft cursor)

/-- A character of a template literal that is copied, whatever it is. -/
def copiesRaw (cursor : Cursor) (c : Char) : Bool :=
  c != '\\' && c != '\x60' && !(c == '$' && cursor.peekNext == '{')

/-- Given that much fuel for what it calls, the first call makes the second one. -/
inductive Calls (fuel : Nat) : Call → Call → Prop where
  | codeOpener {close start depth draft cursor c rest} (hr : cursor.rest = c :: rest)
      (hc : isOpener c = true) :
      Calls fuel (.code close start depth draft cursor)
        (.code close start (depth + 1) (draft.push c) cursor.next)
  | codeCloser {close start depth draft cursor c rest} (hr : cursor.rest = c :: rest)
      (hc : isCloser c = true) (hgo : ¬ (depth = 0 ∧ close = some c)) :
      Calls fuel (.code close start depth draft cursor)
        (.code close start (depth - 1) (draft.push c) cursor.next)
  | codeString {close start depth draft cursor quote rest} (hr : cursor.rest = quote :: rest)
      (hquote : quote = '\'' ∨ quote = '"') :
      Calls fuel (.code close start depth draft cursor) (.verbatim (.string quote) cursor.next)
  | codePastString {close start depth draft cursor quote rest body}
      (hr : cursor.rest = quote :: rest) (hquote : quote = '\'' ∨ quote = '"')
      (hbody : stringBody quote rest = some body) :
      Calls fuel (.code close start depth draft cursor)
        (.code close start depth (draft.pushAll (quote :: body)) (cursor.past (quote :: body)))
  | codeTemplate {close start depth draft cursor rest} (hr : cursor.rest = '\x60' :: rest) :
      Calls fuel (.code close start depth draft cursor)
        (.template cursor.place (draft.push '\x60') cursor.next)
  | codePastTemplate {close start depth draft cursor rest draft' behind}
      (hr : cursor.rest = '\x60' :: rest)
      (htemplate : template fuel cursor.place (draft.push '\x60') cursor.next =
        .ok (draft', behind)) :
      Calls fuel (.code close start depth draft cursor) (.code close start depth draft' behind)
  | codeLine {close start depth draft cursor rest} (hr : cursor.rest = '/' :: rest)
      (hnext : cursor.peekNext = '/') :
      Calls fuel (.code close start depth draft cursor)
        (.code close start depth (draft.pushAll (cursor.ahead (· != '\n')))
          (cursor.past (cursor.ahead (· != '\n'))))
  | codeBlock {close start depth draft cursor rest} (hr : cursor.rest = '/' :: '*' :: rest) :
      Calls fuel (.code close start depth draft cursor)
        (.verbatim .comment (cursor.past ['/', '*']))
  | codePastBlock {close start depth draft cursor rest body}
      (hr : cursor.rest = '/' :: '*' :: rest) (hbody : commentBody rest = some body) :
      Calls fuel (.code close start depth draft cursor)
        (.code close start depth (draft.pushAll ('/' :: '*' :: body))
          (cursor.past ('/' :: '*' :: body)))
  | codeElement {close start depth draft cursor rest} (hr : cursor.rest = '<' :: rest)
      (hopens : opensElement draft cursor = true) :
      Calls fuel (.code close start depth draft cursor) (.element cursor)
  | codePastCall {close start depth draft cursor rest found behind callee}
      (hr : cursor.rest = '<' :: rest) (hopens : opensElement draft cursor = true)
      (helement : element fuel cursor = .ok (found, behind))
      (hsome : callee? draft behind = some callee) :
      Calls fuel (.code close start depth draft cursor)
        (.code close start (depth - 1)
          ({ draft with pending := callee.before }.add (.call callee.text found))
          behind.skipBlanks.next)
  | codePastMarkup {close start depth draft cursor rest found behind}
      (hr : cursor.rest = '<' :: rest) (hopens : opensElement draft cursor = true)
      (helement : element fuel cursor = .ok (found, behind))
      (hnone : callee? draft behind = none) :
      Calls fuel (.code close start depth draft cursor)
        (.code close start depth (draft.add (.markup found)) behind)
  | codePlain {close start depth draft cursor c rest} (hr : cursor.rest = c :: rest)
      (hc : copiesCode draft cursor c = true) :
      Calls fuel (.code close start depth draft cursor)
        (.code close start depth (draft.push c) cursor.next)
  | templateGuarded {start draft cursor guarded rest} (hr : cursor.rest = '\\' :: guarded :: rest) :
      Calls fuel (.template start draft cursor)
        (.template start (draft.pushAll ['\\', guarded]) (cursor.past ['\\', guarded]))
  | templateHole {start draft cursor rest} (hr : cursor.rest = '$' :: '{' :: rest) :
      Calls fuel (.template start draft cursor)
        (.code (some '}') (cursor.past ['$', '{']).place 0 (draft.pushAll ['$', '{'])
          (cursor.past ['$', '{']))
  | templatePastHole {start draft cursor rest draft' closing rest'}
      (hr : cursor.rest = '$' :: '{' :: rest)
      (hcode : code fuel (some '}') (cursor.past ['$', '{']).place 0 (draft.pushAll ['$', '{'])
        (cursor.past ['$', '{']) = .ok (draft', closing))
      (hclosing : closing.rest = '}' :: rest') :
      Calls fuel (.template start draft cursor) (.template start (draft'.push '}') closing.next)
  | templatePlain {start draft cursor c rest} (hr : cursor.rest = c :: rest)
      (hc : copiesRaw cursor c = true) :
      Calls fuel (.template start draft cursor) (.template start (draft.push c) cursor.next)
  | elementAttributes {cursor rest} (hr : cursor.rest = '<' :: rest)
      (htag : cursor.next.ahead isTagChar ≠ []) :
      Calls fuel (.element cursor)
        (.attributes (cursor.next.ahead isTagChar) cursor.place []
          (cursor.next.past (cursor.next.ahead isTagChar)))
  | elementChildren {cursor rest attributes opened} (hr : cursor.rest = '<' :: rest)
      (htag : cursor.next.ahead isTagChar ≠ [])
      (hattributes : Reader.attributes fuel (cursor.next.ahead isTagChar) cursor.place []
        (cursor.next.past (cursor.next.ahead isTagChar)) = .ok (attributes, false, opened)) :
      Calls fuel (.element cursor)
        (.children (cursor.next.ahead isTagChar) cursor.place [] opened)
  | attributesOne {tag start found cursor c rest} (hr : cursor.skipBlanks.rest = c :: rest)
      (hc : isAttributeStart c = true) :
      Calls fuel (.attributes tag start found cursor) (.oneAttribute cursor.skipBlanks)
  | attributesPastOne {tag start found cursor c rest a behind}
      (hr : cursor.skipBlanks.rest = c :: rest) (hc : isAttributeStart c = true)
      (hone : oneAttribute fuel cursor.skipBlanks = .ok (a, behind)) :
      Calls fuel (.attributes tag start found cursor) (.attributes tag start (a :: found) behind)
  | oneValue {cursor after quote rest}
      (heat : (cursor.past (cursor.ahead isAttributeChar)).skipBlanks.eat '=' = some after)
      (hr : after.skipBlanks.rest = quote :: rest) (hquote : quote = '"' ∨ quote = '\'') :
      Calls fuel (.oneAttribute cursor) (.verbatim (.value quote) after.skipBlanks.next)
  | oneHole {cursor after rest}
      (heat : (cursor.past (cursor.ahead isAttributeChar)).skipBlanks.eat '=' = some after)
      (hr : after.skipBlanks.rest = '{' :: rest) :
      Calls fuel (.oneAttribute cursor) (.hole after.skipBlanks)
  | holeCode {cursor rest} (hr : cursor.rest = '{' :: rest) :
      Calls fuel (.hole cursor) (.code (some '}') cursor.next.place 0 .empty cursor.next)
  | childrenElement {tag start found cursor rest} (hr : cursor.rest = '<' :: rest)
      (hopen : cursor.peekNext ≠ '/') :
      Calls fuel (.children tag start found cursor) (.element cursor)
  | childrenPastElement {tag start found cursor rest child behind}
      (hr : cursor.rest = '<' :: rest) (hopen : cursor.peekNext ≠ '/')
      (helement : element fuel cursor = .ok (child, behind)) :
      Calls fuel (.children tag start found cursor)
        (.children tag start (.element child :: found) behind)
  | childrenHole {tag start found cursor rest} (hr : cursor.rest = '{' :: rest) :
      Calls fuel (.children tag start found cursor) (.hole cursor)
  | childrenPastHole {tag start found cursor rest nodes behind} (hr : cursor.rest = '{' :: rest)
      (hhole : hole fuel cursor = .ok (nodes, behind)) :
      Calls fuel (.children tag start found cursor)
        (.children tag start (.hole nodes :: found) behind)
  | childrenText {tag start found cursor c rest} (hr : cursor.rest = c :: rest)
      (hc : c ≠ '<' ∧ c ≠ '{') :
      Calls fuel (.children tag start found cursor)
        (.children tag start (.text (cursor.ahead fun c => c != '<' && c != '{') :: found)
          (cursor.past (cursor.ahead fun c => c != '<' && c != '{')))
  | verbatimTurn {kind cursor taken} (hturn : Verbatim.turn? kind cursor.rest = some taken) :
      Calls fuel (.verbatim kind cursor) (.verbatim kind (cursor.past taken))

/-! ## Answers -/

namespace Call

def Answer : Call → Type
  | code .. => Draft × Cursor
  | template .. => Draft × Cursor
  | element _ => Element × Cursor
  | attributes .. => List Attribute × Bool × Cursor
  | oneAttribute _ => Attribute × Cursor
  | hole _ => Expression × Cursor
  | children .. => List Child × Cursor
  | verbatim .. => Option Text

/-- What a call comes back with. -/
def answer (fuel : Nat) : (call : Call) → Except Stop call.Answer
  | code close start depth draft cursor => Reader.code fuel close start depth draft cursor
  | template start draft cursor => Reader.template fuel start draft cursor
  | element cursor => Reader.element fuel cursor
  | attributes tag start found cursor => Reader.attributes fuel tag start found cursor
  | oneAttribute cursor => Reader.oneAttribute fuel cursor
  | hole cursor => Reader.hole fuel cursor
  | children tag start found cursor => Reader.children fuel tag start found cursor
  | verbatim kind cursor => .ok (kind.body cursor.rest)

end Call

theorem bind_congr_ok {ε α β : Type} {x y : Except ε α} {f g : α → Except ε β} (hx : x = y)
    (h : ∀ a, x = .ok a → f a = g a) : x >>= f = y >>= g := by
  subst hx
  cases x with
  | error stop => rfl
  | ok a => exact h a rfl

section Congr

variable {fuel fuel' : Nat}

theorem code_congr {close : Option Char} {start : Place} {depth : Nat} {draft : Draft}
    {cursor : Cursor}
    (h : ∀ next, Calls fuel (.code close start depth draft cursor) next →
      next.answer fuel = next.answer fuel') :
    code (fuel + 1) close start depth draft cursor =
      code (fuel' + 1) close start depth draft cursor := by
  unfold code
  cases hr : cursor.rest with
  | nil => rfl
  | cons c rest =>
    refine ite_congr rfl (fun hopen => h _ (.codeOpener hr hopen)) fun hopen => ?_
    refine ite_congr rfl (fun hclose => ?_) fun hclose => ?_
    · refine ite_congr rfl (fun _ => rfl) fun hgo => ?_
      exact h _ (.codeCloser hr hclose (by simpa using hgo))
    refine ite_congr rfl (fun hquote => ?_) fun hquote => ?_
    · cases hbody : stringBody c rest with
      | none => rfl
      | some body => exact h _ (.codePastString hr (by simpa using hquote) hbody)
    refine ite_congr rfl (fun htick => ?_) fun htick => ?_
    · obtain rfl : c = '\x60' := by simpa using htick
      refine bind_congr_ok (h _ (.codeTemplate hr)) fun found hfound => ?_
      exact h _ (.codePastTemplate hr hfound)
    refine ite_congr rfl (fun hline => ?_) fun hline => ?_
    · obtain ⟨rfl, hnext⟩ : c = '/' ∧ cursor.peekNext = '/' := by simpa using hline
      exact h _ (.codeLine hr hnext)
    refine ite_congr rfl (fun hblock => ?_) fun hblock => ?_
    · obtain ⟨rfl, hnext⟩ : c = '/' ∧ cursor.peekNext = '*' := by simpa using hblock
      obtain ⟨tail, rfl⟩ :=
        List.head?_eq_some_iff.1 ((peekNext_eq_iff hr (by decide)).1 hnext)
      cases hbody : commentBody tail with
      | none => simp [hbody]
      | some body =>
        simp only [List.drop_succ_cons, List.drop_zero, hbody]
        exact h _ (.codePastBlock hr hbody)
    refine ite_congr rfl (fun hmarkup => ?_) fun hmarkup => ?_
    · obtain ⟨rfl, hopens⟩ : c = '<' ∧ opensElement draft cursor = true := by
        simpa using hmarkup
      refine bind_congr_ok (h _ (.codeElement hr hopens)) fun found hfound => ?_
      cases hcallee : callee? draft found.2 with
      | none =>
        simp only [hcallee]
        exact h _ (.codePastMarkup hr hopens hfound hcallee)
      | some callee =>
        simp only [hcallee]
        exact h _ (.codePastCall hr hopens hfound hcallee)
    · exact h _ (.codePlain hr (by grind [copiesCode]))

theorem template_congr {start : Place} {draft : Draft} {cursor : Cursor}
    (h : ∀ next, Calls fuel (.template start draft cursor) next →
      next.answer fuel = next.answer fuel') :
    template (fuel + 1) start draft cursor = template (fuel' + 1) start draft cursor := by
  unfold template
  cases hr : cursor.rest with
  | nil => rfl
  | cons c rest =>
    refine ite_congr rfl (fun hguard => ?_) fun hguard => ?_
    · obtain rfl : c = '\\' := by simpa using hguard
      cases rest with
      | nil => rfl
      | cons guarded rest => exact h _ (.templateGuarded hr)
    refine ite_congr rfl (fun _ => rfl) fun htick => ?_
    refine ite_congr rfl (fun hhole => ?_) fun hhole => ?_
    · obtain ⟨rfl, hnext⟩ : c = '$' ∧ cursor.peekNext = '{' := by simpa using hhole
      obtain ⟨tail, rfl⟩ :=
        List.head?_eq_some_iff.1 ((peekNext_eq_iff hr (by decide)).1 hnext)
      refine bind_congr_ok (h _ (.templateHole hr)) fun found hfound => ?_
      refine bind_congr_ok rfl fun behind hbehind => ?_
      obtain ⟨rest', hr', rfl⟩ := expect_eq_ok hbehind
      exact h _ (.templatePastHole hr hfound hr')
    · exact h _ (.templatePlain hr (by grind [copiesRaw]))

theorem element_congr {cursor : Cursor}
    (h : ∀ next, Calls fuel (.element cursor) next → next.answer fuel = next.answer fuel') :
    element (fuel + 1) cursor = element (fuel' + 1) cursor := by
  unfold element
  refine bind_congr_ok rfl fun opened hopened => ?_
  obtain ⟨rest, hr, rfl⟩ := expect_eq_ok hopened
  refine ite_congr rfl (fun _ => rfl) fun _ => ?_
  refine ite_congr rfl (fun _ => rfl) fun htag => ?_
  have htag : cursor.next.ahead isTagChar ≠ [] := by simpa using htag
  refine bind_congr_ok (h _ (.elementAttributes hr htag)) fun found hfound => ?_
  obtain ⟨found, closes, inner⟩ := found
  refine ite_congr rfl (fun _ => rfl) fun hcloses => ?_
  obtain rfl : closes = false := by simpa using hcloses
  exact bind_congr_ok (h _ (.elementChildren hr htag hfound)) fun _ _ => rfl

theorem attributes_congr {tag : Text} {start : Place} {found : List Attribute} {cursor : Cursor}
    (h : ∀ next, Calls fuel (.attributes tag start found cursor) next →
      next.answer fuel = next.answer fuel') :
    attributes (fuel + 1) tag start found cursor =
      attributes (fuel' + 1) tag start found cursor := by
  unfold attributes
  dsimp only
  cases hr : cursor.skipBlanks.rest with
  | nil => rfl
  | cons c rest =>
    refine ite_congr rfl (fun _ => rfl) fun _ => ?_
    refine ite_congr rfl (fun _ => rfl) fun _ => ?_
    refine ite_congr rfl (fun _ => rfl) fun _ => ?_
    refine ite_congr rfl (fun hc => ?_) fun _ => rfl
    refine bind_congr_ok (h _ (.attributesOne hr hc)) fun found hfound => ?_
    exact h _ (.attributesPastOne hr hc hfound)

theorem oneAttribute_congr {cursor : Cursor}
    (h : ∀ next, Calls fuel (.oneAttribute cursor) next → next.answer fuel = next.answer fuel') :
    oneAttribute (fuel + 1) cursor = oneAttribute (fuel' + 1) cursor := by
  unfold oneAttribute
  dsimp only
  cases heat : (cursor.past (cursor.ahead isAttributeChar)).skipBlanks.eat '=' with
  | none => rfl
  | some after =>
    dsimp only
    cases hr : after.skipBlanks.rest with
    | nil => rfl
    | cons c rest =>
      refine ite_congr rfl (fun _ => rfl) fun _ => ?_
      refine ite_congr rfl (fun hc => ?_) fun _ => rfl
      obtain rfl : c = '{' := by simpa using hc
      exact bind_congr_ok (h _ (.oneHole heat hr)) fun _ _ => rfl

theorem hole_congr {cursor : Cursor}
    (h : ∀ next, Calls fuel (.hole cursor) next → next.answer fuel = next.answer fuel') :
    hole (fuel + 1) cursor = hole (fuel' + 1) cursor := by
  unfold hole
  refine bind_congr_ok rfl fun opened hopened => ?_
  obtain ⟨rest, hr, rfl⟩ := expect_eq_ok hopened
  exact bind_congr_ok (h _ (.holeCode hr)) fun _ _ => rfl

theorem children_congr {tag : Text} {start : Place} {found : List Child} {cursor : Cursor}
    (h : ∀ next, Calls fuel (.children tag start found cursor) next →
      next.answer fuel = next.answer fuel') :
    children (fuel + 1) tag start found cursor = children (fuel' + 1) tag start found cursor := by
  unfold children
  cases hr : cursor.rest with
  | nil => rfl
  | cons c rest =>
    refine ite_congr rfl (fun hlt => ?_) fun hlt => ?_
    · obtain rfl : c = '<' := by simpa using hlt
      refine ite_congr rfl (fun _ => rfl) fun hopen => ?_
      have hopen : cursor.peekNext ≠ '/' := by simpa using hopen
      refine bind_congr_ok (h _ (.childrenElement hr hopen)) fun child hchild => ?_
      exact h _ (.childrenPastElement hr hopen hchild)
    refine ite_congr rfl (fun hbrace => ?_) fun hbrace => ?_
    · obtain rfl : c = '{' := by simpa using hbrace
      refine bind_congr_ok (h _ (.childrenHole hr)) fun child hchild => ?_
      exact h _ (.childrenPastHole hr hchild)
    · exact h _ (.childrenText hr ⟨by simpa using hlt, by simpa using hbrace⟩)

end Congr

/-- An answer depends only on the answers to the calls made for it: if those are the same with
another amount of fuel, so is the answer. -/
theorem answer_congr {fuel fuel' : Nat} {call : Call}
    (h : ∀ next, Calls fuel call next → next.answer fuel = next.answer fuel') :
    call.answer (fuel + 1) = call.answer (fuel' + 1) := by
  cases call with
  | code => exact code_congr h
  | template => exact template_congr h
  | element => exact element_congr h
  | attributes => exact attributes_congr h
  | oneAttribute => exact oneAttribute_congr h
  | hole => exact hole_congr h
  | children => exact children_congr h
  | verbatim => rfl

end JsxTemplate.Reader
