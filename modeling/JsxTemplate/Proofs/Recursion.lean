import Mathlib.Data.List.Chain
import JsxTemplate.Proofs.Calls
import JsxTemplate.Proofs.Completeness
import JsxTemplate.Proofs.FaultPlaces
import JsxTemplate.Proofs.Placement

/-
  Reading always makes progress. A call moves the cursor on by some characters, or hands it on as it
  is to a reader that weighs less; the weights are chosen so that every call is paid for by the
  characters it takes (`Calls.moves`). So a loop or a cycle of calls, which comes back to the same
  weight, has taken a character, and no chain of calls is longer than the source. As an answer
  depends only on the calls made for it, fuel beyond the length of the source changes nothing. Main
  statement: `parse_progress`.
-/

namespace JsxTemplate

/-! ## Moving on -/

namespace Cursor

/-- Reading on leads from one cursor to the other, and takes at least `n` characters. -/
def Moves (cursor : Cursor) (n : Nat) (behind : Cursor) : Prop :=
  cursor.Reaches behind ∧ behind.rest.length + n ≤ cursor.rest.length

section Moves

variable {cursor middle behind : Cursor} {m n : Nat} {c : Char} {rest : Text}

theorem Reaches.moves (h : cursor.Reaches behind) : cursor.Moves 0 behind := by
  refine ⟨h, ?_⟩
  obtain ⟨taken, hrest, -⟩ := h
  rw [hrest, List.length_append]
  omega

theorem Moves.trans (h : cursor.Moves m middle) (h' : middle.Moves n behind) :
    cursor.Moves (m + n) behind := by
  obtain ⟨hreaches, hlength⟩ := h
  obtain ⟨hreaches', hlength'⟩ := h'
  exact ⟨hreaches.trans hreaches', by omega⟩

theorem Moves.offset_le (h : cursor.Moves n behind) :
    cursor.place.offset + n ≤ behind.place.offset := by
  obtain ⟨⟨taken, hrest, hplace⟩, hlength⟩ := h
  rw [hrest, List.length_append] at hlength
  rw [hplace, Place.after_offset]
  omega

theorem moves_next (hr : cursor.rest = c :: rest) : cursor.Moves 1 cursor.next := by
  have hlength := length_next_of_rest hr
  exact ⟨cursor.reaches_next, by omega⟩

theorem moves_past {taken : Text} (hr : cursor.rest = taken ++ rest) (hne : taken ≠ []) :
    cursor.Moves 1 (cursor.past taken) := by
  have hpos := List.length_pos_iff.2 hne
  refine ⟨reaches_past hr, ?_⟩
  rw [rest_past hr, hr, List.length_append]
  omega

theorem moves_past_body {body : Text} (hr : cursor.rest = c :: rest) (hbody : body <+: rest) :
    cursor.Moves 1 (cursor.past (c :: body)) := by
  obtain ⟨left, rfl⟩ := hbody
  exact moves_past hr (List.cons_ne_nil c body)

theorem moves_past_ahead {p : Char → Bool} (hr : cursor.rest = c :: rest) (hp : p c = true) :
    cursor.Moves 1 (cursor.past (cursor.ahead p)) :=
  ⟨cursor.reaches_past_ahead p, length_past_ahead_lt hr hp⟩

theorem moves_past_ahead_of_ne_nil {p : Char → Bool} (hne : cursor.ahead p ≠ []) :
    cursor.Moves 1 (cursor.past (cursor.ahead p)) :=
  moves_past (cursor.ahead_append_rest p).symm hne

theorem moves_of_eat {wanted : Char} (h : cursor.eat wanted = some behind) :
    cursor.Moves 1 behind := by
  obtain ⟨rest, hr, rfl⟩ := eat_eq_some_iff.1 h
  rw [← next_of_rest hr]
  exact moves_next hr

theorem In.offset_le {source : Text} (h : cursor.In source) :
    cursor.place.offset ≤ source.length := by
  obtain ⟨taken, hrest, hplace⟩ := h
  obtain rfl : source = taken ++ cursor.rest := hrest
  have horigin : (ofText (taken ++ cursor.rest)).place.offset = 0 := rfl
  rw [hplace, Place.after_offset, List.length_append]
  omega

end Moves

end Cursor

namespace Reader

/-! ## Answers move on -/

section Answers

variable {fuel : Nat} {cursor behind : Cursor}

theorem reaches_of_steps {reads : Cursor → Element → Cursor → Prop}
    (hreads : ∀ cursor element behind, reads cursor element behind → cursor.Reaches behind)
    {close : Option Char} {reading reading' : Reading} (h : Steps reads close reading reading') :
    reading.cursor.Reaches reading'.cursor := by
  induction h with
  | refl => exact Cursor.reaches_refl _
  | tail _ hstep ih =>
    cases hstep with
    | copy hr ht => exact ih.trans (Cursor.reaches_next _)
    | markup hc hopens he hnone => exact ih.trans (hreads _ _ _ he)
    | call hc hopens he hsome =>
      have hclosed := (hreads _ _ _ he).trans (Cursor.reaches_skipBlanks _)
      exact ih.trans (hclosed.trans (Cursor.reaches_next _))

theorem reaches_of_elementBelow (cursor : Cursor) (element : Element) (behind : Cursor)
    (h : ElementBelow fuel cursor element behind) : cursor.Reaches behind := by
  obtain ⟨n, -, helement⟩ := h
  exact ((sites n).element helement).reaches

theorem reaches_of_code {close : Option Char} {start : Place} {draft draft' : Draft}
    (h : code fuel close start 0 draft cursor = .ok (draft', behind)) : cursor.Reaches behind := by
  obtain ⟨lexer, hsteps, -⟩ :=
    (runs fuel fuel (Nat.le_refl fuel)).code h close .initial trivial rfl rfl
  exact reaches_of_steps reaches_of_elementBelow hsteps

theorem reaches_of_template {start : Place} {draft draft' : Draft}
    (h : template fuel start draft cursor = .ok (draft', behind)) : cursor.Reaches behind := by
  have hsteps : Steps _ none ⟨{ Lexer.initial with mode := .raw }, draft, cursor⟩ _ :=
    (runs fuel fuel (Nat.le_refl fuel)).template h none _ (.inl rfl)
  exact reaches_of_steps reaches_of_elementBelow hsteps

theorem moves_of_element {found : Element} (h : element fuel cursor = .ok (found, behind)) :
    cursor.Moves 1 behind := by
  obtain ⟨own, hown, hrest⟩ := (sound fuel).element h
  obtain ⟨c, inside, rfl, -⟩ := hown.head
  refine ⟨((sites fuel).element h).reaches, ?_⟩
  rw [hrest, List.length_append, List.length_cons]
  omega

theorem moves_of_attributes {tag : Text} {start : Place} {found all : List Attribute}
    {selfClosing : Bool}
    (h : attributes fuel tag start found cursor = .ok (all, selfClosing, behind)) :
    cursor.Moves 1 behind := by
  obtain ⟨new, -, hsited⟩ := (sites fuel).attributes h
  obtain ⟨-, inside, -, -, hrest⟩ := (sound fuel).attributes h false nofun
  have hend : 0 < (tagEnd selfClosing).length := by cases selfClosing <;> decide
  refine ⟨hsited.sited.reaches, ?_⟩
  rw [hrest, List.length_append, List.length_append]
  omega

theorem moves_of_oneAttribute {a : Attribute} {c : Char} {rest : Text}
    (h : oneAttribute fuel cursor = .ok (a, behind)) (hr : cursor.rest = c :: rest)
    (hc : isAttributeStart c = true) : cursor.Moves 1 behind := by
  obtain ⟨own, blanks, hown, -, hrest, -⟩ := (sound fuel).oneAttribute h hr hc
  obtain ⟨d, inside, rfl, -⟩ := hown.head
  refine ⟨((sites fuel).oneAttribute h).reaches, ?_⟩
  rw [hrest, List.length_append, List.length_append, List.length_cons]
  omega

theorem moves_of_hole {nodes : Expression} (h : hole fuel cursor = .ok (nodes, behind)) :
    cursor.Moves 1 behind := by
  obtain ⟨inside, -, hrest⟩ := (sound fuel).hole h
  refine ⟨((sites fuel).hole h).reaches, ?_⟩
  rw [hrest, List.length_append, List.length_cons, List.length_cons]
  omega

end Answers

/-! ## Calls move on -/

/-- The readers, without what they are given. -/
inductive Kind where
  | code
  | template
  | element
  | attributes
  | oneAttribute
  | hole
  | children
  | verbatim
  deriving DecidableEq, Repr

/-- A reader that may hand on the cursor as it got it weighs more than the one it hands it to. -/
@[simp] def Kind.weight : Kind → Nat
  | element => 0
  | oneAttribute => 0
  | children => 2
  | _ => 1

namespace Call

@[simp] def kind : Call → Kind
  | code .. => .code
  | template .. => .template
  | element _ => .element
  | attributes .. => .attributes
  | oneAttribute _ => .oneAttribute
  | hole _ => .hole
  | children .. => .children
  | verbatim .. => .verbatim

def cursor : Call → Cursor
  | code _ _ _ _ cursor => cursor
  | template _ _ cursor => cursor
  | element cursor => cursor
  | attributes _ _ _ cursor => cursor
  | oneAttribute cursor => cursor
  | hole cursor => cursor
  | children _ _ _ cursor => cursor
  | verbatim _ cursor => cursor

/-- The cursor stands on the first character of what is read. -/
def Entered : Call → Prop
  | element cursor => ∃ rest, cursor.rest = '<' :: rest
  | oneAttribute cursor => ∃ c rest, cursor.rest = c :: rest ∧ isAttributeStart c = true
  | hole cursor => ∃ rest, cursor.rest = '{' :: rest
  | _ => True

/-- Reading a whole source. -/
def ofSource (source : Text) : Call := .code none .origin 0 .empty (.ofText source)

/-- What a call can still spend on the calls it makes. -/
def budget (call : Call) : Nat := call.kind.weight + call.cursor.rest.length

end Call

theorem Calls.entered {fuel : Nat} {call next : Call} (h : Calls fuel call next) :
    next.Entered := by
  cases h with
  | codeElement hr => exact ⟨_, hr⟩
  | childrenElement hr => exact ⟨_, hr⟩
  | attributesOne hr hc => exact ⟨_, _, hr, hc⟩
  | oneHole heat hr => exact ⟨_, hr⟩
  | childrenHole hr => exact ⟨_, hr⟩
  | _ => trivial

/-- The value of an attribute stands behind its name and an equals sign. -/
theorem moves_to_value {cursor after : Cursor} (hentered : (Call.oneAttribute cursor).Entered)
    (heat : (cursor.past (cursor.ahead isAttributeChar)).skipBlanks.eat '=' = some after) :
    cursor.Moves 2 after.skipBlanks := by
  obtain ⟨c, rest, hr, hc⟩ := hentered
  have hnamed := Cursor.moves_past_ahead hr (isAttributeChar_of_isAttributeStart hc)
  have hsigned := hnamed.trans ((Cursor.reaches_skipBlanks _).moves.trans (Cursor.moves_of_eat heat))
  exact hsigned.trans (Cursor.reaches_skipBlanks _).moves

/-- The characters that a call takes make up for the weight of the next one. -/
theorem Calls.moves {fuel : Nat} {call next : Call} (h : Calls fuel call next)
    (hentered : call.Entered) :
    ∃ n, call.cursor.Moves n next.cursor ∧ next.kind.weight < call.kind.weight + n := by
  -- Four calls may take nothing: `codeElement`, `attributesOne`, `childrenElement`, `childrenHole`.
  -- They go to a lighter reader, and the weight comes back only with the characters that one takes.
  cases h with
  | codeOpener hr => exact ⟨1, Cursor.moves_next hr, by simp⟩
  | codeCloser hr => exact ⟨1, Cursor.moves_next hr, by simp⟩
  | codeString hr => exact ⟨1, Cursor.moves_next hr, by simp⟩
  | codePastString hr _ hbody =>
    exact ⟨1, Cursor.moves_past_body hr (prefix_of_stringBody hbody), by simp⟩
  | codeTemplate hr => exact ⟨1, Cursor.moves_next hr, by simp⟩
  | codePastTemplate hr htemplate =>
    exact ⟨1, (Cursor.moves_next hr).trans (reaches_of_template htemplate).moves, by simp⟩
  | codeLine hr => exact ⟨1, Cursor.moves_past_ahead hr (by decide), by simp⟩
  | codeBlock hr => exact ⟨1, Cursor.moves_past_body hr ⟨_, rfl⟩, by simp⟩
  | codePastBlock hr hbody =>
    obtain ⟨left, hleft⟩ := prefix_of_commentBody hbody
    exact ⟨1, Cursor.moves_past_body hr ⟨left, by rw [List.cons_append, hleft]⟩, by simp⟩
  | codeElement hr => exact ⟨0, (Cursor.reaches_refl _).moves, by simp⟩
  | codePastCall hr _ helement =>
    have hread := (moves_of_element helement).trans (Cursor.reaches_skipBlanks _).moves
    exact ⟨1, hread.trans (Cursor.reaches_next _).moves, by simp⟩
  | codePastMarkup hr _ helement => exact ⟨1, moves_of_element helement, by simp⟩
  | codePlain hr => exact ⟨1, Cursor.moves_next hr, by simp⟩
  | templateGuarded hr => exact ⟨1, Cursor.moves_past_body hr ⟨_, rfl⟩, by simp⟩
  | templateHole hr => exact ⟨1, Cursor.moves_past_body hr ⟨_, rfl⟩, by simp⟩
  | templatePastHole hr hcode hclosing =>
    have hopened := Cursor.moves_past_body hr ⟨_, List.singleton_append⟩
    have hread := hopened.trans (reaches_of_code hcode).moves
    exact ⟨2, hread.trans (Cursor.moves_next hclosing), by simp⟩
  | templatePlain hr => exact ⟨1, Cursor.moves_next hr, by simp⟩
  | elementAttributes hr htag =>
    exact ⟨2, (Cursor.moves_next hr).trans (Cursor.moves_past_ahead_of_ne_nil htag), by simp⟩
  | elementChildren hr htag hattributes =>
    have hnamed := (Cursor.moves_next hr).trans (Cursor.moves_past_ahead_of_ne_nil htag)
    exact ⟨3, hnamed.trans (moves_of_attributes hattributes), by simp⟩
  | attributesOne hr => exact ⟨0, (Cursor.reaches_skipBlanks _).moves, by simp⟩
  | attributesPastOne hr hc hone =>
    have hread := moves_of_oneAttribute hone hr hc
    exact ⟨1, (Cursor.reaches_skipBlanks _).moves.trans hread, by simp⟩
  | oneValue heat hr =>
    have hvalue := moves_to_value hentered heat
    exact ⟨3, hvalue.trans (Cursor.moves_next hr), by simp⟩
  | oneHole heat hr => exact ⟨2, moves_to_value hentered heat, by simp⟩
  | holeCode hr => exact ⟨1, Cursor.moves_next hr, by simp⟩
  | childrenElement hr => exact ⟨0, (Cursor.reaches_refl _).moves, by simp⟩
  | childrenPastElement hr _ helement => exact ⟨1, moves_of_element helement, by simp⟩
  | childrenHole hr => exact ⟨0, (Cursor.reaches_refl _).moves, by simp⟩
  | childrenPastHole hr hhole => exact ⟨1, moves_of_hole hhole, by simp⟩
  | childrenText hr hc => exact ⟨1, Cursor.moves_past_ahead hr (by simpa using hc), by simp⟩
  | verbatimTurn hturn =>
    obtain ⟨hne, rest, hr, -⟩ := Verbatim.body_of_turn? hturn
    exact ⟨1, Cursor.moves_past hr hne, by simp⟩

theorem Calls.budget_lt {fuel : Nat} {call next : Call} (h : Calls fuel call next)
    (hentered : call.Entered) : next.budget < call.budget := by
  obtain ⟨n, ⟨-, hlength⟩, hweight⟩ := h.moves hentered
  unfold Call.budget
  omega

/-! ## Runs of calls -/

namespace Call

/-- With some fuel, the first call makes the second one. -/
def Makes (call next : Call) : Prop := ∃ fuel, Calls fuel call next

/-- Reading the source comes to this call. -/
def MadeIn (source : Text) (call : Call) : Prop :=
  Relation.ReflTransGen Makes (ofSource source) call

variable {call next : Call}

theorem budget_pos (hentered : call.Entered) : 0 < call.budget := by
  unfold budget
  cases call with
  | element cursor =>
    obtain ⟨rest, hr⟩ := hentered
    simp [Call.cursor, hr]
  | oneAttribute cursor =>
    obtain ⟨c, rest, hr, -⟩ := hentered
    simp [Call.cursor, hr]
  | _ =>
    simp only [kind, Kind.weight]
    omega

theorem MadeIn.entered {source : Text} (h : MadeIn source call) : call.Entered := by
  rcases Relation.ReflTransGen.cases_tail h with rfl | ⟨_, -, fuel, hcalls⟩
  · trivial
  · exact hcalls.entered

/-- Call after call, the characters taken make up for the weight of the last one. -/
theorem moves_of_makes (hentered : call.Entered) (h : Relation.TransGen Makes call next) :
    ∃ n, call.cursor.Moves n next.cursor ∧ next.kind.weight < call.kind.weight + n := by
  induction h with
  | single hmakes =>
    obtain ⟨fuel, hcalls⟩ := hmakes
    exact hcalls.moves hentered
  | tail hrun hmakes ih =>
    obtain ⟨m, hm, hweight⟩ := ih
    obtain ⟨fuel, hcalls⟩ := hmakes
    obtain ⟨_, -, fuel', hcalls'⟩ := Relation.TransGen.tail'_iff.1 hrun
    obtain ⟨n, hn, hweight'⟩ := hcalls.moves hcalls'.entered
    exact ⟨m + n, hm.trans hn, by omega⟩

theorem MadeIn.cursor_in {source : Text} (h : MadeIn source call) : call.cursor.In source := by
  rcases Relation.reflTransGen_iff_eq_or_transGen.1 h with rfl | hrun
  · exact Cursor.reaches_refl _
  · have hstart : (ofSource source).Entered := trivial
    obtain ⟨n, ⟨hreaches, -⟩, -⟩ := moves_of_makes hstart hrun
    exact hreaches

theorem length_lt_of_isChain {call : Call} (hentered : call.Entered) {calls : List Call}
    (h : (call :: calls).IsChain Makes) : calls.length < call.budget := by
  induction calls generalizing call with
  | nil => exact budget_pos hentered
  | cons next calls ih =>
    obtain ⟨⟨fuel, hcalls⟩, hrest⟩ := List.isChain_cons_cons.1 h
    have hlength := ih hcalls.entered hrest
    have hlt := hcalls.budget_lt hentered
    rw [List.length_cons]
    omega

/-- Fuel beyond the budget of a call does not change its answer. -/
theorem answer_eq_of_budget_le {call : Call} (hentered : call.Entered) {fuel fuel' : Nat}
    (hfuel : call.budget ≤ fuel) (hfuel' : call.budget ≤ fuel') :
    call.answer fuel = call.answer fuel' := by
  induction fuel generalizing call fuel' with
  | zero => exact absurd (budget_pos hentered) (by omega)
  | succ fuel ih =>
    cases fuel' with
    | zero => exact absurd (budget_pos hentered) (by omega)
    | succ fuel' =>
      refine answer_congr fun next hnext => ?_
      have hlt := hnext.budget_lt hentered
      exact ih hnext.entered (by omega) (by omega)

end Call

end Reader

/-! ## Walking back -/

/-- One step back over a member chain, unless the walk ends. -/
def ChainState.back? : ChainState → Bool → Char → Option (ChainState × Bool)
  | .part, hasCall, c =>
    if c == ')' || c == ']' then some (.group 1, hasCall)
    else if isIdentifierChar c then some (.word, hasCall)
    else none
  | .word, hasCall, c =>
    if isIdentifierChar c then some (.word, hasCall)
    else if c == '.' then some (.part, hasCall)
    else none
  | .group depth, hasCall, c =>
    if isCloser c then some (.group (depth + 1), hasCall)
    else if isOpener c then
      if depth ≤ 1 then some (.grouped, hasCall || c == '(') else some (.group (depth - 1), hasCall)
    else some (.group depth, hasCall)
  | .grouped, hasCall, c =>
    if c == ')' || c == ']' then some (.group 1, hasCall)
    else if c == '.' then some (.part, hasCall)
    else if isIdentifierChar c then some (.word, hasCall)
    else none

theorem Chain.walk_cons (state : ChainState) (text : Text) (hasCall : Bool) (c : Char)
    (before : Text) :
    Chain.walk state text hasCall (c :: before) =
      match state.back? hasCall c with
      | some (next, called) => Chain.walk next (c :: text) called before
      | none => if state = .word then some ⟨text, hasCall, c :: before⟩ else none := by
  cases state with
  | word =>
    simp only [walk, ChainState.back?, if_true]
    split_ifs <;> rfl
  | _ =>
    simp only [walk, ChainState.back?, reduceCtorEq, if_false]
    split_ifs <;> rfl

theorem Chain.length_before_lt {code : Text} {chain : Chain}
    (h : Chain.walk .part [] false code = some chain) : chain.before.length < code.length := by
  obtain ⟨c, hlast, -⟩ := Chain.walk_last h
  have htext : 0 < chain.text.length := List.length_pos_iff.2 fun hnil => by
    rw [hnil] at hlast
    exact absurd (List.suffix_nil.1 hlast) (List.cons_ne_nil c [])
  have hlength := congrArg List.length (Chain.walk_text h)
  rw [List.length_append, List.length_append, List.length_reverse] at hlength
  simp only [List.reverse_nil, List.length_nil] at hlength
  omega

/-! ## Progress -/

open Reader

/-- What keeps the reading of a source going and makes it end. -/
structure Progress (source : Text) : Prop where
  /-- No call stands beyond the end of the source. -/
  within : ∀ call, Call.MadeIn source call → call.cursor.place.offset ≤ source.length
  /-- The next turn of a loop, or the same reader again by a cycle of calls, stands further on. -/
  forward : ∀ call next, Call.MadeIn source call → Relation.TransGen Call.Makes call next →
    next.kind = call.kind → call.cursor.place.offset < next.cursor.place.offset
  /-- Calls go no deeper than the source is long. -/
  bounded : ∀ calls, (Call.ofSource source :: calls).IsChain Call.Makes →
    calls.length ≤ source.length
  /-- No call is left out: the others have no part in an answer. -/
  complete : ∀ fuel fuel' call,
    (∀ next, Calls fuel call next → next.answer fuel = next.answer fuel') →
    call.answer (fuel + 1) = call.answer (fuel' + 1)
  /-- Strings, comments and quoted values: a turn takes some text and the loop goes on behind it,
  or the loop is left, at its closing or for want of one. -/
  turns : ∀ (kind : Verbatim) s,
    (∃ taken rest, kind.turn? s = some taken ∧ taken ≠ [] ∧ s = taken ++ rest ∧
      kind.body s = (kind.body rest).map (taken ++ ·)) ∨
    kind.turn? s = none ∧ (kind.body s = none ∨
      kind.body s = some kind.closing ∧ kind.closing <+: s)
  /-- Walking back over a member chain, each step leaves one character less before it. -/
  back : ∀ state text hasCall c before, Chain.walk state text hasCall (c :: before) =
    match state.back? hasCall c with
    | some (next, called) => Chain.walk next (c :: text) called before
    | none => if state = .word then some ⟨text, hasCall, c :: before⟩ else none
  /-- A member chain begins before its end. -/
  begins : ∀ code chain, Chain.walk .part [] false code = some chain →
    chain.before.length < code.length
  /-- Reading comes to an end, and one unit of fuel for each character and one more are enough. -/
  returns : ∀ fuel, source.length < fuel →
    (∃ draft behind, code fuel none .origin 0 .empty (.ofText source) = .ok (draft, behind) ∧
      behind.place.offset ≤ source.length ∧ parse source = .ok draft.finish) ∨
    ∃ error, code fuel none .origin 0 .empty (.ofText source) = .error (.fault error) ∧
      parse source = .error error

/-- A source is read to its end or up to a fault, never back over what was read, and with calls
no deeper than it is long. -/
theorem parse_progress (source : Text) : Progress source := by
  have hstart : (Call.ofSource source).Entered := trivial
  have hbudget : (Call.ofSource source).budget = source.length + 1 := Nat.add_comm ..
  refine ⟨?_, ?_, ?_, ?_, ?_, Chain.walk_cons, ?_, ?_⟩
  · intro call hmade
    exact hmade.cursor_in.offset_le
  · intro call next hmade hrun hkind
    obtain ⟨n, hmoves, hweight⟩ := Call.moves_of_makes hmade.entered hrun
    have hoffset := hmoves.offset_le
    rw [hkind] at hweight
    omega
  · intro calls hchain
    have hlength := Call.length_lt_of_isChain hstart hchain
    omega
  · intro fuel fuel' call h
    exact answer_congr h
  · intro kind s
    cases hturn : kind.turn? s with
    | none => exact .inr ⟨rfl, Verbatim.body_of_turn?_eq_none hturn⟩
    | some taken =>
      obtain ⟨hne, rest, hrest, hbody⟩ := Verbatim.body_of_turn? hturn
      exact .inl ⟨taken, rest, rfl, hne, hrest, hbody⟩
  · intro code chain h
    exact Chain.length_before_lt h
  · intro fuel hfuel
    have hanswer : (Call.ofSource source).answer fuel =
        (Call.ofSource source).answer (fuelFor source.length) :=
      Call.answer_eq_of_budget_le hstart (by omega) (by unfold fuelFor; omega)
    have hsame : code fuel none .origin 0 .empty (.ofText source) =
        code (fuelFor source.length) none .origin 0 .empty (.ofText source) := hanswer
    rw [hsame]
    match hcode : code (fuelFor source.length) none .origin 0 .empty (.ofText source) with
    | .ok (draft, behind) =>
      have hin : behind.In source := reaches_of_code hcode
      exact .inl ⟨draft, behind, rfl, hin.offset_le, parse_eq_ok_iff.2 ⟨_, _, hcode, rfl⟩⟩
    | .error (.fault error) => exact .inr ⟨error, rfl, parse_eq_error_iff.2 hcode⟩
    | .error .outOfFuel => exact absurd hcode (code_ne_outOfFuel _ _ _ _ (.ofText source))

/-- From code back to code: through an element, a NUL among its children and the hole behind it. -/
theorem parse_progress_hole :
    ∃ (source : Text) (call : Call), source = "<a>\x00\x7bx\x7d</a>".toList ∧
      Call.MadeIn source (.ofSource source) ∧
      Relation.TransGen Call.Makes (.ofSource source) call ∧
      call.kind = (Call.ofSource source).kind ∧ call.cursor.rest = "x\x7d</a>".toList ∧
      (Call.ofSource source).cursor.place.offset < call.cursor.place.offset := by
  let source : Text := "<a>\x00\x7bx\x7d</a>".toList
  let cursor : Cursor := .ofText source
  have hattributes : attributes 1 ['a'] .origin [] (cursor.past ['<', 'a']) =
      .ok ([], false, cursor.past ['<', 'a', '>']) := rfl
  have helement : Call.Makes (.ofSource source) (.element cursor) :=
    ⟨0, .codeElement rfl (by decide)⟩
  have hchildren : Call.Makes (.element cursor)
      (.children ['a'] .origin [] (cursor.past ['<', 'a', '>'])) :=
    ⟨1, .elementChildren rfl (by decide) hattributes⟩
  have htext : Call.Makes (.children ['a'] .origin [] (cursor.past ['<', 'a', '>']))
      (.children ['a'] .origin [.text ['\x00']] (cursor.past ['<', 'a', '>', '\x00'])) :=
    ⟨0, .childrenText rfl (by decide)⟩
  have hhole : Call.Makes
      (.children ['a'] .origin [.text ['\x00']] (cursor.past ['<', 'a', '>', '\x00']))
      (.hole (cursor.past ['<', 'a', '>', '\x00'])) :=
    ⟨0, .childrenHole rfl⟩
  have hcode : Call.Makes (.hole (cursor.past ['<', 'a', '>', '\x00'])) _ := ⟨0, .holeCode rfl⟩
  have hrun := ((((Relation.TransGen.single helement).tail hchildren).tail htext).tail hhole).tail
    hcode
  exact ⟨source, _, rfl, .refl, hrun, rfl, rfl,
    (parse_progress source).forward _ _ .refl hrun rfl⟩

end JsxTemplate
