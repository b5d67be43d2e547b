import JsxTemplate.Proofs.Compilation
import JsxTemplate.Proofs.Nesting
import JsxTemplate.Proofs.Regular

/-
  A `<` behind a member access, as in `a.size <n`. The look back from the `<` takes the last word of
  the code and asks whether it is a keyword; the dot before it does not count
  (`atExpressionStart_word`). So the text is read as a comparison unless the property is spelled like
  a keyword, and then the reader takes the `<` for the opening of an element whose tag never ends
  (`parse_memberComparison`).
-/

namespace JsxTemplate

/-! ## Copying characters that mean nothing -/

/-- Neither quotes, slashes and `<` nor brackets: code that is copied without a second look. -/
def isInert (c : Char) : Bool := isPlain c && !isOpener c && !isCloser c

theorem isInert_of_isIdentifierChar {c : Char} (h : isIdentifierChar c = true) :
    isInert c = true := by
  obtain ⟨hopener, hcloser⟩ := bracket_of_isIdentifierChar h
  rw [isInert, isPlain_of_isIdentifierChar h, hopener, hcloser]
  rfl

theorem isInert_of_isBlank {c : Char} (h : isBlank c = true) : isInert c = true := by
  obtain ⟨hopener, hcloser⟩ := not_bracket (Text.eq_false_of_all (by decide)) h
  rw [isInert, isPlain_of_isBlank h, hopener, hcloser]
  rfl

namespace Reader

variable {cursor : Cursor} {draft : Draft} {rest : Text}

theorem code_inert {c : Char} (hr : cursor.rest = c :: rest) (hc : isInert c = true) (fuel : Nat)
    (close : Option Char) (start : Place) (depth : Nat) (draft : Draft) :
    code (fuel + 1) close start depth draft cursor =
      code fuel close start depth (draft.push c) cursor.next := by
  simp only [isInert, Bool.and_eq_true, Bool.not_eq_true'] at hc
  obtain ⟨⟨hplain, hopener⟩, hcloser⟩ := hc
  obtain ⟨hsingle, hdouble, htick, hslash, hlt⟩ := ne_of_isPlain hplain
  rw [code.eq_def]
  dsimp only
  rw [hr]
  simp [hopener, hcloser, hsingle, hdouble, htick, hslash, hlt]

theorem code_inertText {text : Text} (htext : ∀ c ∈ text, isInert c = true)
    (hr : cursor.rest = text ++ rest) (fuel : Nat) (close : Option Char) (start : Place)
    (depth : Nat) (draft : Draft) :
    code (fuel + text.length) close start depth draft cursor =
      code fuel close start depth (draft.pushAll text) (cursor.past text) := by
  -- Each character costs one unit of fuel.
  induction text generalizing cursor draft with
  | nil => rfl
  | cons c text ih =>
    have htail : ∀ d ∈ text, isInert d = true := fun d hd => htext d (by simp [hd])
    have hgo := ih htail (Cursor.rest_next hr) (draft.push c)
    rw [List.length_cons, ← Nat.add_assoc, code_inert hr (htext c (by simp)), hgo,
      Cursor.past_cons hr]
    rfl

/-- A `<` that opens nothing is a character like any other. -/
theorem code_comparison (hr : cursor.rest = '<' :: rest) (h : opensElement draft cursor = false)
    (fuel : Nat) (close : Option Char) (start : Place) (depth : Nat) :
    code (fuel + 1) close start depth draft cursor =
      code fuel close start depth (draft.push '<') cursor.next := by
  rw [code.eq_def]
  dsimp only
  rw [hr]
  simp [isOpener, isCloser, h]

theorem code_of_element_error (hr : cursor.rest = '<' :: rest)
    (hopens : opensElement draft cursor = true) {fuel : Nat} {stop : Stop}
    (h : element fuel cursor = .error stop) (close : Option Char) (start : Place) (depth : Nat) :
    code (fuel + 1) close start depth draft cursor = .error stop := by
  rw [code.eq_def]
  dsimp only
  rw [hr]
  simp [isOpener, isCloser, hopens, h, bind, Except.bind]

/-- The source ends behind the name of a tag. -/
theorem element_unterminated {tag : Text} (hr : cursor.rest = '<' :: tag) (hne : tag ≠ [])
    (htag : ∀ c ∈ tag, isTagChar c = true) (fuel : Nat) :
    element (fuel + 2) cursor = faultAt cursor.place (.unterminatedTag tag) := by
  have hr' : cursor.rest = '<' :: tag ++ [] := by rw [hr, List.append_nil]
  have hend : (cursor.past ('<' :: tag)).skipBlanks.rest = [] := by
    rw [Cursor.skipBlanks, Cursor.rest_past_ahead, Cursor.rest_past hr']
    rfl
  rw [element_eq hr' hne htag (by simp), attributes]
  dsimp only
  rw [hend]
  rfl

end Reader

section Less

variable {before name : Text} (hbefore : ∀ c ∈ before, isInert c = true)
include hbefore

/-- Where the reader of a whole source stands before its first `<`. -/
theorem code_before_less (name : Text) :
    ∃ cursor : Cursor, cursor.rest = '<' :: name ∧ cursor.place = Place.origin.after before ∧
      Reader.code (Reader.fuelFor (before ++ '<' :: name).length) none .origin 0 .empty
          (.ofText (before ++ '<' :: name)) =
        Reader.code (before.length + 2 * name.length + 3) none .origin 0
          (Draft.empty.pushAll before) cursor := by
  have hfuel : Reader.fuelFor (before ++ '<' :: name).length =
      before.length + 2 * name.length + 3 + before.length := by
    rw [Reader.fuelFor, List.length_append, List.length_cons]
    omega
  refine ⟨(Cursor.ofText (before ++ '<' :: name)).past before, Cursor.rest_past rfl, rfl, ?_⟩
  rw [hfuel]
  exact Reader.code_inertText hbefore rfl _ none .origin 0 .empty

theorem parse_comparison (hname : ∀ c ∈ name, isInert c = true)
    (hopens : ∀ cursor : Cursor, cursor.rest = '<' :: name →
      Reader.opensElement (Draft.empty.pushAll before) cursor = false) :
    parse (before ++ '<' :: name) = .ok [.code (before ++ '<' :: name)] := by
  obtain ⟨cursor, hr, -, hcode⟩ := code_before_less hbefore name
  have hr' : cursor.next.rest = name ++ [] := by rw [Cursor.rest_next hr, List.append_nil]
  have hfuel : before.length + 2 * name.length + 3 =
      before.length + name.length + 2 + name.length + 1 := by omega
  have hend : Reader.code (before.length + name.length + 2) none .origin 0
        (((Draft.empty.pushAll before).push '<').pushAll name) (cursor.next.past name) =
      .ok (((Draft.empty.pushAll before).push '<').pushAll name, cursor.next.past name) := by
    rw [Reader.code, Cursor.rest_past hr']
  rw [hfuel, Reader.code_comparison hr (hopens cursor hr), Reader.code_inertText hname hr',
    hend] at hcode
  refine parse_eq_ok_iff.2 ⟨_, _, hcode, ?_⟩
  have hsource : ((Draft.empty.pushAll before).push '<').pushAll name =
      Draft.empty.pushAll (before ++ '<' :: name) := by
    rw [Draft.pushAll_append]
    rfl
  rw [hsource]
  exact Draft.finish_pushAll rfl (by simp)

theorem parse_unterminated (hne : name ≠ []) (hname : ∀ c ∈ name, isTagChar c = true)
    (hopens : ∀ cursor : Cursor, cursor.rest = '<' :: name →
      Reader.opensElement (Draft.empty.pushAll before) cursor = true) :
    parse (before ++ '<' :: name) =
      .error (.atPlace (Place.origin.after before) (.unterminatedTag name)) := by
  obtain ⟨cursor, hr, hplace, hcode⟩ := code_before_less hbefore name
  have helement := Reader.element_unterminated hr hne hname (before.length + 2 * name.length)
  rw [hplace] at helement
  rw [Reader.code_of_element_error hr (hopens cursor hr) helement] at hcode
  exact parse_eq_error_iff.2 hcode

end Less

/-! ## The word before a `<` -/

/-- No punctuation is part of a word. -/
theorem not_punctuation_of_isIdentifierChar {c : Char} (h : isIdentifierChar c = true) :
    expressionPunctuation.contains c = false := by
  have hnone : ∀ d ∈ expressionPunctuation, isIdentifierChar d = false :=
    Text.eq_false_of_all (by decide)
  rw [List.contains_eq_mem, decide_eq_false_iff_not]
  intro hmem
  rw [hnone c hmem] at h
  cases h

/-- Behind a word, the word alone decides whether an expression may begin, whatever stands before
it: a property is not told from a keyword. -/
theorem Draft.atExpressionStart_word {draft : Draft} {word blanks : Text}
    (hdraft : ∀ c ∈ draft.pending.head?, isIdentifierChar c = false) (hword : IsIdentifier word)
    (hblanks : blanks.isBlank) :
    (draft.pushAll (word ++ blanks)).atExpressionStart = expressionKeywords.contains word := by
  obtain ⟨last, inner, hreverse⟩ : ∃ last inner, word.reverse = last :: inner :=
    List.exists_cons_of_ne_nil (by simpa using hword.1)
  have hchars : ∀ c ∈ word.reverse, isIdentifierChar c = true :=
    fun c hc => hword.2 c (List.mem_reverse.1 hc)
  have hlast : isIdentifierChar last = true := hchars last (by simp [hreverse])
  have hpending : (draft.pushAll (word ++ blanks)).pending.dropWhile isBlank =
      last :: (inner ++ draft.pending) := by
    rw [pushAll_pending, List.reverse_append, List.append_assoc,
      List.dropWhile_append_of_pos (by simpa [Text.isBlank] using hblanks), hreverse]
    exact List.dropWhile_cons_of_neg (by simp [not_isBlank_of_isIdentifierChar hlast])
  -- The word ends where the draft before it does, at the dot of a member access for one.
  have hbefore : draft.pending.takeWhile isIdentifierChar = [] := by
    cases hp : draft.pending with
    | nil => rfl
    | cons c before => exact List.takeWhile_cons_of_neg (by simp [hdraft c (by simp [hp])])
  have htake : (last :: (inner ++ draft.pending)).takeWhile isIdentifierChar = word.reverse := by
    rw [← List.cons_append, ← hreverse, List.takeWhile_append_of_pos hchars, hbefore,
      List.append_nil]
  have hsign : (last == '+' || last == '-') = false := by
    rw [Bool.or_eq_false_iff, beq_eq_false_iff_ne, beq_eq_false_iff_ne]
    constructor <;> intro heq <;> rw [heq] at hlast <;> cases hlast
  rw [atExpressionStart_of_last hpending, htake, List.reverse_reverse, hsign,
    not_punctuation_of_isIdentifierChar hlast]
  rfl

/-! ## Comparing a member -/

/-- A member of an object. -/
def memberAccess (object property : Text) : Text := object ++ '.' :: property

section MemberComparison

variable {object property blanks name : Text}

theorem isInert_memberAccess (hobject : IsIdentifier object) (hproperty : IsIdentifier property)
    (hblanks : blanks.isBlank) :
    ∀ c ∈ memberAccess object property ++ blanks, isInert c = true := by
  intro c hc
  simp only [memberAccess, List.mem_append, List.mem_cons] at hc
  rcases hc with (hc | hdot | hc) | hc
  · exact isInert_of_isIdentifierChar (hobject.2 c hc)
  · rw [hdot]
    decide
  · exact isInert_of_isIdentifierChar (hproperty.2 c hc)
  · exact isInert_of_isBlank (List.all_eq_true.1 hblanks c hc)

/-- Behind a member access a `<` opens an element if the property is spelled like a keyword. -/
theorem opensElement_memberAccess (hproperty : IsIdentifier property) (hblanks : blanks.isBlank)
    (hname : IsIdentifier name) (hstart : ∀ c ∈ name.head?, isTagStart c = true) {cursor : Cursor}
    (hr : cursor.rest = '<' :: name) :
    Reader.opensElement (Draft.empty.pushAll (memberAccess object property ++ blanks)) cursor =
      expressionKeywords.contains property := by
  obtain ⟨c, rest, hcons⟩ := List.exists_cons_of_ne_nil hname.1
  have hnext : isTagStart cursor.peekNext = true := by
    rw [Cursor.peekNext, Cursor.peekAt, hr, hcons]
    exact hstart c (by rw [hcons]; rfl)
  have hdot : ∀ d ∈ (Draft.empty.pushAll (object ++ ['.'])).pending.head?,
      isIdentifierChar d = false := by
    intro d hd
    rw [Draft.pushAll_pending, List.reverse_append] at hd
    obtain rfl : '.' = d := by simpa using hd
    decide
  have hsplit : memberAccess object property ++ blanks =
      object ++ ['.'] ++ (property ++ blanks) := by
    simp [memberAccess]
  rw [Reader.opensElement, hnext, hsplit, Draft.pushAll_append,
    Draft.atExpressionStart_word hdot hproperty hblanks]
  rfl

/-- A member compared by `<` is read as the code it is, and left as it is, unless the property is
spelled like a keyword before an expression. Then the `<` is taken for the beginning of an element,
and the source is refused for the tag that does not end. -/
theorem parse_memberComparison (hobject : IsIdentifier object) (hproperty : IsIdentifier property)
    (hblanks : blanks.isBlank) (hname : IsIdentifier name)
    (hstart : ∀ c ∈ name.head?, isTagStart c = true) :
    let before := memberAccess object property ++ blanks
    let source := before ++ '<' :: name
    let error := ParseError.atPlace (Place.origin.after before) (.unterminatedTag name)
    (parse source =
      if property ∈ expressionKeywords then .error error else .ok [.code source]) ∧
    ∀ overrides : Overrides, transformSource overrides source =
      if property ∈ expressionKeywords then .error (.parse error) else .ok source := by
  intro before source error
  have hbefore : ∀ c ∈ before, isInert c = true :=
    isInert_memberAccess hobject hproperty hblanks
  have hopens : ∀ cursor : Cursor, cursor.rest = '<' :: name →
      Reader.opensElement (Draft.empty.pushAll before) cursor =
        expressionKeywords.contains property :=
    fun cursor hr => opensElement_memberAccess hproperty hblanks hname hstart hr
  rw [List.contains_eq_mem] at hopens
  by_cases hkeyword : property ∈ expressionKeywords
  · have htag : ∀ c ∈ name, isTagChar c = true := by
      intro c hc
      simp [isTagChar, hname.2 c hc]
    have hparse : parse source = .error error :=
      parse_unterminated hbefore hname.1 htag fun cursor hr => by simp [hopens cursor hr, hkeyword]
    rw [if_pos hkeyword]
    refine ⟨hparse, fun overrides => ?_⟩
    rw [if_pos hkeyword]
    exact transformSource_eq_error_iff.2 ⟨error, hparse, rfl⟩
  · have hparse : parse source = .ok [.code source] :=
      parse_comparison hbefore (fun c hc => isInert_of_isIdentifierChar (hname.2 c hc))
        fun cursor hr => by simp [hopens cursor hr, hkeyword]
    rw [if_neg hkeyword]
    refine ⟨hparse, fun overrides => ?_⟩
    rw [if_neg hkeyword]
    exact transformSource_eq_ok_iff.2 ⟨_, _, hparse, compileNodes_plain _ rfl, by
      rw [nodesSource, nodesSource, Node.toSource, List.append_nil]⟩

/-- The property `size`, and the property `in`, which is a keyword elsewhere. -/
theorem parse_memberComparison_in :
    parse "a.size <b".toList = .ok [.code "a.size <b".toList] ∧
      parse "a.in <b".toList = .error ⟨.unterminatedTag ['b'], 1, 6⟩ := by
  have ha : IsIdentifier ['a'] := ⟨by decide, List.all_eq_true.1 (by decide)⟩
  have hb : IsIdentifier ['b'] := ⟨by decide, List.all_eq_true.1 (by decide)⟩
  have hstart : ∀ c ∈ ['b'].head?, isTagStart c = true := by
    intro c hc
    cases hc
    decide
  have hsize : IsIdentifier "size".toList := ⟨by decide, List.all_eq_true.1 (by decide)⟩
  have hin : IsIdentifier "in".toList := ⟨by decide, List.all_eq_true.1 (by decide)⟩
  have hblank : Text.isBlank [' '] = true := by decide
  exact ⟨(parse_memberComparison ha hsize hblank hb hstart).1,
    (parse_memberComparison ha hin hblank hb hstart).1⟩

end MemberComparison

end JsxTemplate
