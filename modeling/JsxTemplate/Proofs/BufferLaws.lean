import JsxTemplate.Proofs.Fragments

/-
  Laws of buffers. A buffer whose literals and slots alternate is made by its own fragments
  (`ofFragments_fragments`), so appending such buffers is appending lists. Hence `concat` makes them
  a monoid, and adding a literal or a slot is appending a buffer that holds nothing else
  (`concat_monoid`). Buffers that do not alternate are closed too, unless they have more slots than
  literals: `materialize_parts` tells when the template has one more segment than slots.
-/

namespace JsxTemplate

open Fragment

namespace Buffer

/-- Literals and slots in turn: as many literals as slots, or one more. -/
def Alternates (buffer : Buffer) : Prop :=
  buffer.literals.length = buffer.expressions.length ∨
    buffer.literals.length = buffer.expressions.length + 1

instance (buffer : Buffer) : Decidable buffer.Alternates := inferInstanceAs (Decidable (_ ∨ _))

/-! ## Alternating buffers and their fragments -/

section Turns

variable {literals expressions : List Text}

theorem ofFragments_turns_of_literal (h : literals.length = expressions.length + 1) :
    ofFragments (turns literals expressions) = ⟨literals, expressions⟩ := by
  have hends : endsInLiteral (turns literals expressions) = true := by
    rcases literals.eq_nil_or_concat with hnil | ⟨start, last, hlast⟩
    · rw [hnil] at h
      cases h
    · rw [hlast] at h ⊢
      rw [List.concat_eq_append, turns_append_literal (by simpa using h)]
      exact endsInLiteral_append_literal _ last
  rw [ofFragments_of_literal hends, gaps_turns h, slots_turns (by omega)]

theorem ofFragments_turns_of_slot (h : literals.length = expressions.length) :
    ofFragments (turns literals expressions) = ⟨literals, expressions⟩ := by
  rcases expressions.eq_nil_or_concat with hnil | ⟨start, code, hlast⟩
  · subst hnil
    rw [List.length_eq_zero_iff.1 h]
    rfl
  -- Without its last slot the buffer ends with a literal, and its gaps are its literals.
  · rw [hlast, List.concat_eq_append] at h ⊢
    have hstart : literals.length = start.length + 1 := by simpa using h
    rw [turns_append_slot hstart, ofFragments_of_not_literal (endsInLiteral_append_slot _ code),
      gaps_append_slot, List.dropLast_concat, gaps_turns hstart, slots_append,
      slots_turns (by omega)]
    rfl

end Turns

/-- Nothing is lost when an alternating buffer is taken apart. -/
theorem ofFragments_fragments {buffer : Buffer} (h : buffer.Alternates) :
    ofFragments buffer.fragments = buffer := by
  rcases h with h | h
  · exact ofFragments_turns_of_slot h
  · exact ofFragments_turns_of_literal h

theorem alternates_ofFragments (fragments : List Fragment) : (ofFragments fragments).Alternates :=
  turns_ofFragments fragments

/-! ## Appending -/

theorem concat_of_alternates {a b : Buffer} (ha : a.Alternates) (hb : b.Alternates) :
    a.concat b = .ok (ofFragments (a.fragments ++ b.fragments)) := by
  have h := concat_ofFragments a.fragments b.fragments
  rw [ofFragments_fragments ha, ofFragments_fragments hb] at h
  exact h

/-- Both ways to append three buffers give the buffer of all their fragments. -/
theorem concat_assoc {a b c : Buffer} (ha : a.Alternates) (hb : b.Alternates)
    (hc : c.Alternates) :
    ∃ ab bc abc : Buffer, a.concat b = .ok ab ∧ ab.concat c = .ok abc ∧ b.concat c = .ok bc ∧
      a.concat bc = .ok abc ∧ ab.Alternates ∧ bc.Alternates ∧ abc.Alternates := by
  refine ⟨_, _, ofFragments (a.fragments ++ b.fragments ++ c.fragments),
    concat_of_alternates ha hb, ?_, concat_of_alternates hb hc, ?_, alternates_ofFragments _,
    alternates_ofFragments _, alternates_ofFragments _⟩
  · have h := concat_ofFragments (a.fragments ++ b.fragments) c.fragments
    rw [ofFragments_fragments hc] at h
    exact h
  · have h := concat_ofFragments a.fragments (b.fragments ++ c.fragments)
    rw [ofFragments_fragments ha, ← List.append_assoc] at h
    exact h

theorem concat_empty_left {buffer : Buffer} (h : buffer.Alternates) :
    empty.concat buffer = .ok buffer := by
  have hconcat := concat_ofFragments [] buffer.fragments
  rw [List.nil_append, ofFragments_fragments h] at hconcat
  exact hconcat

theorem concat_empty_right (buffer : Buffer) : buffer.concat empty = .ok buffer := rfl

theorem concat_addLiteral (buffer : Buffer) (text : Text) :
    buffer.concat (empty.addLiteral text) = .ok (buffer.addLiteral text) := rfl

theorem concat_addExpression {buffer : Buffer} (h : buffer.Alternates) (code : Text) :
    buffer.concat (empty.addExpression code) = .ok (buffer.addExpression code) := by
  have hconcat := concat_ofFragments buffer.fragments [.slot code]
  rw [← addExpression_ofFragments, ofFragments_fragments h] at hconcat
  exact hconcat

/-- Texts added one after the other are one text. -/
theorem addLiteral_addLiteral {buffer : Buffer} (h : buffer.Alternates) (text more : Text) :
    (buffer.addLiteral text).addLiteral more = buffer.addLiteral (text ++ more) := by
  have hgaps : gaps [.literal text, .literal more] = gaps [.literal (text ++ more)] := by
    simp [gaps_literal, gaps_nil]
  rw [← ofFragments_fragments h, addLiteral_ofFragments, addLiteral_ofFragments,
    addLiteral_ofFragments, List.append_assoc]
  exact ofFragments_append_congr buffer.fragments hgaps rfl rfl

/-- Alternating buffers are a monoid under `concat`, which never refuses them, and adding to a
buffer is appending what the same addition makes of the empty one. -/
theorem concat_monoid {a b c : Buffer} (ha : a.Alternates) (hb : b.Alternates)
    (hc : c.Alternates) :
    (∃ ab bc abc : Buffer, a.concat b = .ok ab ∧ ab.concat c = .ok abc ∧ b.concat c = .ok bc ∧
      a.concat bc = .ok abc ∧ ab.Alternates ∧ bc.Alternates ∧ abc.Alternates) ∧
    empty.concat a = .ok a ∧ a.concat empty = .ok a ∧
    (∀ text, a.concat (empty.addLiteral text) = .ok (a.addLiteral text)) ∧
    (∀ code, a.concat (empty.addExpression code) = .ok (a.addExpression code)) ∧
    ∀ text more, (a.addLiteral text).addLiteral more = a.addLiteral (text ++ more) :=
  ⟨concat_assoc ha hb hc, concat_empty_left ha, concat_empty_right a, concat_addLiteral a,
    concat_addExpression ha, addLiteral_addLiteral ha⟩

/-- A buffer that ends with a slot, one that is only an empty literal, and one that begins with a
slot. -/
theorem concat_monoid_slots :
    let a : Buffer := ⟨[['x'], []], [['1'], ['2']]⟩
    let b : Buffer := ⟨[[]], []⟩
    let c : Buffer := ⟨[[], ['y']], [['3']]⟩
    (a.Alternates ∧ b.Alternates ∧ c.Alternates) ∧
      (∃ ab bc abc : Buffer, a.concat b = .ok ab ∧ ab.concat c = .ok abc ∧ b.concat c = .ok bc ∧
        a.concat bc = .ok abc ∧ ab.Alternates ∧ bc.Alternates ∧ abc.Alternates) ∧
      a.concat b = .ok ⟨[['x'], [], []], [['1'], ['2']]⟩ ∧ b.concat c = .ok c ∧
      a.concat c = .ok ⟨[['x'], [], [], ['y']], [['1'], ['2'], ['3']]⟩ := by
  intro a b c
  have ha : a.Alternates := by decide
  have hb : b.Alternates := by decide
  have hc : c.Alternates := by decide
  exact ⟨⟨ha, hb, hc⟩, (concat_monoid ha hb hc).1, by decide, by decide, by decide⟩

/-! ## Closing -/

theorem cooked_segments (literals : List Text) :
    (segments literals).map Segment.cooked = literals := by
  fun_induction segments literals with
  | case1 => rfl
  | case2 text => rfl
  | case3 text next rest ih => rw [List.map_cons, ih]

theorem length_segments (literals : List Text) : (segments literals).length = literals.length := by
  rw [← List.length_map Segment.cooked, cooked_segments]

theorem segment_of_segments {literals : List Text} {i : Nat} {segment : Segment}
    (h : (segments literals)[i]? = some segment) :
    segment.raw = escape segment.cooked ∧ (segment.tail = true ↔ i + 1 = literals.length) := by
  rw [segments_eq_mapIdx, List.getElem?_mapIdx] at h
  obtain ⟨text, -, rfl⟩ := Option.map_eq_some_iff.1 h
  exact ⟨rfl, beq_iff_eq⟩

/-- A buffer that is not refused becomes the segments of its literals, behind which an empty one is
put if there is none for the end. -/
theorem materialize_eq_ok {literals expressions : List Text}
    (h : expressions.length ≤ literals.length) :
    ∃ closed : List Text, materialize ⟨literals, expressions⟩ = .ok ⟨segments closed, expressions⟩ ∧
      literals <+: closed ∧ closed.flatten = literals.flatten ∧
      closed.length = max literals.length (expressions.length + 1) := by
  have hformed : isWellFormed ⟨literals, expressions⟩ = true := decide_eq_true h
  refine ⟨if literals.length == expressions.length then literals ++ [[]] else literals, ?_, ?_⟩
  · rw [materialize, if_pos hformed]
  · split
    next hequal =>
      have hequal : literals.length = expressions.length := by simpa using hequal
      exact ⟨List.prefix_append _ _, by simp, by simp [hequal]⟩
    next hequal =>
      have hequal : literals.length ≠ expressions.length := by simpa using hequal
      exact ⟨List.prefix_rfl, rfl, by omega⟩

end Buffer

/-- One more segment than slots. -/
def Template.Balanced (template : Template) : Prop :=
  template.segments.length = template.expressions.length + 1

namespace Buffer

/-- Closing a buffer, whatever it holds. It is refused if and only if it has more slots than
literals. If not, each literal becomes a segment, and the template is balanced if and only if there
is at most one literal more than slots: surplus literals are not refused. -/
theorem materialize_parts (literals expressions : List Text) :
    (literals.length < expressions.length ∧
      materialize ⟨literals, expressions⟩ =
        .error (.unbalancedTemplate literals.length expressions.length)) ∨
    (expressions.length ≤ literals.length ∧
      ∃ template, materialize ⟨literals, expressions⟩ = .ok template ∧
        template.expressions = expressions ∧
        literals <+: template.segments.map Segment.cooked ∧
        (template.segments.map Segment.cooked).flatten = literals.flatten ∧
        (∀ i segment, template.segments[i]? = some segment →
          segment.raw = escape segment.cooked ∧
          (segment.tail = true ↔ i + 1 = template.segments.length)) ∧
        template.segments.length = max literals.length (expressions.length + 1) ∧
        (template.Balanced ↔ literals.length ≤ expressions.length + 1)) := by
  by_cases hle : expressions.length ≤ literals.length
  · right
    obtain ⟨closed, hclosed, hstart, hflatten, hlength⟩ := materialize_eq_ok hle
    rw [← length_segments] at hlength
    refine ⟨hle, ⟨segments closed, expressions⟩, hclosed, rfl, ?_, ?_, ?_, hlength, ?_⟩
    · rw [cooked_segments]
      exact hstart
    · rw [cooked_segments]
      exact hflatten
    · intro i segment h
      rw [length_segments]
      exact segment_of_segments h
    · show (segments closed).length = expressions.length + 1 ↔ _
      omega
  · left
    have hformed : isWellFormed ⟨literals, expressions⟩ = false := decide_eq_false hle
    rw [materialize, hformed]
    exact ⟨by omega, rfl⟩

/-- Two literals without a slot between them stay two segments. -/
theorem materialize_parts_surplus :
    ∃ template, materialize ⟨[['a'], ['b']], []⟩ = .ok template ∧
      template.segments.length = 2 ∧ template.expressions = [] ∧ ¬ template.Balanced := by
  rcases materialize_parts [['a'], ['b']] [] with ⟨hlt, -⟩ |
    ⟨-, template, hok, hslots, -, -, -, hlength, hbalanced⟩
  · cases hlt
  · refine ⟨template, hok, hlength, hslots, ?_⟩
    rw [hbalanced]
    decide

end Buffer

end JsxTemplate
