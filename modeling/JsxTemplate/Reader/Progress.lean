import JsxTemplate.Reader.Basic

/-
  Reading never runs dry: every call consumes a character or is followed by one that does, so a
  source of `n` characters is read with fuel `2 * n + 1`.
-/

namespace JsxTemplate.Reader

/-- A result that did not run dry and leaves at most `bound` characters. -/
def Leaves {α : Type} (rest : α → Cursor) (bound : Nat) : Except Stop α → Prop
  | .ok a => (rest a).rest.length ≤ bound
  | .error (.fault _) => True
  | .error .outOfFuel => False

theorem Leaves.mono {α : Type} {rest : α → Cursor} {b b' : Nat} {x : Except Stop α}
    (h : Leaves rest b x) (hb : b ≤ b') : Leaves rest b' x := by
  match x, h with
  | .ok _, h => exact Nat.le_trans h hb
  | .error (.fault _), _ => trivial

theorem Leaves.bind {α β : Type} {rest : α → Cursor} {rest' : β → Cursor} {b b' : Nat}
    {x : Except Stop α} {f : α → Except Stop β} (hx : Leaves rest b x)
    (hf : ∀ a, (rest a).rest.length ≤ b → Leaves rest' b' (f a)) : Leaves rest' b' (x >>= f) := by
  match x, hx with
  | .ok a, hx => exact hf a hx
  | .error (.fault _), _ => trivial

theorem leaves_faultAt {α : Type} (rest : α → Cursor) (b : Nat) (place : Place) (fault : Fault) :
    Leaves rest b (faultAt place fault) := trivial

theorem leaves_expect (cursor : Cursor) (wanted : Char) (purpose : Text) :
    Leaves id (cursor.rest.length - 1) (expect cursor wanted purpose) := by
  unfold expect
  match h : cursor.expect wanted purpose with
  | .error _ => trivial
  | .ok behind =>
    obtain ⟨rest, hr, rfl⟩ := Cursor.expect_eq_ok_iff.1 h
    rw [hr]
    exact Nat.le_refl rest.length

/-- What enough fuel gives, for each kind of stretch. -/
structure Enough (fuel : Nat) : Prop where
  code : ∀ close start depth draft cursor, 2 * cursor.rest.length + 1 ≤ fuel →
    Leaves Prod.snd cursor.rest.length (code fuel close start depth draft cursor)
  template : ∀ start draft cursor, 2 * cursor.rest.length + 1 ≤ fuel →
    Leaves Prod.snd cursor.rest.length (template fuel start draft cursor)
  element : ∀ cursor, cursor.rest ≠ [] → 2 * cursor.rest.length ≤ fuel →
    Leaves Prod.snd (cursor.rest.length - 1) (element fuel cursor)
  attributes : ∀ tag start found cursor, 2 * cursor.rest.length + 1 ≤ fuel →
    Leaves (fun r => r.2.2) cursor.rest.length (attributes fuel tag start found cursor)
  oneAttribute : ∀ cursor c rest, cursor.rest = c :: rest → isAttributeStart c = true →
    2 * cursor.rest.length ≤ fuel →
    Leaves Prod.snd (cursor.rest.length - 1) (oneAttribute fuel cursor)
  hole : ∀ cursor, cursor.rest ≠ [] → 2 * cursor.rest.length ≤ fuel →
    Leaves Prod.snd (cursor.rest.length - 1) (hole fuel cursor)
  children : ∀ tag start found cursor, 2 * cursor.rest.length + 1 ≤ fuel →
    Leaves Prod.snd cursor.rest.length (children fuel tag start found cursor)

section Step

variable {fuel : Nat} (enough : Enough fuel)
include enough

theorem Enough.code_of_lt {close start depth draft} {cursor cursor' : Cursor}
    (h : cursor'.rest.length < cursor.rest.length) (hf : 2 * cursor.rest.length + 1 ≤ fuel + 1) :
    Leaves Prod.snd cursor.rest.length (Reader.code fuel close start depth draft cursor') :=
  (enough.code close start depth draft cursor' (by omega)).mono (by omega)

theorem Enough.template_of_lt {start draft} {cursor cursor' : Cursor}
    (h : cursor'.rest.length < cursor.rest.length) (hf : 2 * cursor.rest.length + 1 ≤ fuel + 1) :
    Leaves Prod.snd cursor.rest.length (Reader.template fuel start draft cursor') :=
  (enough.template start draft cursor' (by omega)).mono (by omega)

theorem Enough.code_succ (close : Option Char) (start : Place) (depth : Nat) (draft : Draft)
    (cursor : Cursor) (hf : 2 * cursor.rest.length + 1 ≤ fuel + 1) :
    Leaves Prod.snd cursor.rest.length
      (Reader.code (fuel + 1) close start depth draft cursor) := by
  unfold Reader.code
  split
  next h =>
    split
    · exact leaves_faultAt ..
    · exact Nat.le_refl _
  next c rest h =>
    have hne : cursor.rest ≠ [] := by simp [h]
    have hnext := Cursor.length_next_of_rest h
    split
    · exact enough.code_of_lt (by omega) hf
    split
    · split
      · exact Nat.le_refl _
      · exact enough.code_of_lt (by omega) hf
    split
    · split
      · exact leaves_faultAt ..
      · exact enough.code_of_lt (Cursor.length_past_cons_lt _ _ _ hne) hf
    split
    · refine (enough.template _ _ cursor.next (by omega)).bind fun r hr => ?_
      exact enough.code_of_lt (by omega) hf
    split
    next hc =>
      have hc : c = '/' := by simp at hc; exact hc.1
      subst hc
      exact enough.code_of_lt (Cursor.length_past_ahead_lt h (by decide)) hf
    split
    · split
      · exact leaves_faultAt ..
      · exact enough.code_of_lt (Cursor.length_past_cons_lt _ _ _ hne) hf
    split
    · refine (enough.element cursor hne (by omega)).bind fun ⟨found, behind⟩ hr => ?_
      have := Cursor.length_skipBlanks_le behind
      have := Cursor.length_next_le behind.skipBlanks
      dsimp only at hr ⊢
      split
      · exact enough.code_of_lt (by omega) hf
      · exact enough.code_of_lt (by omega) hf
    · exact enough.code_of_lt (by omega) hf

theorem Enough.template_succ (start : Place) (draft : Draft) (cursor : Cursor)
    (hf : 2 * cursor.rest.length + 1 ≤ fuel + 1) :
    Leaves Prod.snd cursor.rest.length (Reader.template (fuel + 1) start draft cursor) := by
  rw [Reader.template]
  split
  · exact leaves_faultAt ..
  next c rest h =>
    have hne : cursor.rest ≠ [] := by simp [h]
    have hnext := Cursor.length_next_of_rest h
    split
    · split
      · exact leaves_faultAt ..
      · exact enough.template_of_lt (Cursor.length_past_cons_lt _ _ _ hne) hf
    split
    · exact Cursor.length_next_le _
    split
    · have := Cursor.length_past_cons_lt cursor '$' ['{'] hne
      refine (enough.code _ _ _ _ (cursor.past ['$', '{']) (by omega)).bind fun r hr => ?_
      refine (leaves_expect ..).bind fun behind hb => ?_
      simp only [id] at hb
      exact enough.template_of_lt (by omega) hf
    · exact enough.template_of_lt (by omega) hf

theorem Enough.element_succ (cursor : Cursor) (hne : cursor.rest ≠ [])
    (hf : 2 * cursor.rest.length ≤ fuel + 1) :
    Leaves Prod.snd (cursor.rest.length - 1) (Reader.element (fuel + 1) cursor) := by
  have hpos := List.length_pos_iff.2 hne
  rw [Reader.element]
  refine (leaves_expect ..).bind fun behind hb => ?_
  simp only [id] at hb
  split
  · exact leaves_faultAt ..
  · have ht := Cursor.length_past_le behind (behind.ahead isTagChar)
    dsimp only
    split
    · exact leaves_faultAt ..
    · refine (enough.attributes _ _ _ _ (by omega)).bind fun ⟨found, closes, opened⟩ hr => ?_
      dsimp only at hr ⊢
      split
      · exact Nat.le_trans hr (by omega)
      · refine (enough.children _ _ _ _ (by omega)).bind fun q hq => ?_
        exact Nat.le_trans hq (by omega)

theorem Enough.attributes_succ (tag : Text) (start : Place) (found : List Attribute)
    (cursor : Cursor) (hf : 2 * cursor.rest.length + 1 ≤ fuel + 1) :
    Leaves (fun r => r.2.2) cursor.rest.length
      (Reader.attributes (fuel + 1) tag start found cursor) := by
  rw [Reader.attributes]
  have hs := Cursor.length_skipBlanks_le cursor
  generalize cursor.skipBlanks = behind at hs
  dsimp only
  split
  · exact leaves_faultAt ..
  next c rest h =>
    have hne : behind.rest ≠ [] := by simp [h]
    have hnext := Cursor.length_next_of_rest h
    split
    · refine (leaves_expect ..).bind fun b hb => ?_
      simp only [id] at hb
      exact Nat.le_trans hb (by omega)
    split
    · exact Nat.le_trans (Cursor.length_next_le _) hs
    split
    · exact leaves_faultAt ..
    split
    next hc =>
      refine (enough.oneAttribute behind c rest h hc (by omega)).bind fun r hr => ?_
      have hpos := List.length_pos_iff.2 hne
      exact (enough.attributes _ _ _ r.2 (by omega)).mono (by omega)
    · exact leaves_faultAt ..

theorem Enough.oneAttribute_succ (cursor : Cursor) (c : Char) (rest : Text)
    (h : cursor.rest = c :: rest) (hc : isAttributeStart c = true)
    (hf : 2 * cursor.rest.length ≤ fuel + 1) :
    Leaves Prod.snd (cursor.rest.length - 1) (Reader.oneAttribute (fuel + 1) cursor) := by
  rw [Reader.oneAttribute]
  have ht := Cursor.length_past_ahead_lt h (isAttributeChar_of_isAttributeStart hc)
  have hs := Cursor.length_skipBlanks_le (cursor.past (cursor.ahead isAttributeChar))
  generalize (cursor.past (cursor.ahead isAttributeChar)).skipBlanks = named at hs
  dsimp only
  split
  · exact Nat.le_trans hs (by omega)
  next behind hb =>
    obtain ⟨r, hr, rfl⟩ := Cursor.eat_eq_some_iff.1 hb
    have hl : r.length + 1 = named.rest.length := by simp [hr]
    have hs' := Cursor.length_skipBlanks_le ⟨r, named.place.step '='⟩
    generalize Cursor.skipBlanks ⟨r, named.place.step '='⟩ = behind at hs'
    dsimp only at hs' ⊢
    split
    · exact leaves_faultAt ..
    next d r' hd =>
      split
      · split
        · exact leaves_faultAt ..
        · exact Nat.le_trans (Cursor.length_past_le ..) (by omega)
      split
      · refine (enough.hole behind (by simp [hd]) (by omega)).bind fun q hq => ?_
        exact Nat.le_trans hq (by omega)
      · exact leaves_faultAt ..

theorem Enough.hole_succ (cursor : Cursor) (hne : cursor.rest ≠ [])
    (hf : 2 * cursor.rest.length ≤ fuel + 1) :
    Leaves Prod.snd (cursor.rest.length - 1) (Reader.hole (fuel + 1) cursor) := by
  have hpos := List.length_pos_iff.2 hne
  rw [Reader.hole]
  refine (leaves_expect ..).bind fun behind hb => ?_
  simp only [id] at hb
  refine (enough.code _ _ _ _ behind (by omega)).bind fun r hr => ?_
  refine (leaves_expect ..).bind fun b hb' => ?_
  simp only [id] at hb'
  exact Nat.le_trans hb' (by omega)

theorem Enough.children_succ (tag : Text) (start : Place) (found : List Child) (cursor : Cursor)
    (hf : 2 * cursor.rest.length + 1 ≤ fuel + 1) :
    Leaves Prod.snd cursor.rest.length
      (Reader.children (fuel + 1) tag start found cursor) := by
  rw [Reader.children]
  split
  · exact leaves_faultAt ..
  next c rest h =>
    have hne : cursor.rest ≠ [] := by simp [h]
    have hpos := List.length_pos_iff.2 hne
    split
    · split
      · have h1 := Cursor.length_next_le cursor
        have h2 := Cursor.length_next_le cursor.next
        have h3 := Cursor.length_skipBlanks_le cursor.next.next
        have h4 := Cursor.length_past_le cursor.next.next.skipBlanks
          (cursor.next.next.skipBlanks.ahead isTagChar)
        have h5 := Cursor.length_skipBlanks_le (cursor.next.next.skipBlanks.past
          (cursor.next.next.skipBlanks.ahead isTagChar))
        refine (leaves_expect ..).bind fun behind hb => ?_
        simp only [id] at hb
        split
        · exact Nat.le_trans hb (by omega)
        · exact leaves_faultAt ..
      · refine (enough.element cursor hne (by omega)).bind fun r hr => ?_
        exact (enough.children _ _ _ r.2 (by omega)).mono (by omega)
    split
    · refine (enough.hole cursor hne (by omega)).bind fun r hr => ?_
      exact (enough.children _ _ _ r.2 (by omega)).mono (by omega)
    next hlt hbrace =>
      have := Cursor.length_past_ahead_lt (p := fun c => c != '<' && c != '{') h (by simp_all)
      exact (enough.children _ _ _ _ (by omega)).mono (by omega)

end Step

theorem enough (fuel : Nat) : Enough fuel := by
  induction fuel with
  | zero =>
    constructor
    case element => exact fun cursor hne h => absurd (List.length_pos_iff.2 hne) (by omega)
    case hole => exact fun cursor hne h => absurd (List.length_pos_iff.2 hne) (by omega)
    all_goals intros; simp_all
  | succ fuel ih =>
    exact ⟨ih.code_succ, ih.template_succ, ih.element_succ, ih.attributes_succ,
      ih.oneAttribute_succ, ih.hole_succ, ih.children_succ⟩

/-- A source is read to its end or up to a fault. -/
theorem code_ne_outOfFuel (close : Option Char) (start : Place) (depth : Nat) (draft : Draft)
    (cursor : Cursor) :
    code (fuelFor cursor.rest.length) close start depth draft cursor ≠ .error .outOfFuel := by
  intro h
  have := (enough _).code close start depth draft cursor (Nat.le_refl _)
  rw [fuelFor] at h
  rw [h] at this
  exact this

end JsxTemplate.Reader
