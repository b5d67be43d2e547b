import JsxTemplate.Text.Basic

/-
  Stretches of source that are taken over as they stand: strings, comments and quoted attribute
  values. Each function gives the stretch behind its opening, closing included, or `none` if it
  does not end.
-/

namespace JsxTemplate

/-- A string up to its closing quote. A backslash guards the character behind it; a bare newline
ends the string too early. -/
def stringBody (quote : Char) : Text → Option Text
  | [] => none
  | c :: rest =>
    if c == '\n' then none
    else if c == '\\' then
      match rest with
      | [] => none
      | guarded :: rest => (stringBody quote rest).map fun body => c :: guarded :: body
    else if c == quote then some [c]
    else (stringBody quote rest).map (c :: ·)

/-- A block comment up to the star and slash that end it. -/
def commentBody : Text → Option Text
  | [] => none
  | c :: rest =>
    match c, rest with
    | '*', '/' :: _ => some ['*', '/']
    | _, _ => (commentBody rest).map (c :: ·)

/-- An attribute value up to its closing quote. Nothing guards a quote in it. -/
def quotedBody (quote : Char) : Text → Option Text
  | [] => none
  | c :: rest => if c == quote then some [c] else (quotedBody quote rest).map (c :: ·)

theorem prefix_of_stringBody {quote : Char} {s body : Text} (h : stringBody quote s = some body) :
    body <+: s := by
  fun_induction stringBody quote s generalizing body with
  | case1 => cases h
  | case2 => cases h
  | case3 => cases h
  | case4 c _ _ guarded rest ih =>
    obtain ⟨tail, htail, rfl⟩ := Option.map_eq_some_iff.1 h
    obtain ⟨left, hleft⟩ := ih htail
    exact ⟨left, by rw [← hleft]; rfl⟩
  | case5 c rest =>
    cases h
    exact ⟨rest, rfl⟩
  | case6 c rest _ _ _ ih =>
    obtain ⟨tail, htail, rfl⟩ := Option.map_eq_some_iff.1 h
    obtain ⟨left, hleft⟩ := ih htail
    exact ⟨left, by rw [← hleft]; rfl⟩

theorem commentBody_cons {c : Char} {rest body : Text} (h : commentBody rest = some body)
    (hend : ¬ (c = '*' ∧ rest.head? = some '/')) : commentBody (c :: rest) = some (c :: body) := by
  rw [commentBody]
  · simp [h]
  · rintro tail rfl rfl
    exact hend ⟨rfl, rfl⟩

theorem prefix_of_commentBody {s body : Text} (h : commentBody s = some body) : body <+: s := by
  fun_induction commentBody s generalizing body with
  | case1 => cases h
  | case2 rest =>
    cases h
    exact ⟨rest, rfl⟩
  | case3 c rest _ ih =>
    obtain ⟨tail, htail, rfl⟩ := Option.map_eq_some_iff.1 h
    obtain ⟨left, hleft⟩ := ih htail
    exact ⟨left, by rw [← hleft]; rfl⟩

theorem quotedBody_eq_some_iff {quote : Char} {s body : Text} :
    quotedBody quote s = some body ↔
      ∃ inner rest, body = inner ++ [quote] ∧ quote ∉ inner ∧ s = body ++ rest := by
  constructor
  · intro h
    fun_induction quotedBody quote s generalizing body with
    | case1 => cases h
    | case2 c rest hc =>
      cases h
      obtain rfl : c = quote := by simpa using hc
      exact ⟨[], rest, rfl, by simp, rfl⟩
    | case3 c rest hc ih =>
      obtain ⟨tail, htail, rfl⟩ := Option.map_eq_some_iff.1 h
      obtain ⟨inner, rest', rfl, hinner, rfl⟩ := ih htail
      refine ⟨c :: inner, rest', rfl, ?_, rfl⟩
      rintro (_ | hmem)
      · simp at hc
      · exact hinner (by assumption)
  · rintro ⟨inner, rest, rfl, hinner, rfl⟩
    induction inner with
    | nil => simp [quotedBody]
    | cons c inner ih =>
      have hc : c ≠ quote := fun h => hinner (by simp [h])
      simpa [quotedBody, hc] using ih fun h => hinner (by simp [h])

end JsxTemplate
