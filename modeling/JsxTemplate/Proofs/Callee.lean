import Mathlib.Data.List.TakeWhile
import JsxTemplate.Proofs.Characters
import JsxTemplate.Reader.Callee

/-
  A callee is cut out of the code it stands in: the walk back over a member chain moves characters
  from the code before it to the chain and loses none.
-/

namespace JsxTemplate

theorem Chain.walk_text {state : ChainState} {text code : Text} {hasCall : Bool} {chain : Chain}
    (h : Chain.walk state text hasCall code = some chain) :
    chain.text.reverse ++ chain.before = text.reverse ++ code := by
  fun_induction Chain.walk state text hasCall code with
  | case1 text hasCall => cases h; rfl
  | case2 => cases h
  | case3 text hasCall c before _ ih => simpa using ih h
  | case4 text hasCall c before _ _ ih => simpa using ih h
  | case5 => cases h
  | case6 text hasCall c before _ ih => simpa using ih h
  | case7 text hasCall c before _ _ ih => simpa using ih h
  | case8 text hasCall c before => cases h; rfl
  | case9 depth text hasCall c before _ ih => simpa using ih h
  | case10 depth text hasCall c before _ _ _ ih => simpa using ih h
  | case11 depth text hasCall c before _ _ _ ih => simpa using ih h
  | case12 depth text hasCall c before _ _ ih => simpa using ih h
  | case13 text hasCall c before _ ih => simpa using ih h
  | case14 text hasCall c before _ _ ih => simpa using ih h
  | case15 text hasCall c before _ _ _ ih => simpa using ih h
  | case16 => cases h

theorem Chain.walk_suffix {state : ChainState} {text code : Text} {hasCall : Bool} {chain : Chain}
    (h : Chain.walk state text hasCall code = some chain) : text <:+ chain.text := by
  have hcons : ∀ (c : Char) (s : Text), s <:+ c :: s := fun c s => List.suffix_cons c s
  fun_induction Chain.walk state text hasCall code with
  | case1 => cases h; exact List.suffix_rfl
  | case2 => cases h
  | case3 text hasCall c before _ ih => exact (hcons c text).trans (ih h)
  | case4 text hasCall c before _ _ ih => exact (hcons c text).trans (ih h)
  | case5 => cases h
  | case6 text hasCall c before _ ih => exact (hcons c text).trans (ih h)
  | case7 text hasCall c before _ _ ih => exact (hcons c text).trans (ih h)
  | case8 => cases h; exact List.suffix_rfl
  | case9 depth text hasCall c before _ ih => exact (hcons c text).trans (ih h)
  | case10 depth text hasCall c before _ _ _ ih => exact (hcons c text).trans (ih h)
  | case11 depth text hasCall c before _ _ _ ih => exact (hcons c text).trans (ih h)
  | case12 depth text hasCall c before _ _ ih => exact (hcons c text).trans (ih h)
  | case13 text hasCall c before _ ih => exact (hcons c text).trans (ih h)
  | case14 text hasCall c before _ _ ih => exact (hcons c text).trans (ih h)
  | case15 text hasCall c before _ _ _ ih => exact (hcons c text).trans (ih h)
  | case16 => cases h

/-- A chain ends in a closing bracket or in the last character of an identifier. -/
theorem Chain.walk_last {code : Text} {chain : Chain}
    (h : Chain.walk .part [] false code = some chain) :
    ∃ c, [c] <:+ chain.text ∧ (c = ')' ∨ c = ']' ∨ isIdentifierChar c = true) := by
  cases code with
  | nil => cases h
  | cons c before =>
    rw [Chain.walk] at h
    split at h
    next hc => exact ⟨c, Chain.walk_suffix h, by simpa [← or_assoc] using Or.inl hc⟩
    next =>
      split at h
      next hc => exact ⟨c, Chain.walk_suffix h, .inr (.inr hc)⟩
      next => cases h

/-- The identifier at the root of a chain is taken whole, and is no member of anything. -/
theorem Chain.walk_before {state : ChainState} {text code : Text} {hasCall : Bool} {chain : Chain}
    (h : Chain.walk state text hasCall code = some chain) :
    ∀ c ∈ chain.before.head?, isIdentifierChar c = false ∧ c ≠ '.' := by
  fun_induction Chain.walk state text hasCall code with
  | case1 => cases h; nofun
  | case2 => cases h
  | case3 text hasCall c before _ ih => exact ih h
  | case4 text hasCall c before _ _ ih => exact ih h
  | case5 => cases h
  | case6 text hasCall c before _ ih => exact ih h
  | case7 text hasCall c before _ _ ih => exact ih h
  | case8 text hasCall c before hc hdot =>
    cases h
    rintro d ⟨⟩
    exact ⟨by simpa using hc, by simpa using hdot⟩
  | case9 depth text hasCall c before _ ih => exact ih h
  | case10 depth text hasCall c before _ _ _ ih => exact ih h
  | case11 depth text hasCall c before _ _ _ ih => exact ih h
  | case12 depth text hasCall c before _ _ ih => exact ih h
  | case13 text hasCall c before _ ih => exact ih h
  | case14 text hasCall c before _ _ ih => exact ih h
  | case15 text hasCall c before _ _ _ ih => exact ih h
  | case16 => cases h

namespace Callee

theorem eq_of_beforeNew? {code before : Text} (h : beforeNew? code = some before) :
    code = "new".toList.reverse ++ before := by
  unfold beforeNew? at h
  split at h
  next rest =>
    split at h
    · cases h; rfl
    · split at h <;> cases h
      rfl
  next => cases h

/-- The `new` is a word of its own. -/
theorem head?_of_beforeNew? {code before : Text} (h : beforeNew? code = some before) :
    ∀ c ∈ before.head?, isIdentifierChar c = false ∧ c ≠ '.' := by
  unfold beforeNew? at h
  split at h
  next rest =>
    split at h
    · cases h
      nofun
    next c tail =>
      split at h
      · cases h
      next hc =>
        cases h
        simpa using hc
  next => cases h

/-- The callee is the chain, or the chain with the `new` before it. -/
theorem ofChain?_text {chain : Chain} {callee : Callee} (h : ofChain? chain = some callee) :
    callee.text.reverse ++ callee.before = chain.text.reverse ++ chain.before := by
  unfold ofChain? at h
  split at h
  next =>
    split at h
    next => cases h; rfl
    next before hnew =>
      split at h
      next =>
        cases h
        have hb : chain.before =
            chain.before.takeWhile isBlank ++ ("new".toList.reverse ++ before) := by
          rw [← eq_of_beforeNew? hnew, List.takeWhile_append_dropWhile]
        calc _ = chain.text.reverse ++
              (chain.before.takeWhile isBlank ++ ("new".toList.reverse ++ before)) := by simp
          _ = chain.text.reverse ++ chain.before := by rw [← hb]
      next => cases h
  next => cases h

/-- A callee begins with the first character of an identifier. -/
theorem ofChain?_head {chain : Chain} {callee : Callee} (h : ofChain? chain = some callee) :
    ∃ c rest, callee.text = c :: rest ∧ isIdentifierChar c = true := by
  unfold ofChain? at h
  split at h
  next hcall =>
    split at h
    next =>
      cases h
      unfold Chain.isCallable Chain.root at hcall
      split at hcall
      next => cases hcall
      next c root hroot =>
        obtain ⟨rest, hrest⟩ := (List.takeWhile_prefix isIdentifierChar : _ <+: chain.text)
        have hc : c ∈ chain.text.takeWhile isIdentifierChar := by rw [hroot]; simp
        rw [hroot] at hrest
        exact ⟨c, root ++ rest, hrest.symm, List.mem_takeWhile_imp hc⟩
    next =>
      split at h
      next => cases h; exact ⟨'n', _, rfl, by decide⟩
      next => cases h
  next => cases h

theorem ofPending?_of_paren {pending head : Text} (h : pending.dropWhile isBlank = '(' :: head) :
    ofPending? pending = (Chain.walk .part [] false (head.dropWhile isBlank)).bind ofChain? := by
  simp only [ofPending?, h]
  cases Chain.walk .part [] false (head.dropWhile isBlank) <;> rfl

/-- Where code ends in a callee and a parenthesis, nothing but blanks stands around the
parenthesis. -/
theorem ofPending?_eq_some {pending : Text} {callee : Callee}
    (h : ofPending? pending = some callee) :
    ∃ before behind : Text, before.isBlank ∧ behind.isBlank ∧
      pending = behind ++ '(' :: before ++ (callee.text.reverse ++ callee.before) := by
  unfold ofPending? at h
  split at h
  next head hhead =>
    split at h
    next chain hwalk =>
      refine ⟨head.takeWhile isBlank, pending.takeWhile isBlank, List.all_takeWhile,
        List.all_takeWhile, ?_⟩
      have htext := Chain.walk_text hwalk
      rw [List.reverse_nil, List.nil_append] at htext
      rw [ofChain?_text h, htext, List.append_assoc, List.cons_append,
        List.takeWhile_append_dropWhile, ← hhead, List.takeWhile_append_dropWhile]
    next => cases h
  next => cases h

theorem ofPending?_head {pending : Text} {callee : Callee} (h : ofPending? pending = some callee) :
    ∃ c rest, callee.text = c :: rest ∧ isIdentifierChar c = true := by
  unfold ofPending? at h
  split at h
  next =>
    split at h
    next => exact ofChain?_head h
    next => cases h
  next => cases h

theorem ofChain?_suffix {chain : Chain} {callee : Callee} (h : ofChain? chain = some callee) :
    chain.text <:+ callee.text := by
  unfold ofChain? at h
  split at h
  next =>
    split at h
    next => cases h; exact List.suffix_rfl
    next =>
      split at h
      next => cases h; exact List.suffix_append ..
      next => cases h
  next => cases h

theorem ofPending?_last {pending : Text} {callee : Callee} (h : ofPending? pending = some callee) :
    ∃ c, callee.text.getLast? = some c ∧ (c = ')' ∨ c = ']' ∨ isIdentifierChar c = true) := by
  unfold ofPending? at h
  split at h
  next =>
    split at h
    next chain hwalk =>
      obtain ⟨c, hsuffix, hc⟩ := Chain.walk_last hwalk
      obtain ⟨before, hbefore⟩ := hsuffix.trans (ofChain?_suffix h)
      exact ⟨c, by rw [← hbefore]; simp, hc⟩
    next => cases h
  next => cases h

/-- A `new` and the chain behind it are two words: without a blank between them, the chain would
begin with the `new`. -/
theorem takeWhile_new {code before : Text} (hcode : ∀ c ∈ code.head?, isIdentifierChar c = false)
    (hnew : beforeNew? (code.dropWhile isBlank) = some before) (text : Text) :
    ("new".toList ++ (code.takeWhile isBlank).reverse ++ text).takeWhile isIdentifierChar =
      "new".toList := by
  cases hblanks : (code.takeWhile isBlank).reverse with
  | nil =>
    have hsplit : code = "new".toList.reverse ++ before := by
      calc code = code.takeWhile isBlank ++ code.dropWhile isBlank :=
            List.takeWhile_append_dropWhile.symm
        _ = "new".toList.reverse ++ before := by
            rw [List.reverse_eq_nil_iff.1 hblanks, eq_of_beforeNew? hnew, List.nil_append]
    exact absurd (hcode 'w' (by rw [hsplit]; rfl)) (by decide)
  | cons d blanks =>
    have hd : isBlank d = true := by
      have hmem : d ∈ (code.takeWhile isBlank).reverse := by simp [hblanks]
      exact List.mem_takeWhile_imp (List.mem_reverse.1 hmem)
    have hword : ¬ isIdentifierChar d = true := by
      intro hd'
      rw [not_isBlank_of_isIdentifierChar hd'] at hd
      cases hd
    have hletters : ∀ c ∈ "new".toList, isIdentifierChar c = true := List.all_eq_true.1 (by decide)
    rw [List.append_assoc, List.takeWhile_append_of_pos hletters, List.cons_append,
      List.takeWhile_cons_of_neg hword, List.append_nil]

/-- A callee begins with an identifier that is no number, and no keyword but for a `new`. -/
theorem ofChain?_root {chain : Chain} {callee : Callee} (h : ofChain? chain = some callee)
    (hbefore : ∀ c ∈ chain.before.head?, isIdentifierChar c = false) :
    ∃ c rest, callee.text.takeWhile isIdentifierChar = c :: rest ∧ c.isDigit = false ∧
      (isKeyword (c :: rest) = true → c :: rest = "new".toList) := by
  unfold ofChain? at h
  split at h
  next hcall =>
    split at h
    next =>
      cases h
      unfold Chain.isCallable Chain.root at hcall
      split at hcall
      next => cases hcall
      next c root hroot =>
        simp only [Bool.and_eq_true, Bool.not_eq_true'] at hcall
        refine ⟨c, root, hroot, hcall.1, fun hkeyword => ?_⟩
        rw [hcall.2] at hkeyword
        cases hkeyword
    next before hnew =>
      split at h
      next =>
        cases h
        exact ⟨'n', ['e', 'w'], takeWhile_new hbefore hnew chain.text, rfl, fun _ => rfl⟩
      next => cases h
  next => cases h

theorem ofPending?_root {pending : Text} {callee : Callee} (h : ofPending? pending = some callee) :
    ∃ c rest, callee.text.takeWhile isIdentifierChar = c :: rest ∧ c.isDigit = false ∧
      (isKeyword (c :: rest) = true → c :: rest = "new".toList) := by
  unfold ofPending? at h
  split at h
  next =>
    split at h
    next chain hwalk => exact ofChain?_root h fun c hc => (Chain.walk_before hwalk c hc).1
    next => cases h
  next => cases h

/-- Blanks around the parenthesis do not matter to what is found before it. -/
theorem ofPending?_blanks {before behind : Text} (hb : before.isBlank) (hh : behind.isBlank)
    (code : Text) : ofPending? (behind ++ '(' :: before ++ code) = ofPending? ('(' :: code) := by
  have hbehind : (behind ++ '(' :: before ++ code).dropWhile isBlank = '(' :: (before ++ code) := by
    rw [List.append_assoc, List.dropWhile_append_of_pos (by simpa [Text.isBlank] using hh)]
    exact List.dropWhile_cons_of_neg (by decide)
  have hbefore : (before ++ code).dropWhile isBlank = code.dropWhile isBlank :=
    List.dropWhile_append_of_pos (by simpa [Text.isBlank] using hb)
  have hparen : ('(' :: code).dropWhile isBlank = '(' :: code :=
    List.dropWhile_cons_of_neg (by decide)
  rw [ofPending?_of_paren hbehind, ofPending?_of_paren hparen, hbefore]

end Callee

end JsxTemplate
