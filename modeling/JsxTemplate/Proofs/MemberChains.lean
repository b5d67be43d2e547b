import Mathlib.Data.List.Basic
import Mathlib.Data.List.Induction
import JsxTemplate.Proofs.Callee
import JsxTemplate.Proofs.Lexer

/-
  Member chains: an identifier with members, calls and indices behind it. The walk back from a
  parenthesis matches brackets by counting them, so it takes more than that for a chain, and
  `LooseChain` says what: it finds exactly those (`walk_eq_some_iff`). A member chain is one of
  them, and what the walk makes of it is the callee (`callee_of_memberChain`).
-/

namespace JsxTemplate

/-! ## Brackets -/

/-- How many brackets are open behind a text, if none is closed that was not open. Brackets are
counted, whatever their kind. -/
def openAfter? : Nat → Text → Option Nat
  | depth, [] => some depth
  | depth, c :: text =>
    if isOpener c then openAfter? (depth + 1) text
    else if isCloser c then if depth = 0 then none else openAfter? (depth - 1) text
    else openAfter? depth text

/-- Every bracket of the text is closed in it, and none that is not opened in it. -/
def Balanced (text : Text) : Prop := openAfter? 0 text = some 0

theorem openAfter?_append (depth : Nat) (s t : Text) :
    openAfter? depth (s ++ t) = (openAfter? depth s).bind (openAfter? · t) := by
  induction s generalizing depth with
  | nil => rfl
  | cons c s ih =>
    rw [List.cons_append, openAfter?, openAfter?]
    split
    · exact ih (depth + 1)
    split
    · split
      · rfl
      · exact ih (depth - 1)
    · exact ih depth

/-- More open brackets before do not matter. -/
theorem openAfter?_add {depth depth' : Nat} {text : Text} (h : openAfter? depth text = some depth')
    (more : Nat) : openAfter? (depth + more) text = some (depth' + more) := by
  induction text generalizing depth with
  | nil =>
    rw [openAfter?, Option.some.injEq] at *
    omega
  | cons c text ih =>
    rw [openAfter?] at *
    split
    next ho =>
      rw [if_pos ho] at h
      rw [Nat.add_right_comm]
      exact ih h
    next ho =>
      rw [if_neg ho] at h
      split
      next hc =>
        rw [if_pos hc] at h
        split at h
        · cases h
        next hdepth =>
          rw [if_neg (by omega), Nat.sub_add_comm (by omega)]
          exact ih h
      next hc =>
        rw [if_neg hc] at h
        exact ih h

theorem openAfter?_of_balanced {text : Text} (h : Balanced text) (depth : Nat) :
    openAfter? depth text = some depth := by
  have hadd := openAfter?_add h depth
  rw [Nat.zero_add] at hadd
  exact hadd

/-- Text without brackets. -/
theorem openAfter?_of_plain {text : Text}
    (h : ∀ c ∈ text, isOpener c = false ∧ isCloser c = false) (depth : Nat) :
    openAfter? depth text = some depth := by
  induction text with
  | nil => rfl
  | cons c text ih =>
    obtain ⟨ho, hc⟩ := h c (by simp)
    rw [openAfter?, if_neg (by simp [ho]), if_neg (by simp [hc])]
    exact ih fun d hd => h d (by simp [hd])

/-- Neither names nor blanks hold brackets. -/
theorem not_bracket {p : Char → Bool} (hp : ∀ d ∈ "()[]{}".toList, p d = false) {c : Char}
    (h : p c = true) : isOpener c = false ∧ isCloser c = false := by
  have hne : ∀ d ∈ "()[]{}".toList, c ≠ d := by
    rintro d hd rfl
    rw [hp c hd] at h
    cases h
  simp only [isOpener, isCloser, Bool.or_eq_false_iff, beq_eq_false_iff_ne]
  exact ⟨⟨⟨hne _ (by decide), hne _ (by decide)⟩, hne _ (by decide)⟩,
    ⟨⟨hne _ (by decide), hne _ (by decide)⟩, hne _ (by decide)⟩⟩

theorem bracket_of_isIdentifierChar {c : Char} (h : isIdentifierChar c = true) :
    isOpener c = false ∧ isCloser c = false :=
  not_bracket (Text.eq_false_of_all (by decide)) h

theorem openAfter?_of_isBlank {blanks : Text} (h : blanks.isBlank) (depth : Nat) :
    openAfter? depth blanks = some depth :=
  openAfter?_of_plain (fun c hc => not_bracket (Text.eq_false_of_all (by decide))
    (List.all_eq_true.1 h c hc)) depth

/-! ## Chains -/

def IsIdentifier (name : Text) : Prop := name ≠ [] ∧ ∀ c ∈ name, isIdentifierChar c = true

/-- An identifier with members, calls and indices behind it. -/
inductive MemberChain (root : Text) : Text → Prop where
  | root : MemberChain root root
  | member {chain name : Text} (h : MemberChain root chain) (hname : IsIdentifier name) :
      MemberChain root (chain ++ '.' :: name)
  | group {chain inside : Text} {opener closer : Char} (h : MemberChain root chain)
      (hbrackets : opener = '(' ∧ closer = ')' ∨ opener = '[' ∧ closer = ']')
      (hinside : Balanced inside) : MemberChain root (chain ++ opener :: inside ++ [closer])

/-- What the walk back takes for a chain: a group may be opened by any bracket, and a dot may stand
before it. A group that a parenthesis opens is a call. -/
inductive LooseChain (root : Text) : Bool → Text → Prop where
  | root : LooseChain root false root
  | member {called : Bool} {chain name : Text} (h : LooseChain root called chain)
      (hname : IsIdentifier name) : LooseChain root called (chain ++ '.' :: name)
  | group {called : Bool} {chain dot inside : Text} {opener closer : Char}
      (h : LooseChain root called chain) (hdot : dot = [] ∨ dot = ['.'])
      (hopener : isOpener opener = true) (hcloser : closer = ')' ∨ closer = ']')
      (hinside : Balanced inside) :
      LooseChain root (called || opener == '(') (chain ++ dot ++ opener :: inside ++ [closer])

theorem MemberChain.loose {root chain : Text} (h : MemberChain root chain) :
    ∃ called, LooseChain root called chain := by
  induction h with
  | root => exact ⟨false, .root⟩
  | member h hname ih =>
    obtain ⟨called, ih⟩ := ih
    exact ⟨called, .member ih hname⟩
  | @group chain inside opener closer h hbrackets hinside ih =>
    obtain ⟨called, ih⟩ := ih
    refine ⟨called || opener == '(', ?_⟩
    have hopener : isOpener opener = true := by
      rcases hbrackets with ⟨rfl, -⟩ | ⟨rfl, -⟩ <;> rfl
    have hgroup := LooseChain.group ih (.inl rfl) hopener
      (hbrackets.imp And.right And.right) hinside
    rwa [List.append_nil] at hgroup

namespace LooseChain

variable {root chain : Text} {called : Bool}

/-- A chain ends in a closing bracket or in the last character of an identifier. -/
theorem last (hroot : IsIdentifier root) (h : LooseChain root called chain) :
    ∃ start c, chain = start ++ [c] ∧ (c = ')' ∨ c = ']' ∨ isIdentifierChar c = true) := by
  have hword : ∀ {name : Text}, IsIdentifier name → ∀ front : Text,
      ∃ start c, front ++ name = start ++ [c] ∧
        (c = ')' ∨ c = ']' ∨ isIdentifierChar c = true) := by
    rintro name ⟨hne, hchars⟩ front
    obtain ⟨start, c, rfl⟩ := (List.eq_nil_or_concat' name).resolve_left hne
    exact ⟨front ++ start, c, (List.append_assoc ..).symm, .inr (.inr (hchars c (by simp)))⟩
  cases h with
  | root => exact hword hroot []
  | @member _ chain name h hname =>
    obtain ⟨start, c, hlast, hc⟩ := hword hname (chain ++ ['.'])
    exact ⟨start, c, by rw [← hlast]; simp, hc⟩
  | @group _ _ _ _ _ closer h hdot hopener hcloser hinside =>
    exact ⟨_, closer, rfl, hcloser.imp_right .inl⟩

/-- A chain begins with its root, and the root with nothing else. -/
theorem takeWhile (hroot : IsIdentifier root) (h : LooseChain root called chain) :
    chain.takeWhile isIdentifierChar = root := by
  have hsplit : ∃ rest, chain = root ++ rest ∧ ∀ c ∈ rest.head?, isIdentifierChar c = false := by
    induction h with
    | root => exact ⟨[], (List.append_nil root).symm, nofun⟩
    | @member _ chain name h hname ih =>
      obtain ⟨rest, rfl, hrest⟩ := ih
      refine ⟨rest ++ '.' :: name, List.append_assoc .., ?_⟩
      cases rest with
      | nil => simp; decide
      | cons d rest => exact hrest
    | @group _ chain dot inside opener closer h hdot hopener hcloser hinside ih =>
      obtain ⟨rest, rfl, hrest⟩ := ih
      refine ⟨rest ++ dot ++ opener :: inside ++ [closer], by simp, ?_⟩
      have hword : isIdentifierChar opener = false := by
        rw [← Bool.not_eq_true]
        intro hword
        rw [(bracket_of_isIdentifierChar hword).1] at hopener
        cases hopener
      cases rest with
      | nil => rcases hdot with rfl | rfl <;> simp [hword]; decide
      | cons d rest => exact hrest
  obtain ⟨rest, rfl, hrest⟩ := hsplit
  rw [List.takeWhile_append_of_pos hroot.2]
  cases rest with
  | nil => simp
  | cons c rest => simp [hrest c rfl]

/-- A chain closes what it opens. -/
theorem openAfter? (hroot : IsIdentifier root) (h : LooseChain root called chain) (depth : Nat) :
    openAfter? depth chain = some depth := by
  have hword : ∀ {name : Text}, IsIdentifier name →
      JsxTemplate.openAfter? depth name = some depth :=
    fun hname => openAfter?_of_plain (fun c hc => bracket_of_isIdentifierChar (hname.2 c hc)) depth
  induction h with
  | root => exact hword hroot
  | @member _ chain name h hname ih =>
    rw [openAfter?_append, ih]
    show JsxTemplate.openAfter? depth name = some depth
    exact hword hname
  | @group _ chain dot inside opener closer h hdot hopener hcloser hinside ih =>
    have hdot : JsxTemplate.openAfter? depth dot = some depth := by
      rcases hdot with rfl | rfl <;> rfl
    have hclosed : JsxTemplate.openAfter? (depth + 1) [closer] = some depth := by
      rcases hcloser with rfl | rfl <;> rfl
    rw [List.append_assoc, openAfter?_append, openAfter?_append, ih, Option.bind_some, hdot,
      Option.bind_some, List.cons_append, JsxTemplate.openAfter?, if_pos hopener,
      openAfter?_append, openAfter?_of_balanced hinside, Option.bind_some, hclosed]

end LooseChain

/-! ## The walk finds chains -/

/-- Walking back over balanced code in a group. -/
theorem walk_group {group : Text} {depth depth' : Nat} (h : openAfter? depth group = some depth')
    (more : Nat) (text : Text) (hasCall : Bool) (before : Text) :
    Chain.walk (.group (more + 1 + depth')) text hasCall (group.reverse ++ before) =
      Chain.walk (.group (more + 1 + depth)) (group ++ text) hasCall before := by
  induction group generalizing depth before with
  | nil =>
    rw [openAfter?, Option.some.injEq] at h
    rw [h]
    rfl
  | cons c group ih =>
    rw [List.reverse_cons, List.append_assoc, List.singleton_append]
    rw [openAfter?] at h
    split at h
    next ho =>
      have hc : isCloser c = false := by
        rw [← Bool.not_eq_true]
        intro hc
        rw [Lexer.not_isOpener_of_isCloser hc] at ho
        cases ho
      rw [ih h, Chain.walk, if_neg (by simp [hc]), if_pos ho, if_neg (by omega)]
      rfl
    next ho =>
      split at h
      next hc =>
        split at h
        · cases h
        next h0 =>
          have hdepth : more + 1 + (depth - 1) + 1 = more + 1 + depth := by omega
          rw [ih h, Chain.walk, if_pos hc, hdepth]
          rfl
      next hc =>
        rw [ih h, Chain.walk, if_neg hc, if_neg ho]
        rfl

/-- Walking back over an identifier. -/
theorem walk_word {name : Text} (hname : ∀ c ∈ name, isIdentifierChar c = true) (text : Text)
    (hasCall : Bool) (before : Text) :
    Chain.walk .word text hasCall (name.reverse ++ before) =
      Chain.walk .word (name ++ text) hasCall before := by
  induction name generalizing before with
  | nil => rfl
  | cons c name ih =>
    rw [List.reverse_cons, List.append_assoc, List.singleton_append,
      ih (fun d hd => hname d (by simp [hd])), Chain.walk, if_pos (hname c (by simp))]
    rfl

theorem walk_identifier {name : Text} (hname : IsIdentifier name) (text : Text) (hasCall : Bool)
    (before : Text) :
    Chain.walk .part text hasCall (name.reverse ++ before) =
      Chain.walk .word (name ++ text) hasCall before := by
  obtain ⟨hne, hchars⟩ := hname
  obtain ⟨start, c, rfl⟩ := (List.eq_nil_or_concat' name).resolve_left hne
  have hc : isIdentifierChar c = true := hchars c (by simp)
  have hgroup : ¬ ((c == ')' || c == ']') = true) := by
    have hclose := (bracket_of_isIdentifierChar hc).2
    simp only [isCloser, Bool.or_eq_false_iff] at hclose
    simp [hclose.1]
  rw [List.reverse_append, List.append_assoc]
  show Chain.walk .part text hasCall (c :: (start.reverse ++ before)) = _
  rw [Chain.walk, if_neg hgroup, if_pos hc, walk_word fun d hd => hchars d (by simp [hd]),
    List.append_assoc, List.singleton_append]

/-- Walking back over a group. -/
theorem walk_bracketed {opener closer : Char} {inside : Text} (hopener : isOpener opener = true)
    (hcloser : closer = ')' ∨ closer = ']') (hinside : Balanced inside) (text : Text)
    (hasCall : Bool) (before : Text) :
    Chain.walk .part text hasCall (closer :: (inside.reverse ++ opener :: before)) =
      Chain.walk .grouped (opener :: inside ++ closer :: text) (hasCall || opener == '(')
        before := by
  have hclose : (closer == ')' || closer == ']') = true := by simpa using hcloser
  have hopen : isCloser opener = false := by
    rw [← Bool.not_eq_true]
    intro hclose
    rw [Lexer.not_isOpener_of_isCloser hclose] at hopener
    cases hopener
  rw [Chain.walk, if_pos hclose]
  apply (walk_group hinside 0 (closer :: text) hasCall (opener :: before)).trans
  rw [Chain.walk, if_neg (by simp [hopen]), if_pos hopener, if_pos (by decide)]
  rfl

namespace LooseChain

variable {root chain : Text} {called : Bool}

/-- Before a group, a chain goes on as it would end, but for a dot. -/
theorem walk_grouped (hroot : IsIdentifier root) (h : LooseChain root called chain) {dot : Text}
    (hdot : dot = [] ∨ dot = ['.']) (text : Text) (hasCall : Bool) (before : Text) :
    Chain.walk .grouped text hasCall (dot ++ (chain.reverse ++ before)) =
      Chain.walk .part (dot ++ text) hasCall (chain.reverse ++ before) := by
  rcases hdot with rfl | rfl
  · obtain ⟨start, c, rfl, hc⟩ := h.last hroot
    have hdot : ¬ ((c == '.') = true) := by
      rw [beq_iff_eq]
      rintro rfl
      revert hc
      decide
    rw [List.reverse_append, List.append_assoc]
    show Chain.walk .grouped text hasCall (c :: (start.reverse ++ before)) =
      Chain.walk .part text hasCall (c :: (start.reverse ++ before))
    rw [Chain.walk, Chain.walk, if_neg hdot]
  · show Chain.walk .grouped text hasCall ('.' :: (chain.reverse ++ before)) = _
    rw [Chain.walk, if_neg (by decide), if_pos (by decide)]
    rfl

/-- Walking back over a chain finds all of it, and its calls. -/
theorem walk (hroot : IsIdentifier root) (h : LooseChain root called chain) (text : Text)
    (hasCall : Bool) (before : Text) :
    Chain.walk .part text hasCall (chain.reverse ++ before) =
      Chain.walk .word (chain ++ text) (hasCall || called) before := by
  induction h generalizing text hasCall with
  | root =>
    rw [Bool.or_false]
    exact walk_identifier hroot text hasCall before
  | @member called chain name h hname ih =>
    have hreverse : (chain ++ '.' :: name).reverse ++ before =
        name.reverse ++ '.' :: (chain.reverse ++ before) := by simp
    rw [hreverse, walk_identifier hname, Chain.walk, if_neg (by decide), if_pos (by decide), ih,
      List.append_assoc]
    rfl
  | @group called chain dot inside opener closer h hdot hopener hcloser hinside ih =>
    have hreverse : (chain ++ dot ++ opener :: inside ++ [closer]).reverse ++ before =
        closer :: (inside.reverse ++ opener :: (dot ++ (chain.reverse ++ before))) := by
      rcases hdot with rfl | rfl <;> simp
    have htext : chain ++ dot ++ opener :: inside ++ [closer] ++ text =
        chain ++ (dot ++ (opener :: inside ++ closer :: text)) := by simp
    have hcalls : (hasCall || (called || opener == '(')) =
        (hasCall || opener == '(' || called) := by
      rw [Bool.or_comm called, Bool.or_assoc]
    rw [hreverse, htext, hcalls, walk_bracketed hopener hcloser hinside,
      h.walk_grouped hroot hdot, ih]

end LooseChain

/-! ## The walk finds nothing but chains -/

/-- A chain with an identifier as its root. -/
def IsLooseChain (called : Bool) (chain : Text) : Prop :=
  ∃ root, IsIdentifier root ∧ LooseChain root called chain

/-- What the walk has still to find, from a state on. -/
def Front : ChainState → Bool → Text → Prop
  | .part, called, front => IsLooseChain called front
  | .word, called, front =>
    ∃ name, (∀ c ∈ name, isIdentifierChar c = true) ∧
      (called = false ∧ front = name ∨
        ∃ chain, IsLooseChain called chain ∧ front = chain ++ '.' :: name)
  | .group depth, called, front =>
    ∃ before chain dot opener inside, IsLooseChain before chain ∧ (dot = [] ∨ dot = ['.']) ∧
      isOpener opener = true ∧ openAfter? 0 inside = some (depth - 1) ∧
      called = (before || opener == '(') ∧ front = chain ++ dot ++ opener :: inside
  | .grouped, called, front =>
    ∃ chain dot, IsLooseChain called chain ∧ (dot = [] ∨ dot = ['.']) ∧ front = chain ++ dot

namespace Front

variable {called : Bool} {front : Text} {c : Char} {depth : Nat}

theorem word_of_word (h : Front .word called front) (hc : isIdentifierChar c = true) :
    Front .word called (front ++ [c]) := by
  obtain ⟨name, hname, h⟩ := h
  have hword : ∀ d ∈ name ++ [c], isIdentifierChar d = true := by
    simpa [or_imp, forall_and, hc] using hname
  refine ⟨name ++ [c], hword, ?_⟩
  rcases h with ⟨rfl, rfl⟩ | ⟨chain, hchain, rfl⟩
  · exact .inl ⟨rfl, rfl⟩
  · exact .inr ⟨chain, hchain, by simp⟩

theorem part_of_word (h : Front .word called front) (hc : isIdentifierChar c = true) :
    Front .part called (front ++ [c]) := by
  obtain ⟨name, hname, h⟩ := h
  have hword : IsIdentifier (name ++ [c]) :=
    ⟨by simp, by simpa [or_imp, forall_and, hc] using hname⟩
  rcases h with ⟨rfl, rfl⟩ | ⟨chain, ⟨root, hroot, hchain⟩, rfl⟩
  · exact ⟨_, hword, .root⟩
  · refine ⟨root, hroot, ?_⟩
    rw [List.append_assoc, List.cons_append]
    exact hchain.member hword

theorem part_of_group (h : Front (.group 1) called front) (hc : c = ')' ∨ c = ']') :
    Front .part called (front ++ [c]) := by
  obtain ⟨before, chain, dot, opener, inside, ⟨root, hroot, hchain⟩, hdot, hopener, hinside, rfl,
    rfl⟩ := h
  exact ⟨root, hroot, hchain.group hdot hopener hc hinside⟩

theorem word_of_part (h : Front .part called front) : Front .word called (front ++ ['.']) :=
  ⟨[], nofun, .inr ⟨front, h, rfl⟩⟩

theorem grouped_of_part (h : Front .part called front) : Front .grouped called front :=
  ⟨front, [], h, .inl rfl, (List.append_nil front).symm⟩

theorem grouped_of_dot (h : Front .part called front) : Front .grouped called (front ++ ['.']) :=
  ⟨front, ['.'], h, .inr rfl, rfl⟩

/-- The bracket that opens a group. -/
theorem group_of_grouped (h : Front .grouped called front) (hc : isOpener c = true)
    (hdepth : depth ≤ 1) : Front (.group depth) (called || c == '(') (front ++ [c]) := by
  obtain ⟨chain, dot, hchain, hdot, rfl⟩ := h
  refine ⟨called, chain, dot, c, [], hchain, hdot, hc, ?_, rfl, rfl⟩
  rw [openAfter?, Option.some.injEq]
  omega

/-- A character inside a group. -/
theorem group_of_group {depth' : Nat} (h : Front (.group depth') called front)
    (hc : openAfter? (depth' - 1) [c] = some (depth - 1)) :
    Front (.group depth) called (front ++ [c]) := by
  obtain ⟨before, chain, dot, opener, inside, hchain, hdot, hopener, hinside, hcalled, rfl⟩ := h
  refine ⟨before, chain, dot, opener, inside ++ [c], hchain, hdot, hopener, ?_, hcalled, by simp⟩
  rw [openAfter?_append, hinside]
  exact hc

end Front

/-- The chain is what stands before `text`, found from a state on, and the `text` itself. -/
def Found (state : ChainState) (text : Text) (hasCall : Bool) (chain : Chain) : Prop :=
  ∃ called front, Front state called front ∧ chain.text = front ++ text ∧
    chain.hasCall = (hasCall || called)

/-- One step back, over the character `c`. -/
theorem Found.back {state next : ChainState} {c : Char} {text : Text} {hasCall : Bool}
    {chain : Chain} (h : Found next (c :: text) hasCall chain)
    (hstep : ∀ {called front}, Front next called front → Front state called (front ++ [c])) :
    Found state text hasCall chain := by
  obtain ⟨called, front, hfront, htext, hcall⟩ := h
  exact ⟨called, front ++ [c], hstep hfront, by rw [htext]; simp, hcall⟩

theorem found_of_walk {state : ChainState} {text code : Text} {hasCall : Bool} {chain : Chain}
    (h : Chain.walk state text hasCall code = some chain)
    (hdepth : ∀ depth, state = .group depth → 1 ≤ depth) : Found state text hasCall chain := by
  have hempty : Front .word false [] := ⟨[], nofun, .inl ⟨rfl, rfl⟩⟩
  fun_induction Chain.walk state text hasCall code with
  | case1 text hasCall =>
    cases h
    exact ⟨false, [], hempty, rfl, (Bool.or_false hasCall).symm⟩
  | case2 => cases h
  | case3 text hasCall c before hc ih =>
    exact (ih h (by simp)).back fun hfront => hfront.part_of_group (by simpa using hc)
  | case4 text hasCall c before _ hc ih =>
    exact (ih h (by simp)).back fun hfront => hfront.part_of_word hc
  | case5 => cases h
  | case6 text hasCall c before hc ih =>
    exact (ih h (by simp)).back fun hfront => hfront.word_of_word hc
  | case7 text hasCall c before _ hc ih =>
    obtain rfl : c = '.' := by simpa using hc
    exact (ih h (by simp)).back fun hfront => hfront.word_of_part
  | case8 text hasCall c before =>
    cases h
    exact ⟨false, [], hempty, rfl, (Bool.or_false hasCall).symm⟩
  | case9 depth text hasCall c before hc ih =>
    have hdepth := hdepth depth rfl
    have hinside : openAfter? (depth + 1 - 1) [c] = some (depth - 1) := by
      rw [openAfter?, if_neg (by simp [Lexer.not_isOpener_of_isCloser hc]), if_pos hc,
        if_neg (by omega)]
      rfl
    exact (ih h (by simp)).back fun hfront => hfront.group_of_group hinside
  | case10 depth text hasCall c before _ hc hle ih =>
    obtain ⟨called, front, hfront, htext, hcall⟩ := ih h (by simp)
    refine ⟨called || c == '(', front ++ [c], hfront.group_of_grouped hc hle, ?_, ?_⟩
    · rw [htext]
      simp
    · rw [hcall, Bool.or_comm called, Bool.or_assoc]
  | case11 depth text hasCall c before hc ho hle ih =>
    have hinside : openAfter? (depth - 1 - 1) [c] = some (depth - 1) := by
      rw [openAfter?, if_pos ho, openAfter?, Nat.sub_add_cancel (by omega)]
    exact (ih h (by simp; omega)).back fun hfront => hfront.group_of_group hinside
  | case12 depth text hasCall c before hc ho ih =>
    have hinside : openAfter? (depth - 1) [c] = some (depth - 1) :=
      openAfter?_of_plain (by simp [ho, hc]) _
    exact (ih h hdepth).back fun hfront => hfront.group_of_group hinside
  | case13 text hasCall c before hc ih =>
    exact (ih h (by simp)).back fun hfront =>
      (hfront.part_of_group (by simpa using hc)).grouped_of_part
  | case14 text hasCall c before _ hc ih =>
    obtain rfl : c = '.' := by simpa using hc
    exact (ih h (by simp)).back fun hfront => hfront.grouped_of_dot
  | case15 text hasCall c before _ _ hc ih =>
    exact (ih h (by simp)).back fun hfront => (hfront.part_of_word hc).grouped_of_part
  | case16 => cases h

/-- The walk ends where the root of the chain begins. -/
theorem walk_word_stops {before : Text}
    (h : ∀ c ∈ before.head?, isIdentifierChar c = false ∧ c ≠ '.') (text : Text) (hasCall : Bool) :
    Chain.walk .word text hasCall before = some ⟨text, hasCall, before⟩ := by
  cases before with
  | nil => rfl
  | cons c before =>
    obtain ⟨hword, hdot⟩ := h c rfl
    rw [Chain.walk, if_neg (by simp [hword]), if_neg (by simpa using hdot)]

/-- Walking back from the end of the code finds a chain if the code ends in one, and all of it. -/
theorem walk_eq_some_iff {code : Text} {chain : Chain} :
    Chain.walk .part [] false code = some chain ↔
      IsLooseChain chain.hasCall chain.text ∧
        (∀ c ∈ chain.before.head?, isIdentifierChar c = false ∧ c ≠ '.') ∧
        code = chain.text.reverse ++ chain.before := by
  constructor
  · intro h
    obtain ⟨called, front, hfront, htext, hcall⟩ := found_of_walk h nofun
    rw [List.append_nil] at htext
    rw [Bool.false_or] at hcall
    rw [htext, hcall]
    refine ⟨hfront, Chain.walk_before h, ?_⟩
    rw [← htext, Chain.walk_text h]
    rfl
  · rintro ⟨⟨root, hroot, hchain⟩, hbefore, rfl⟩
    rw [hchain.walk hroot, walk_word_stops hbefore, List.append_nil, Bool.false_or]

/-! ## Callees -/

/-- The code ends in the word `new`, but for blanks. -/
def EndsInNew (code : Text) : Prop :=
  ∃ start blanks : Text, blanks.isBlank ∧ code = start ++ "new".toList ++ blanks ∧
    ∀ c ∈ start.getLast?, isIdentifierChar c = false ∧ c ≠ '.'

theorem beforeNew?_of_separates {code : Text} (h : ¬ EndsInNew code) :
    Callee.beforeNew? (code.reverse.dropWhile isBlank) = none := by
  cases hnew : Callee.beforeNew? (code.reverse.dropWhile isBlank) with
  | none => rfl
  | some before =>
    have hcode : code.reverse =
        code.reverse.takeWhile isBlank ++ ("new".toList.reverse ++ before) := by
      rw [← Callee.eq_of_beforeNew? hnew, List.takeWhile_append_dropWhile]
    have hsplit : code =
        before.reverse ++ "new".toList ++ (code.reverse.takeWhile isBlank).reverse := by
      have hreverse := congrArg List.reverse hcode
      rw [List.reverse_reverse, List.reverse_append, List.reverse_append,
        List.reverse_reverse] at hreverse
      exact hreverse
    refine absurd ⟨before.reverse, (code.reverse.takeWhile isBlank).reverse, ?_, hsplit, ?_⟩ h
    · rw [Text.isBlank, List.all_reverse]
      exact List.all_takeWhile
    · rw [List.getLast?_reverse]
      exact Callee.head?_of_beforeNew? hnew

/-- A `new` is found behind the blanks, if it does not run into what stands before it. -/
theorem beforeNew?_of_new {start blanks : Text} (hblanks : blanks.isBlank)
    (hstart : ∀ c ∈ start.getLast?, isIdentifierChar c = false ∧ c ≠ '.') :
    Callee.beforeNew? ((start ++ "new".toList ++ blanks).reverse.dropWhile isBlank) =
        some start.reverse ∧
      (start ++ "new".toList ++ blanks).reverse.takeWhile isBlank = blanks.reverse := by
  have hreverse : (start ++ "new".toList ++ blanks).reverse =
      blanks.reverse ++ 'w' :: 'e' :: 'n' :: start.reverse := by simp
  have hall : ∀ c ∈ blanks.reverse, isBlank c = true := by simpa [Text.isBlank] using hblanks
  have hletter : ¬ (isBlank 'w' = true) := by decide
  rw [← List.head?_reverse] at hstart
  rw [hreverse, List.dropWhile_append_of_pos hall, List.takeWhile_append_of_pos hall,
    List.dropWhile_cons_of_neg hletter, List.takeWhile_cons_of_neg hletter, List.append_nil]
  refine ⟨?_, rfl⟩
  cases hbefore : start.reverse with
  | nil => rfl
  | cons c before =>
    obtain ⟨hword, hdot⟩ := hstart c (by rw [hbefore]; rfl)
    simp [Callee.beforeNew?, hword, hdot]

/-- Whether a chain can be called is decided by its root. -/
theorem LooseChain.isCallable_iff {root chain : Text} {called : Bool} (hroot : IsIdentifier root)
    (h : LooseChain root called chain) (before : Text) :
    Chain.isCallable ⟨chain, called, before⟩ = true ↔
      isKeyword root = false ∧ ∀ c ∈ root.head?, c.isDigit = false := by
  rw [Chain.isCallable, Chain.root, h.takeWhile hroot]
  cases root with
  | nil => exact absurd rfl hroot.1
  | cons c root => simp [and_comm]

/-- A chain before a parenthesis is what the callee is made of. -/
theorem ofPending?_of_isLooseChain {called : Bool} {chain before : Text}
    (h : IsLooseChain called chain)
    (hbefore : ∀ c ∈ before.head?, isIdentifierChar c = false ∧ c ≠ '.') :
    Callee.ofPending? ('(' :: (chain.reverse ++ before)) =
      Callee.ofChain? ⟨chain, called, before⟩ := by
  have hparen : ('(' :: (chain.reverse ++ before)).dropWhile isBlank =
      '(' :: (chain.reverse ++ before) := List.dropWhile_cons_of_neg (by decide)
  have htrim : (chain.reverse ++ before).dropWhile isBlank = chain.reverse ++ before := by
    obtain ⟨root, hroot, hchain⟩ := h
    obtain ⟨start, c, rfl, hc⟩ := hchain.last hroot
    have hblank : isBlank c = false := by
      rcases hc with rfl | rfl | hc
      · decide
      · decide
      · exact not_isBlank_of_isIdentifierChar hc
    simp [hblank]
  have hwalk : Chain.walk .part [] false (chain.reverse ++ before) =
      some ⟨chain, called, before⟩ := walk_eq_some_iff.2 ⟨h, hbefore, rfl⟩
  rw [Callee.ofPending?_of_paren hparen, htrim, hwalk]
  rfl

/-- Code from its first identifier on is a callee, all of it, if it is a chain. Behind a `new` a
callee would begin with the `new`. -/
theorem ofPending?_eq_self_iff {root chain : Text} (hroot : IsIdentifier root)
    (hkeyword : isKeyword root = false) (hdigit : ∀ c ∈ root.head?, c.isDigit = false)
    (hchain : chain.takeWhile isIdentifierChar = root) :
    Callee.ofPending? ('(' :: chain.reverse) = some ⟨chain, []⟩ ↔
      ∃ called, LooseChain root called chain := by
  constructor
  · intro h
    have hparen : ('(' :: chain.reverse).dropWhile isBlank = '(' :: chain.reverse :=
      List.dropWhile_cons_of_neg (by decide)
    rw [Callee.ofPending?_of_paren hparen] at h
    obtain ⟨found, hwalk, hfound⟩ := Option.bind_eq_some_iff.1 h
    obtain ⟨⟨first, hfirst, hloose⟩, hbefore, -⟩ := walk_eq_some_iff.1 hwalk
    unfold Callee.ofChain? at hfound
    split at hfound
    next =>
      split at hfound
      next =>
        obtain ⟨htext, -⟩ := Callee.mk.inj (Option.some.inj hfound)
        rw [htext] at hloose
        obtain rfl : first = root := by rw [← hloose.takeWhile hfirst, hchain]
        exact ⟨_, hloose⟩
      next before hnew =>
        split at hfound
        next =>
          obtain ⟨htext, -⟩ := Callee.mk.inj (Option.some.inj hfound)
          rw [← htext, Callee.takeWhile_new (fun c hc => (hbefore c hc).1) hnew] at hchain
          subst hchain
          exact absurd hkeyword (by decide)
        next => cases hfound
    next => cases hfound
  · rintro ⟨called, hloose⟩
    have hpending : Callee.ofPending? ('(' :: (chain.reverse ++ [])) =
        Callee.ofChain? ⟨chain, called, []⟩ :=
      ofPending?_of_isLooseChain ⟨root, hroot, hloose⟩ nofun
    rw [List.append_nil] at hpending
    rw [hpending, Callee.ofChain?,
      if_pos ((hloose.isCallable_iff hroot []).2 ⟨hkeyword, hdigit⟩)]
    rfl

/-- A part of a member chain behind its root. -/
inductive ChainPart where
  | member (name : Text)
  | call (inside : Text)
  | index (inside : Text)

namespace ChainPart

def text : ChainPart → Text
  | member name => '.' :: name
  | call inside => '(' :: inside ++ [')']
  | index inside => '[' :: inside ++ [']']

def Proper : ChainPart → Prop
  | member name => IsIdentifier name
  | call inside => Balanced inside
  | index inside => Balanced inside

def isCall : ChainPart → Bool
  | call _ => true
  | _ => false

end ChainPart

/-- A member chain as written. -/
def chainText (root : Text) (parts : List ChainPart) : Text := root ++ parts.flatMap ChainPart.text

theorem looseChain_chainText (root : Text) {parts : List ChainPart}
    (h : ∀ part ∈ parts, part.Proper) :
    LooseChain root (parts.any ChainPart.isCall) (chainText root parts) := by
  induction parts using List.reverseRecOn with
  | nil =>
    rw [chainText, List.flatMap_nil, List.append_nil]
    exact .root
  | append_singleton parts part ih =>
    have ih := ih fun other hother => h other (by simp [hother])
    have hpart : part.Proper := h part (by simp)
    have htext : chainText root (parts ++ [part]) = chainText root parts ++ part.text := by
      simp [chainText]
    rw [htext, List.any_append]
    cases part with
    | member name => simpa [ChainPart.isCall, ChainPart.text] using ih.member hpart
    | call inside =>
      have hgroup : LooseChain root _ (chainText root parts ++ [] ++ '(' :: inside ++ [')']) :=
        ih.group (.inl rfl) (by decide) (.inl rfl) hpart
      simpa [ChainPart.isCall, ChainPart.text] using hgroup
    | index inside =>
      have hgroup : LooseChain root _ (chainText root parts ++ [] ++ '[' :: inside ++ [']']) :=
        ih.group (.inl rfl) (by decide) (.inr rfl) hpart
      simpa [ChainPart.isCall, ChainPart.text] using hgroup

/-- Code that ends in a chain and the parenthesis behind it. -/
def callCode (before chain ahead behind : Text) : Text := before ++ chain ++ ahead ++ '(' :: behind

theorem ofPending?_callCode {before ahead behind : Text} (hahead : ahead.isBlank)
    (hbehind : behind.isBlank) (chain : Text) :
    Callee.ofPending? (callCode before chain ahead behind).reverse =
      Callee.ofPending? ('(' :: (chain.reverse ++ before.reverse)) := by
  have hreverse : (callCode before chain ahead behind).reverse =
      behind.reverse ++ '(' :: ahead.reverse ++ (chain.reverse ++ before.reverse) := by
    simp [callCode]
  rw [hreverse]
  exact Callee.ofPending?_blanks (by simpa [Text.isBlank] using hahead)
    (by simpa [Text.isBlank] using hbehind) _

/-- A member chain before a parenthesis, behind code that it does not run into, is found whole. It
is the callee if its root is neither a keyword nor a number; behind a `new` only with a call in it,
and then together with the `new`. -/
theorem callee_of_memberChain {root before ahead behind : Text} {parts : List ChainPart}
    (hroot : IsIdentifier root) (hparts : ∀ part ∈ parts, part.Proper)
    (hbefore : ∀ c ∈ before.getLast?, isIdentifierChar c = false ∧ c ≠ '.')
    (hahead : ahead.isBlank) (hbehind : behind.isBlank) :
    ((isKeyword root = true ∨ ∃ c ∈ root.head?, c.isDigit = true) →
      Callee.ofPending? (callCode before (chainText root parts) ahead behind).reverse = none) ∧
    (isKeyword root = false → (∀ c ∈ root.head?, c.isDigit = false) →
      (∀ start blanks : Text, blanks.isBlank → before = start ++ "new".toList ++ blanks →
        (∀ c ∈ start.getLast?, isIdentifierChar c = false ∧ c ≠ '.') →
        Callee.ofPending? (callCode before (chainText root parts) ahead behind).reverse =
          if parts.any ChainPart.isCall then
            some ⟨"new".toList ++ blanks ++ chainText root parts, start.reverse⟩
          else none) ∧
      (¬ EndsInNew before →
        Callee.ofPending? (callCode before (chainText root parts) ahead behind).reverse =
          some ⟨chainText root parts, before.reverse⟩)) := by
  have hchain := looseChain_chainText root hparts
  rw [← List.head?_reverse] at hbefore
  rw [ofPending?_callCode hahead hbehind, ofPending?_of_isLooseChain ⟨root, hroot, hchain⟩ hbefore,
    Callee.ofChain?]
  refine ⟨fun hnot => ?_, fun hkeyword hdigit => ?_⟩
  · rw [if_neg]
    rw [hchain.isCallable_iff hroot]
    rintro ⟨hkeyword, hdigit⟩
    rcases hnot with hnot | ⟨c, hc, hnot⟩
    · rw [hkeyword] at hnot
      cases hnot
    · rw [hdigit c hc] at hnot
      cases hnot
  · rw [if_pos ((hchain.isCallable_iff hroot _).2 ⟨hkeyword, hdigit⟩)]
    refine ⟨fun start blanks hblanks hsplit hstart => ?_, fun hnew => ?_⟩
    · obtain ⟨hnew, htake⟩ := beforeNew?_of_new hblanks hstart
      rw [hsplit, hnew, htake, List.reverse_reverse]
    · rw [beforeNew?_of_separates hnew]

/-- A method of a new object: the brackets in the index do not count as a call, those behind the
class do. -/
theorem callee_of_memberChain_new :
    chainText "a".toList [.index "f(0)".toList, .call [], .member "b".toList] =
        "a[f(0)]().b".toList ∧
      Callee.ofPending? "x = new a[f(0)]().b (\n".toList.reverse =
        some ⟨"new a[f(0)]().b".toList, "x = ".toList.reverse⟩ ∧
      Callee.ofPending? "x = new a[f(0)](".toList.reverse = none := by
  have hroot : IsIdentifier "a".toList := ⟨by decide, List.all_eq_true.1 (by decide)⟩
  have hindex : ChainPart.Proper (.index "f(0)".toList) := rfl
  have hcall : ChainPart.Proper (.call []) := rfl
  have hmember : ChainPart.Proper (.member "b".toList) :=
    ⟨by decide, List.all_eq_true.1 (by decide)⟩
  have hbefore : ∀ c ∈ "x = new ".toList.getLast?, isIdentifierChar c = false ∧ c ≠ '.' := by
    rintro c ⟨⟩
    decide
  have hstart : ∀ c ∈ "x = ".toList.getLast?, isIdentifierChar c = false ∧ c ≠ '.' := by
    rintro c ⟨⟩
    decide
  have hdigit : ∀ c ∈ "a".toList.head?, c.isDigit = false := by
    rintro c ⟨⟩
    decide
  have hshort := List.forall_mem_singleton.2 hindex
  have hlong := List.forall_mem_cons.2 ⟨hindex, List.forall_mem_cons.2 ⟨hcall,
    List.forall_mem_singleton.2 hmember⟩⟩
  have hblank : Text.isBlank " ".toList := by decide
  have hnewline : Text.isBlank "\n".toList := by decide
  have hnone : Text.isBlank [] := rfl
  exact ⟨by decide,
    ((callee_of_memberChain hroot hlong hbefore hblank hnewline).2 (by decide) hdigit).1 _ _ hblank
      rfl hstart,
    ((callee_of_memberChain hroot hshort hbefore hnone hnone).2 (by decide) hdigit).1 _ _ hblank
      rfl hstart⟩

end JsxTemplate
