import JsxTemplate.Text.Blank
import JsxTemplate.Text.Identifier

/-
  Callees: member chains rooted at an identifier, such as `render`, `view.mount`, `a[0]`,
  `getRenderer()` or `foo().bar`, found by walking back over the code before a `(`. The code is
  given newest character first.
-/

namespace JsxTemplate

/-- Where the walk back over a member chain stands. -/
inductive ChainState where
  /-- A part of the chain has to end here. -/
  | part
  /-- Inside an identifier. -/
  | word
  /-- Inside a bracketed group, with that many closers to match. -/
  | group (depth : Nat)
  /-- Before a bracketed group. -/
  | grouped
  deriving DecidableEq, Repr

/-- A member chain and the code before it, newest first. -/
structure Chain where
  text : Text
  hasCall : Bool
  before : Text
  deriving DecidableEq, Repr

namespace Chain

/-- Walks back from `state`, in front of the `text` found so far. Groups are matched by counting
brackets of any kind. -/
def walk : ChainState → Text → Bool → Text → Option Chain
  | .word, text, hasCall, [] => some ⟨text, hasCall, []⟩
  | _, _, _, [] => none
  | .part, text, hasCall, c :: before =>
    if c == ')' || c == ']' then walk (.group 1) (c :: text) hasCall before
    else if isIdentifierChar c then walk .word (c :: text) hasCall before
    else none
  | .word, text, hasCall, c :: before =>
    if isIdentifierChar c then walk .word (c :: text) hasCall before
    else if c == '.' then walk .part (c :: text) hasCall before
    else some ⟨text, hasCall, c :: before⟩
  | .group depth, text, hasCall, c :: before =>
    if isCloser c then walk (.group (depth + 1)) (c :: text) hasCall before
    else if isOpener c then
      if depth ≤ 1 then walk .grouped (c :: text) (hasCall || c == '(') before
      else walk (.group (depth - 1)) (c :: text) hasCall before
    else walk (.group depth) (c :: text) hasCall before
  | .grouped, text, hasCall, c :: before =>
    if c == ')' || c == ']' then walk (.group 1) (c :: text) hasCall before
    else if c == '.' then walk .part (c :: text) hasCall before
    else if isIdentifierChar c then walk .word (c :: text) hasCall before
    else none

/-- The identifier a chain begins with. -/
def root (chain : Chain) : Text := chain.text.takeWhile isIdentifierChar

/-- Keywords and numbers are not called. -/
def isCallable (chain : Chain) : Bool :=
  match chain.root with
  | [] => false
  | c :: root => !c.isDigit && !isKeyword (c :: root)

end Chain

/-- A callee and the code before it, newest first. -/
structure Callee where
  text : Text
  before : Text
  deriving DecidableEq, Repr

namespace Callee

/-- If code ends in the word `new`, what stands before that word. -/
def beforeNew? : Text → Option Text
  | 'w' :: 'e' :: 'n' :: before =>
    match before with
    | [] => some []
    | c :: _ => if isIdentifierChar c || c == '.' then none else some before
  | _ => none

/-- A chain behind `new` constructs an object, unless a call in it has done so already; then
the `new` belongs to the callee. -/
def ofChain? (chain : Chain) : Option Callee :=
  if chain.isCallable then
    match beforeNew? (chain.before.dropWhile isBlank) with
    | none => some ⟨chain.text, chain.before⟩
    | some before =>
      if chain.hasCall then
        some ⟨"new".toList ++ (chain.before.takeWhile isBlank).reverse ++ chain.text, before⟩
      else none
  else none

/-- The callee, if code ends in a callee and an opening parenthesis. -/
def ofPending? (pending : Text) : Option Callee :=
  match pending.dropWhile isBlank with
  | '(' :: head =>
    match Chain.walk .part [] false (head.dropWhile isBlank) with
    | some chain => ofChain? chain
    | none => none
  | _ => none

end Callee

end JsxTemplate
