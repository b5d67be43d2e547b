import JsxTemplate.Proofs.Lexer

/-
  How an expression may be spelled: the exact grammar of sources, read off the expression. Blanks
  are free inside tags and around the argument of a call; each run of code must be one that the
  reader copies whole, each element must stand where an expression may begin, and each callee must
  be the one that is found behind its parenthesis.
-/

namespace JsxTemplate

/-- The name of an attribute. -/
def IsAttributeName (name : Text) : Prop :=
  (∃ c rest, name = c :: rest ∧ isAttributeStart c = true) ∧ ∀ c ∈ name, isAttributeChar c = true

/-- An attribute value in quotes, which does not hold its own quote. -/
def IsQuoted (raw : Text) : Prop :=
  ∃ quote body, (quote = '"' ∨ quote = '\'') ∧ quote ∉ body ∧ raw = quote :: body ++ [quote]

/-- An attribute that shows no value; a name behind it would run into it. -/
def Attribute.isBare : Attribute → Bool
  | bare _ => true
  | _ => false

/-- The expression may end here, before the bracket `close` or the end of the source. -/
def Lexer.Ends (close : Option Char) (lexer : Lexer) : Prop :=
  lexer.AtCode close.toList ∧ lexer.outer = [] ∧ (close.isSome = true → lexer.depth = 0)

mutual

def Element.Spelled : Element → Text → Prop
  | ⟨tag, attributes, children, selfClosing, closing, _⟩, text =>
    tag ≠ [] ∧ (∀ c ∈ tag, isTagChar c = true) ∧
      ∃ inside, attributesSpelled true attributes inside ∧
      if selfClosing then
        children = [] ∧ closing = none ∧ text = '<' :: tag ++ inside ++ ['/', '>']
      else
        closing = some tag ∧
          ∃ content, childrenSpelled tag false children content ∧
            text = '<' :: tag ++ inside ++ '>' :: content

/-- Attributes with blanks before each and behind the last. Behind a name (`named`) there must be
some before the next attribute. -/
def attributesSpelled (named : Bool) : List Attribute → Text → Prop
  | [], text => text.isBlank
  | a :: attributes, text =>
    ∃ blanks own rest : Text, blanks.isBlank ∧ (named = true → blanks ≠ []) ∧ a.Spelled own ∧
      attributesSpelled a.isBare attributes rest ∧ text = blanks ++ own ++ rest

def Attribute.Spelled : Attribute → Text → Prop
  | .literal name raw, text =>
    IsAttributeName name ∧ IsQuoted raw ∧
      ∃ before behind : Text, before.isBlank ∧ behind.isBlank ∧
        text = name ++ before ++ '=' :: behind ++ raw
  | .hole name nodes, text =>
    IsAttributeName name ∧
      ∃ before behind code : Text, before.isBlank ∧ behind.isBlank ∧
        nodesSpelled (some '}') .initial .empty nodes code ∧
        text = name ++ before ++ '=' :: behind ++ '{' :: code ++ ['}']
  | .bare name, text => IsAttributeName name ∧ text = name

/-- Children and the closing tag behind them. Texts do not touch: `texted` says that a text stands
before. -/
def childrenSpelled (tag : Text) (texted : Bool) : List Child → Text → Prop
  | [], text =>
    ∃ before behind : Text, before.isBlank ∧ behind.isBlank ∧
      text = '<' :: '/' :: before ++ tag ++ behind ++ ['>']
  | .element element :: children, text =>
    ∃ own rest, element.Spelled own ∧ childrenSpelled tag false children rest ∧ text = own ++ rest
  | .text own :: children, text =>
    texted = false ∧ own ≠ [] ∧ (∀ c ∈ own, c ≠ '<' ∧ c ≠ '{') ∧
      ∃ rest, childrenSpelled tag true children rest ∧ text = own ++ rest
  | .hole nodes :: children, text =>
    ∃ code rest, nodesSpelled (some '}') .initial .empty nodes code ∧
      childrenSpelled tag false children rest ∧ text = '{' :: code ++ '}' :: rest

/-- Nodes that follow what `draft` holds, up to the bracket `close` or the end of the source. -/
def nodesSpelled (close : Option Char) : Lexer → Draft → List Node → Text → Prop
  | lexer, _, [], text => lexer.Ends close ∧ text = []
  | lexer, draft, .code own :: nodes, text =>
    own ≠ [] ∧ draft.pending = [] ∧
      ∃ rest, lexer.Copies close draft own (rest ++ close.toList) ∧
        nodesSpelled close (lexer.after own) (draft.pushAll own) nodes rest ∧ text = own ++ rest
  | lexer, draft, .markup element :: nodes, text =>
    ∃ own rest, element.Spelled own ∧ lexer.AtCode own ∧
      Reader.opensElement draft (.ofText own) = true ∧
      Reader.callee? draft (.ofText (rest ++ close.toList)) = none ∧
      nodesSpelled close lexer.inCode (draft.add (.markup element)) nodes rest ∧ text = own ++ rest
  | lexer, draft, .call callee element :: nodes, text =>
    ∃ before behind own blanks rest : Text, before.isBlank ∧ behind.isBlank ∧
      blanks.isBlank ∧ element.Spelled own ∧
      lexer.Copies close draft (callee ++ before ++ '(' :: behind) own ∧
      (lexer.after (callee ++ before ++ '(' :: behind)).AtCode own ∧
      Reader.opensElement (draft.pushAll (callee ++ before ++ '(' :: behind)) (.ofText own) = true ∧
      Callee.ofPending? (draft.pushAll (callee ++ before ++ '(' :: behind)).pending =
        some ⟨callee, draft.pending⟩ ∧
      nodesSpelled close (lexer.after (callee ++ before ++ '(' :: behind)).leaveCall
        (draft.add (.call callee element)) nodes rest ∧
      text = callee ++ before ++ '(' :: behind ++ own ++ blanks ++ ')' :: rest
  | _, _, .template _ :: _, _ => False
  | _, _, .tagged _ _ :: _, _ => False

end

/-- The text is a spelling of the whole expression. -/
def Expression.Spelled (expression : Expression) (text : Text) : Prop :=
  nodesSpelled none .initial .empty expression text

end JsxTemplate
