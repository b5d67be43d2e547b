import JsxTemplate.Source.Cursor
import JsxTemplate.Reader.Callee
import JsxTemplate.Reader.Draft
import JsxTemplate.Reader.Verbatim

/-
  Reading by recursive descent. Code is copied while brackets, strings, comments and template
  literals are followed; a `<` where an expression may begin opens an element; holes in elements
  and in template literals hold code again.

  Every call spends one unit of fuel. Running dry is kept apart from faults of the source, and
  twice the length of the source is enough to avoid it.
-/

namespace JsxTemplate

/-- Why reading stops early. -/
inductive Stop where
  | fault (error : ParseError)
  | outOfFuel
  deriving DecidableEq, Repr

namespace Reader

def faultAt {α : Type} (place : Place) (fault : Fault) : Except Stop α :=
  .error (.fault (.atPlace place fault))

/-- Steps over `wanted`, or stops because it is missing. -/
def expect (cursor : Cursor) (wanted : Char) (purpose : Text) : Except Stop Cursor :=
  (cursor.expect wanted purpose).mapError .fault

/-- Whether the `<` under the cursor opens an element. -/
def opensElement (draft : Draft) (cursor : Cursor) : Bool :=
  (isTagStart cursor.peekNext || cursor.peekNext == '>') && draft.atExpressionStart

/-- Behind an element: the callee, if the element is the only argument of a call that closes
here. -/
def callee? (draft : Draft) (cursor : Cursor) : Option Callee :=
  if cursor.peekPastBlanks == ')' then Callee.ofPending? draft.pending else none

mutual

/-- Code up to an unmatched `close`, on which the cursor stays, or to the end of the source.
The code began at `start`, and `depth` brackets are open. -/
def code : Nat → Option Char → Place → Nat → Draft → Cursor → Except Stop (Draft × Cursor)
  | 0, _, _, _, _, _ => .error .outOfFuel
  | fuel + 1, close, start, depth, draft, cursor =>
    match cursor.rest with
    | [] =>
      match close with
      | some close => faultAt start (.unterminatedExpression close)
      | none => .ok (draft, cursor)
    | c :: rest =>
      if isOpener c then code fuel close start (depth + 1) (draft.push c) cursor.next
      else if isCloser c then
        if depth == 0 && close == some c then .ok (draft, cursor)
        else code fuel close start (depth - 1) (draft.push c) cursor.next
      else if c == '\'' || c == '"' then
        match stringBody c rest with
        | none => faultAt cursor.place .unterminatedString
        | some body =>
          code fuel close start depth (draft.pushAll (c :: body)) (cursor.past (c :: body))
      else if c == '\x60' then do
        let (draft, cursor) ← template fuel cursor.place (draft.push c) cursor.next
        code fuel close start depth draft cursor
      else if c == '/' && cursor.peekNext == '/' then
        let comment := cursor.ahead (· != '\n')
        code fuel close start depth (draft.pushAll comment) (cursor.past comment)
      else if c == '/' && cursor.peekNext == '*' then
        match commentBody (rest.drop 1) with
        | none => faultAt cursor.place .unterminatedComment
        | some body =>
          let comment := '/' :: '*' :: body
          code fuel close start depth (draft.pushAll comment) (cursor.past comment)
      else if c == '<' && opensElement draft cursor then do
        let (found, cursor) ← element fuel cursor
        match callee? draft cursor with
        | some callee =>
          let draft := { draft with pending := callee.before }
          code fuel close start (depth - 1) (draft.add (.call callee.text found))
            cursor.skipBlanks.next
        | none => code fuel close start depth (draft.add (.markup found)) cursor
      else code fuel close start depth (draft.push c) cursor.next

/-- A template literal that began at `start`, behind its opening backtick. -/
def template : Nat → Place → Draft → Cursor → Except Stop (Draft × Cursor)
  | 0, _, _, _ => .error .outOfFuel
  | fuel + 1, start, draft, cursor =>
    match cursor.rest with
    | [] => faultAt start .unterminatedTemplate
    | c :: rest =>
      if c == '\\' then
        match rest with
        | [] => faultAt start .unterminatedTemplate
        | guarded :: _ =>
          template fuel start (draft.pushAll [c, guarded]) (cursor.past [c, guarded])
      else if c == '\x60' then .ok (draft.push c, cursor.next)
      else if c == '$' && cursor.peekNext == '{' then do
        let cursor := cursor.past ['$', '{']
        let (draft, cursor) ←
          code fuel (some '}') cursor.place 0 (draft.pushAll ['$', '{']) cursor
        let cursor ← expect cursor '}' "to close template literal hole".toList
        template fuel start (draft.push '}') cursor
      else template fuel start (draft.push c) cursor.next

/-- An element, with the cursor on its `<`. -/
def element : Nat → Cursor → Except Stop (Element × Cursor)
  | 0, _ => .error .outOfFuel
  | fuel + 1, cursor => do
    let start := cursor.place
    let cursor ← expect cursor '<' "to open an element".toList
    if cursor.peek == '>' then faultAt start .fragment
    else
      let tag := cursor.ahead isTagChar
      let cursor := cursor.past tag
      if tag.isEmpty then faultAt cursor.place .missingTag
      else
        let (attributes, selfClosing, cursor) ← attributes fuel tag start [] cursor
        if selfClosing then
          .ok (⟨tag, attributes, [], true, none, cursor.spanFrom start⟩, cursor)
        else
          let (children, cursor) ← children fuel tag start [] cursor
          .ok (⟨tag, attributes, children, false, some tag, cursor.spanFrom start⟩, cursor)

/-- The attributes of an opening tag, `found` newest first so far, through the end of the tag;
says also whether the tag closes itself. -/
def attributes : Nat → Text → Place → List Attribute → Cursor →
    Except Stop (List Attribute × Bool × Cursor)
  | 0, _, _, _, _ => .error .outOfFuel
  | fuel + 1, tag, start, found, cursor =>
    let cursor := cursor.skipBlanks
    match cursor.rest with
    | [] => faultAt start (.unterminatedTag tag)
    | c :: _ =>
      if c == '/' then do
        let cursor ← expect cursor.next '>' "after '/' in a self-closing tag".toList
        .ok (found.reverse, true, cursor)
      else if c == '>' then .ok (found.reverse, false, cursor.next)
      else if c == '{' then faultAt cursor.place .spreadAttribute
      else if isAttributeStart c then do
        let (a, cursor) ← oneAttribute fuel cursor
        attributes fuel tag start (a :: found) cursor
      else faultAt cursor.place (.unexpectedInTag tag c)

/-- One attribute: `name`, `name="raw"`, `name='raw'` or `name={expr}`. -/
def oneAttribute : Nat → Cursor → Except Stop (Attribute × Cursor)
  | 0, _ => .error .outOfFuel
  | fuel + 1, cursor =>
    let name := cursor.ahead isAttributeChar
    let cursor := (cursor.past name).skipBlanks
    match cursor.eat '=' with
    | none => .ok (.bare name, cursor)
    | some cursor =>
      let cursor := cursor.skipBlanks
      match cursor.rest with
      | [] => faultAt cursor.place (.missingValue name)
      | c :: rest =>
        if c == '"' || c == '\'' then
          match quotedBody c rest with
          | none => faultAt cursor.place (.unterminatedValue name)
          | some body => .ok (.literal name (c :: body), cursor.past (c :: body))
        else if c == '{' then do
          let (nodes, cursor) ← hole fuel cursor
          .ok (.hole name nodes, cursor)
        else faultAt cursor.place (.missingValue name)

/-- A hole, with the cursor on its opening brace. -/
def hole : Nat → Cursor → Except Stop (Expression × Cursor)
  | 0, _ => .error .outOfFuel
  | fuel + 1, cursor => do
    let cursor ← expect cursor '{' "to open an expression".toList
    let (draft, cursor) ← code fuel (some '}') cursor.place 0 .empty cursor
    let cursor ← expect cursor '}' "to close an expression".toList
    .ok (draft.finish, cursor)

/-- The children of an element that opened at `start`, `found` newest first so far, through its
closing tag. -/
def children : Nat → Text → Place → List Child → Cursor → Except Stop (List Child × Cursor)
  | 0, _, _, _, _ => .error .outOfFuel
  | fuel + 1, tag, start, found, cursor =>
    match cursor.rest with
    | [] => faultAt start (.unclosedElement tag)
    | c :: _ =>
      if c == '<' then
        if cursor.peekNext == '/' then do
          let behind := cursor.next.next.skipBlanks
          let name := behind.ahead isTagChar
          let behind ← expect (behind.past name).skipBlanks '>' "to end a closing tag".toList
          if name == tag then .ok (found.reverse, behind)
          else faultAt cursor.place (.mismatchedClosing tag name)
        else do
          let (child, cursor) ← element fuel cursor
          children fuel tag start (.element child :: found) cursor
      else if c == '{' then do
        let (nodes, cursor) ← hole fuel cursor
        children fuel tag start (.hole nodes :: found) cursor
      else
        let text := cursor.ahead fun c => c != '<' && c != '{'
        children fuel tag start (.text text :: found) (cursor.past text)

end

/-- Enough fuel for a source of that length. -/
def fuelFor (length : Nat) : Nat := 2 * length + 1

end Reader

end JsxTemplate
