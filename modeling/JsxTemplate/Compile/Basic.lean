import JsxTemplate.Markup.Printer
import JsxTemplate.Options.Basic
import JsxTemplate.Template.Buffer

/-
  Compiling elements into templates. Holes are compiled first and captured as slots, so that
  markup inside conditions, calls and loops becomes a template inside a template.
-/

namespace JsxTemplate

/-- `</tag>` as a buffer, or the empty one. -/
def closingBuffer : Option Text → Buffer
  | none => .empty
  | some tag => Buffer.empty.addLiteral (closingSource (some tag))

/-- Compiled nodes where there is markup to compile, else the nodes as they are. -/
@[inline]
def unlessPlain (nodes : Expression) (compiled : Except CompileError Expression) :
    Except CompileError Expression :=
  if nodes.containsMarkup then compiled else .ok nodes

mutual

/-- The buffer of an element and all that is nested in it. A self-closing element keeps its
closing tag, if it has one, but not its children. -/
def compileElement (options : Options) : Element → Except CompileError Buffer
  | ⟨tag, attributes, children, selfClosing, closing, _⟩ => do
    let buffer ← compileAttributes options (Buffer.empty.addLiteral ('<' :: tag)) attributes
    if selfClosing then (buffer.addLiteral ['/', '>']).concat (closingBuffer closing)
    else
      let content ← compileChildren options .empty children
      let buffer ← (buffer.addLiteral ['>']).concat content
      buffer.concat (closingBuffer closing)

def compileAttribute (options : Options) (buffer : Buffer) :
    Attribute → Except CompileError Buffer
  | .literal name raw => .ok (buffer.addLiteral ([' '] ++ options.resolve name ++ ['='] ++ raw))
  | .hole name nodes => do
    let nodes ← unlessPlain nodes (compileNodes options nodes)
    .ok (((buffer.addLiteral ([' '] ++ options.resolve name ++ ['=', '"'])).addExpression
      (nodesSource nodes)).addLiteral ['"'])
  | .bare name => .ok (buffer.addLiteral ([' '] ++ options.resolve name))

def compileAttributes (options : Options) (buffer : Buffer) :
    List Attribute → Except CompileError Buffer
  | [] => .ok buffer
  | a :: attributes => do
    let buffer ← compileAttribute options buffer a
    compileAttributes options buffer attributes

def compileChild (options : Options) (buffer : Buffer) : Child → Except CompileError Buffer
  | .element element => do
    let content ← compileElement options element
    buffer.concat content
  | .text text => .ok (buffer.addLiteral (options.trim text))
  | .hole nodes => do
    let nodes ← unlessPlain nodes (compileNodes options nodes)
    .ok (buffer.addExpression (nodesSource nodes))

def compileChildren (options : Options) (buffer : Buffer) :
    List Child → Except CompileError Buffer
  | [] => .ok buffer
  | child :: children => do
    let buffer ← compileChild options buffer child
    compileChildren options buffer children

/-- An element becomes a template, a call a template tagged with its callee; other nodes stay. -/
def compileNode (options : Options) : Node → Except CompileError Node
  | .markup element => do
    let buffer ← compileElement options element
    let template ← buffer.materialize
    .ok (.template template)
  | .call callee element => do
    let buffer ← compileElement options element
    let template ← buffer.materialize
    .ok (.tagged callee template)
  | .code text => .ok (.code text)
  | .template template => .ok (.template template)
  | .tagged tag template => .ok (.tagged tag template)

def compileNodes (options : Options) : List Node → Except CompileError (List Node)
  | [] => .ok []
  | node :: nodes => do
    let node ← compileNode options node
    let nodes ← compileNodes options nodes
    .ok (node :: nodes)

end

/-- The template of an element. -/
def compileTemplate (options : Options) (element : Element) : Except CompileError Template := do
  let buffer ← compileElement options element
  buffer.materialize

/-- The content of a hole with its markup compiled. -/
def compileExpression (options : Options) (expression : Expression) :
    Except CompileError Expression :=
  unlessPlain expression (compileNodes options expression)

/-- A program with its markup compiled. -/
def transform (options : Options) (program : Expression) : Except CompileError Expression :=
  compileNodes options program

end JsxTemplate
