import JsxTemplate.Markup.Basic
import JsxTemplate.Options.Description

/-
  The log of a compilation. Elements are reported in the order in which they are compiled: an
  element before what stands in its attributes, and that before its children.
-/

namespace JsxTemplate

/-- How much is logged; a later level holds all that an earlier one does. -/
inductive Level where
  | off
  | error
  | warn
  | info
  | debug
  | trace
  deriving DecidableEq, Repr

namespace Level

def rank : Level → Nat
  | off => 0
  | error => 1
  | warn => 2
  | info => 3
  | debug => 4
  | trace => 5

def name : Level → Text
  | off => "OFF".toList
  | error => "ERROR".toList
  | warn => "WARN".toList
  | info => "INFO".toList
  | debug => "DEBUG".toList
  | trace => "TRACE".toList

def ofName? (name : Text) : Option Level :=
  [off, error, warn, info, debug, trace].find? fun level => level.name == name.map Char.toUpper

end Level

/-- An event worth a line in the log. -/
inductive Record where
  | overrides (overrides : Overrides)
  | merged (options : Options)
  | element (tag : Text) (line : Nat)
  | callSite (callee : Text) (line : Nat)
  | nested (tag : Text) (line : Nat)
  | binding (callee tag : Text)
  | finished (elements : Nat)

namespace Record

def level : Record → Level
  | overrides _ => .debug
  | merged _ => .trace
  | element _ _ => .debug
  | callSite _ _ => .debug
  | nested _ _ => .trace
  | binding _ _ => .trace
  | finished _ => .debug

def message : Record → Text
  | overrides o => "option overrides overrides=".toList ++ o.describe
  | merged o => "merged compile options options=".toList ++ o.describe
  | element tag line => "compiling element tag=".toList ++ tag ++ " line=".toList ++ decimal line
  | callSite callee line =>
    "compiling call site callee=".toList ++ callee ++ " line=".toList ++ decimal line
  | nested tag line => "nested markup tag=".toList ++ tag ++ " line=".toList ++ decimal line
  | binding callee tag => "binding call site callee=".toList ++ callee ++ " tag=".toList ++ tag
  | finished elements => "transform finished elements=".toList ++ decimal elements

def toText (record : Record) : Text := record.level.name ++ [' '] ++ record.message

end Record

/-- Whether a record is logged at a level. -/
def Level.shows (level : Level) (record : Record) : Bool := record.level.rank ≤ level.rank

mutual

/-- What compiling an element logs. -/
def Element.records : Element → List Record
  | ⟨_, attributes, children, selfClosing, _, _⟩ =>
    attributesRecords attributes ++ (if selfClosing then [] else childrenRecords children)

def Attribute.records : Attribute → List Record
  | .literal _ _ => []
  | .hole _ nodes => nestedRecords nodes
  | .bare _ => []

def attributesRecords : List Attribute → List Record
  | [] => []
  | a :: attributes => a.records ++ attributesRecords attributes

def Child.records : Child → List Record
  | .element element => element.records
  | .text _ => []
  | .hole nodes => nestedRecords nodes

def childrenRecords : List Child → List Record
  | [] => []
  | child :: children => child.records ++ childrenRecords children

/-- What compiling a node in a hole logs. -/
def Node.nestedRecord : Node → List Record
  | .markup element => .nested element.tag element.span.line :: element.records
  | .call callee element => .binding callee element.tag :: element.records
  | .code _ => []
  | .template _ => []
  | .tagged _ _ => []

def nestedRecords : List Node → List Record
  | [] => []
  | node :: nodes => node.nestedRecord ++ nestedRecords nodes

end

/-- What compiling a node of a program logs. -/
def Node.records : Node → List Record
  | .markup element => .element element.tag element.span.line :: element.records
  | .call callee element =>
    .callSite callee element.span.line :: .binding callee element.tag :: element.records
  | _ => []

/-- What compiling a program logs. -/
def Expression.records (program : Expression) : List Record :=
  program.flatMap Node.records ++ [.finished (program.countP Node.isMarkup)]

end JsxTemplate
