import JsxTemplate.Template.Buffer

/-
  A bench of named buffers, and runs of operations on them.
-/

namespace JsxTemplate

/-- Buffers by name. A name that was never used stands for the empty buffer. -/
abbrev Bench := List (Text × Buffer)

namespace Bench

def get (bench : Bench) (name : Text) : Buffer := (bench.lookup name).getD .empty

def put (bench : Bench) (name : Text) (buffer : Buffer) : Bench := (name, buffer) :: bench

/-- A buffer given by its name or by its parts, which need not fit together. -/
inductive Operand where
  | named (name : Text)
  | parts (buffer : Buffer)

def Operand.get (bench : Bench) : Operand → Buffer
  | named name => bench.get name
  | parts buffer => buffer

inductive Operation where
  | reset
  | assign (buffer : Buffer)
  | addLiteral (text : Text)
  | addExpression (expression : Text)
  | concat (operand : Operand)
  | materialize
  | compare (name : Text)

/-- What an operation reports besides the buffer it leaves. -/
inductive Report where
  | nothing
  | refused (error : CompileError)
  | materialized (result : Except CompileError Template)
  | compared (equal : Bool)

/-- Performs an operation on the buffer called `name`. -/
def perform (bench : Bench) (name : Text) : Operation → Report × Bench
  | .reset => (.nothing, bench.put name .empty)
  | .assign buffer => (.nothing, bench.put name buffer)
  | .addLiteral text => (.nothing, bench.put name ((bench.get name).addLiteral text))
  | .addExpression expression =>
    (.nothing, bench.put name ((bench.get name).addExpression expression))
  | .concat operand =>
    match (bench.get name).concat (operand.get bench) with
    | .ok buffer => (.nothing, bench.put name buffer)
    | .error error => (.refused error, bench)
  | .materialize => (.materialized (bench.get name).materialize, bench)
  | .compare other => (.compared (bench.get name == bench.get other), bench)

/-- The reports of a run, each with the buffer that its operation leaves. -/
def performAll : Bench → List (Text × Operation) → List (Report × Buffer)
  | _, [] => []
  | bench, (name, operation) :: operations =>
    let (report, bench) := bench.perform name operation
    (report, bench.get name) :: performAll bench operations

end Bench

end JsxTemplate
