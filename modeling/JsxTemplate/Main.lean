import JsxTemplate.Command.Run

/-
  The program: reads the files a job names, runs it, and does what it says.
-/

namespace JsxTemplate

/-- The fault for an error code, which some calls give negated. -/
def FileFault.ofCode (code : UInt32) (error : IO.Error) : FileFault :=
  if code == 20 || -code == 20 then .notDirectory
  else if code == 21 || -code == 21 then .isDirectory
  else .other error.toString.toList

def FileFault.ofError (error : IO.Error) : FileFault :=
  match error with
  | .noFileOrDirectory .. => .missing
  | .inappropriateType _ code _ => .ofCode code error
  | _ => .other error.toString.toList

def readFile (name : Text) : IO (Except FileFault Text) := do
  try
    let content ← IO.FS.readBinFile (String.ofList name)
    return (Entry.bytes content.toList).read
  catch error => return .error (.ofError error)

def writeFile (name text : Text) : IO (Except FileFault Unit) := do
  try
    IO.FS.writeFile (String.ofList name) (String.ofList text)
    return .ok ()
  catch error => return .error (.ofError error)

def printLines (lines : List Text) : IO Unit :=
  lines.forM fun line => IO.eprintln (String.ofList line)

/-- Delivers the output of a job, and ends it. -/
def Job.deliverFile (job : Job) : Except Text Text → IO Ending
  | .error message => return .failure message
  | .ok output => do
    match job.target with
    | none => return job.success output
    | some out =>
      match ← writeFile out output with
      | .ok () => return job.success output
      | .error fault => return .failure (writingFault out fault)

def Job.perform (job : Job) (level : Level) : IO UInt32 := do
  let config ← match job.settings.config with
    | none => pure none
    | some name => some <$> readFile name
  let source ← readFile job.path
  let compilation := job.compile .builtin ⟨config, source⟩
  let records := compilation.records.filter level.shows
  printLines (records.map Record.toText)
  let ending ← job.deliverFile compilation.result
  IO.print (String.ofList ending.stdout)
  printLines ending.message.toList
  return ending.exit.toUInt32

end JsxTemplate

def main (arguments : List String) : IO UInt32 := do
  let environment ← IO.getEnv "RUST_LOG"
  match JsxTemplate.Invocation.ofArguments (arguments.map String.toList) with
  | .ok invocation =>
    invocation.job.perform
      (JsxTemplate.logLevel (environment.map String.toList) invocation.verbosity)
  | .error dismissal =>
    let report := dismissal.report (.ofFiles [])
    IO.print (String.ofList report.stdout)
    JsxTemplate.printLines report.stderr
    return report.exit.toUInt32
