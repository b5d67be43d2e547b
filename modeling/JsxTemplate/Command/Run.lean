import JsxTemplate.Command.Arguments
import JsxTemplate.Command.FileTree
import JsxTemplate.Compile.Record
import JsxTemplate.Compile.Source
import JsxTemplate.Options.Config

/-
  Running the command line: what it prints, what it logs, what it writes and how it exits.
-/

namespace JsxTemplate

/-- Overrides from a configuration, with the settings of the command line on top. -/
def Settings.overrides (settings : Settings) (config : Config) : Overrides :=
  { config.overrides with
    preserveWhitespace :=
      if settings.preserveWhitespace then some true else config.preserveWhitespace
    replacements :=
      if settings.replacements.isEmpty then config.replacements
      else some (Table.insertAll (config.replacements.getD []) settings.replacements) }

/-- The files a job needs, as far as they could be read. -/
structure Inputs where
  /-- Absent if the job names no configuration. -/
  config : Option (Except FileFault Text)
  source : Except FileFault Text

/-- What a job logs, and its output or a message that says why there is none. -/
structure Compilation where
  records : List Record
  result : Except Text Text

def readingFault (name : Text) (fault : FileFault) : Text :=
  "Error reading ".toList ++ name ++ ": ".toList ++ fault.message

/-- The message for a configuration that is refused. -/
def invalidConfig (name : Text) (reason : Option Text) : Text :=
  "Invalid config ".toList ++ name ++ (reason.map (": ".toList ++ ·)).getD []

/-- The overrides of a job, or a message. -/
def Job.overrides (job : Job) (decode : Decoder) (inputs : Inputs) : Except Text Overrides :=
  match job.settings.config, inputs.config with
  | some name, some (.error fault) => .error (readingFault name fault)
  | some name, some (.ok text) =>
    match decode text with
    | .ok config => .ok (job.settings.overrides config)
    | .error reason => .error (invalidConfig name reason)
  | _, _ => .ok (job.settings.overrides .empty)

/-- What compiling a source logs, after the options have been merged. -/
def sourceRecords (source : Text) : List Record :=
  match parse source with
  | .error _ => []
  | .ok program => Expression.records program

/-- Compiles a job's source. The configuration comes first, then the source. -/
def Job.compile (job : Job) (decode : Decoder) (inputs : Inputs) : Compilation :=
  match job.overrides decode inputs with
  | .error message => ⟨[], .error message⟩
  | .ok overrides =>
    match inputs.source with
    | .error fault => ⟨[.overrides overrides], .error (readingFault job.path fault)⟩
    | .ok source =>
      ⟨.overrides overrides :: .merged (.merge overrides) :: sourceRecords source,
        (transformSource overrides source).mapError fun error =>
          job.path ++ ": ".toList ++ error.message⟩

/-- The lines of a text, without a carriage return at their ends. -/
def textLines (text : Text) : List Text :=
  (text.splitOn '\n').map fun line =>
    if line.getLast? == some '\r' then line.dropLast else line

/-- What a run of the program leaves behind. Lines of a log record after its first one count as
messages. -/
structure Report where
  exit : Nat
  stdout : Text
  stderr : List Text
  log : List Text
  files : FileTree

/-- How much to log: what the environment says, else what was counted on the command line. -/
def logLevel (environment : Option Text) (verbosity : Nat) : Level :=
  match environment with
  | some name => (Level.ofName? name).getD .off
  | none =>
    match verbosity with
    | 0 => .warn
    | 1 => .debug
    | _ => .trace

/-- How a job ends, and what it prints. -/
structure Ending where
  exit : Nat
  stdout : Text
  message : Option Text

def Ending.failure (message : Text) : Ending := ⟨1, [], some message⟩

/-- The file that a job's output goes to, if it goes to one. -/
def Job.target : Job → Option Text
  | build _ out _ => out
  | check _ _ => none

/-- The end of a job whose output went where it should. -/
def Job.success (output : Text) : Job → Ending
  | check path _ => ⟨0, [], some ("OK: ".toList ++ path)⟩
  | build _ none _ => ⟨0, output, none⟩
  | build _ (some out) _ => ⟨0, [], some ("Built: ".toList ++ out)⟩

def writingFault (name : Text) (fault : FileFault) : Text :=
  "Error writing ".toList ++ name ++ ": ".toList ++ fault.message

def Job.inputs (job : Job) (files : FileTree) : Inputs :=
  ⟨job.settings.config.map files.read, files.read job.path⟩

/-- Delivers the output of a job, and ends it. -/
def Job.deliver (job : Job) (files : FileTree) : Except Text Text → Ending × FileTree
  | .error message => (.failure message, files)
  | .ok output =>
    match job.target with
    | none => (job.success output, files)
    | some out =>
      match files.write out output with
      | .ok files => (job.success output, files)
      | .error fault => (.failure (writingFault out fault), files)

/-- The lines of the records that are shown, and the further lines of those that take more than
one. -/
def logLines (shows : Record → Bool) (records : List Record) : List Text × List Text :=
  let lines := (records.filter shows).map fun record => textLines record.toText
  (lines.filterMap (·.head?), lines.flatMap (·.drop 1))

def versionLine : Text := "stringify-jsx 0.3.0\n".toList

/-- A run that starts no job. -/
def Dismissal.report (files : FileTree) : Dismissal → Report
  | version => ⟨0, versionLine, [], [], files⟩
  | help => ⟨0, [], [], [], files⟩
  | misuse complaint =>
    ⟨2, [], (complaint.map fun text => text.takeWhile (· != '\n')).toList, [], files⟩

/-- What a run leaves to others: to read the command line, to decode a configuration, and to choose
what is logged by the environment and by what was counted on the command line. -/
structure Toolkit where
  invocation : List Text → Except Dismissal Invocation
  decode : Decoder
  shows : Option Text → Nat → Record → Bool

/-- A whole run over the given files. -/
def Toolkit.run (tools : Toolkit) (environment : Option Text) (files : FileTree)
    (arguments : List Text) : Report :=
  match tools.invocation arguments with
  | .error dismissal => dismissal.report files
  | .ok ⟨verbosity, job⟩ =>
    let compilation := job.compile tools.decode (job.inputs files)
    let (log, further) := logLines (tools.shows environment verbosity) compilation.records
    let (ending, files) := job.deliver files compilation.result
    ⟨ending.exit, ending.stdout, further ++ (ending.message.map textLines).getD [], log, files⟩

/-- The tools of the program itself. -/
def Toolkit.builtin : Toolkit where
  invocation := Invocation.ofArguments
  decode := .builtin
  shows environment verbosity := (logLevel environment verbosity).shows

/-- A run of the program. -/
def run : Option Text → FileTree → List Text → Report := Toolkit.builtin.run

end JsxTemplate
