import JsxTemplate.Options.Basic

/-
  The command line: `build PATH` and `check PATH` with their options. An option's value is only
  looked at once the next option, the path or the end of the line has been reached.
-/

namespace JsxTemplate

/-- What the options of a command ask for. -/
structure Settings where
  config : Option Text
  preserveWhitespace : Bool
  /-- Attribute names and their replacements, in the order given. -/
  replacements : List (Text × Text)
  deriving DecidableEq, Repr

inductive Job where
  /-- Writes the output of a file, to standard output unless told otherwise. -/
  | build (path : Text) (out : Option Text) (settings : Settings)
  /-- Only says whether a file has an output. -/
  | check (path : Text) (settings : Settings)
  deriving DecidableEq, Repr

def Job.path : Job → Text
  | build path _ _ => path
  | check path _ => path

def Job.settings : Job → Settings
  | build _ _ settings => settings
  | check _ settings => settings

structure Invocation where
  verbosity : Nat
  job : Job
  deriving DecidableEq, Repr

/-- Why a command line starts no job. -/
inductive Dismissal where
  | version
  | help
  /-- The line makes no sense; a bad replacement is complained about in words. -/
  | misuse (complaint : Option Text)
  deriving DecidableEq, Repr

/-- `FROM=TO`, cut at the first equals sign, with text on both sides. -/
def replacement? (value : Text) : Option (Text × Text) :=
  match value.takeWhile (· != '='), value.dropWhile (· != '=') with
  | c :: name, '=' :: d :: replacement => some (c :: name, d :: replacement)
  | _, _ => none

namespace Arguments

/-- An option that takes a value. -/
inductive Key where
  | out
  | config
  | replacement
  deriving DecidableEq, Repr

inductive Verb where
  | build
  | check
  deriving DecidableEq, Repr

/-- What has been read of a command's arguments. `awaited` is an option whose value is still
to be looked at, or still to come. -/
structure State where
  path : Option Text
  out : Option Text
  config : Option Text
  preserveWhitespace : Bool
  replacements : List (Text × Text)
  verbosity : Option Nat
  awaited : Option (Key × Option Text)
  deriving DecidableEq, Repr

def State.start : State := ⟨none, none, none, false, [], none, none⟩

def misuse {α : Type} : Except Dismissal α := .error (.misuse none)

/-- Takes over the value of an option. A file is named at most once, and not by nothing. -/
def State.assign (state : State) (key : Key) (value : Text) : Except Dismissal State :=
  match key with
  | .out =>
    if state.out.isSome || value.isEmpty then misuse else .ok { state with out := some value }
  | .config =>
    if state.config.isSome || value.isEmpty then misuse
    else .ok { state with config := some value }
  | .replacement =>
    match replacement? value with
    | some entry => .ok { state with replacements := state.replacements ++ [entry] }
    | none =>
      .error (.misuse (some ("expected FROM=TO, got '".toList ++ value ++ ['\''])))

/-- Looks at the value that is awaited. -/
def State.settle (state : State) : Except Dismissal State :=
  match state.awaited with
  | none => .ok state
  | some (_, none) => misuse
  | some (key, some value) => { state with awaited := none }.assign key value

def State.countVerbose (state : State) : Except Dismissal State := do
  let state ← state.settle
  .ok { state with verbosity := some (state.verbosity.getD 0 + 1) }

/-- An option with its value attached, or with the value to come. -/
def State.option (state : State) (key : Key) (value : Option Text) :
    Except Dismissal State := do
  let state ← state.settle
  match value with
  | some value => state.assign key value
  | none => .ok { state with awaited := some (key, none) }

def State.positional (state : State) (value : Text) : Except Dismissal State :=
  if state.path.isSome then misuse
  else do
    let state ← state.settle
    .ok { state with path := some value }

/-- The option called `name` among those of a command. -/
def key? (verb : Verb) (name : Text) : Option Key :=
  if name == "config".toList then some .config
  else if name == "attr".toList then some .replacement
  else if name == "out".toList && verb == .build then some .out
  else none

/-- `--name` or `--name=value`. -/
def State.long (verb : Verb) (state : State) (name : Text) (value : Option Text) :
    Except Dismissal State :=
  match key? verb name with
  | some key => state.option key value
  | none =>
    if value.isSome then misuse
    else if name == "verbose".toList then state.countVerbose
    else if name == "help".toList then do
      let _ ← state.settle
      .error .help
    else if name == "preserve-whitespace".toList then do
      let state ← state.settle
      if state.preserveWhitespace then misuse
      else .ok { state with preserveWhitespace := true }
    else misuse

/-- The letters behind a single dash. What follows an option that takes a value is its value. -/
def State.short (verb : Verb) (state : State) : Text → Except Dismissal State
  | [] => .ok state
  | c :: letters =>
    if c == 'v' then do
      let state ← state.countVerbose
      state.short verb letters
    else if c == 'h' then do
      let _ ← state.settle
      .error .help
    else if c == 'o' && verb == .build then
      match letters with
      | [] => state.option .out none
      | '=' :: value => state.option .out (some value)
      | value => state.option .out (some value)
    else misuse

/-- The shapes of an argument. -/
inductive Shape where
  | separator
  | long (name : Text) (value : Option Text)
  | short (letters : Text)
  | word

def shape : Text → Shape
  | ['-', '-'] => .separator
  | '-' :: '-' :: option =>
    match option.dropWhile (· != '=') with
    | [] => .long option none
    | _ :: value => .long (option.takeWhile (· != '=')) (some value)
  | ['-'] => .word
  | '-' :: letters => .short letters
  | _ => .word

/-- The arguments behind a command's name. -/
def gather (verb : Verb) : State → List Text → Except Dismissal State
  | state, [] => state.settle
  | state, argument :: arguments =>
    match shape argument with
    | .separator => do
      let state ← arguments.foldlM State.positional state
      state.settle
    | .long name value => do
      let state ← state.long verb name value
      gather verb state arguments
    | .short letters => do
      let state ← state.short verb letters
      gather verb state arguments
    | .word =>
      match state.awaited with
      | some (key, none) =>
        gather verb { state with awaited := some (key, some argument) } arguments
      | _ => do
        let state ← state.positional argument
        gather verb state arguments

/-- The invocation of a command. A count of `-v` behind its name replaces one before it. -/
def command (verb : Verb) (verbosity : Nat) (arguments : List Text) :
    Except Dismissal Invocation := do
  let state ← gather verb .start arguments
  match state.path with
  | none => misuse
  | some path =>
    let settings : Settings := ⟨state.config, state.preserveWhitespace, state.replacements⟩
    let job := match verb with
      | .build => Job.build path state.out settings
      | .check => Job.check path settings
    .ok ⟨state.verbosity.getD verbosity, job⟩

/-- The letters behind a single dash, before any command. -/
def leadingShort (verbosity : Nat) : Text → Except Dismissal Nat
  | [] => .ok verbosity
  | c :: letters =>
    if c == 'v' then leadingShort (verbosity + 1) letters
    else if c == 'V' then .error .version
    else if c == 'h' then .error .help
    else misuse

def verb? (word : Text) : Option Verb :=
  if word == "build".toList then some .build
  else if word == "check".toList then some .check
  else none

/-- The subjects of `help`: nothing, or one command. -/
def helpOn {α : Type} : List Text → Except Dismissal α
  | [] => .error .help
  | [word] =>
    if (verb? word).isSome || word == "help".toList then .error .help else misuse
  | _ => misuse

/-- A whole command line, without the program's name. -/
def commandLine (verbosity : Nat) : List Text → Except Dismissal Invocation
  | [] => misuse
  | argument :: arguments =>
    match shape argument with
    | .separator => misuse
    | .long name none =>
      if name == "verbose".toList then commandLine (verbosity + 1) arguments
      else if name == "version".toList then .error .version
      else if name == "help".toList then .error .help
      else misuse
    | .long _ (some _) => misuse
    | .short letters => do
      let verbosity ← leadingShort verbosity letters
      commandLine verbosity arguments
    | .word =>
      match verb? argument with
      | some verb => command verb verbosity arguments
      | none => if argument == "help".toList then helpOn arguments else misuse

end Arguments

/-- Reads a command line, without the program's name. -/
def Invocation.ofArguments (arguments : List Text) : Except Dismissal Invocation :=
  Arguments.commandLine 0 arguments

end JsxTemplate
