import CallAtlas.Command.Arguments
import CallAtlas.Graph.Locate
import CallAtlas.Log.Basic
import CallAtlas.Number.Reading

/-!
# Commands and their options

A command line asks for help, for the version or for a command on a repository. Each command has
options of its own beside those that all commands share; what is missing or out of its bounds is
refused.
-/

namespace CallAtlas

/-- The options that all commands share. -/
structure SharedOptions where
  /-- The file of the settings. -/
  config : Option Text := none
  logLevel : Option LogLevel := none
  /-- Where the model is stored; a relative path is seen from the repository. -/
  output : Option Text := none
  /-- Is the model generated even if the stored one is up to date? -/
  force : Bool := false
  /-- Is the output a JSON document? -/
  json : Bool := false

/-- The options of commands on a repository. -/
structure RepoOptions where
  shared : SharedOptions
  repoPath : Text
  ref : Text

/-- The command line, understood. -/
inductive Command where
  /-- Builds the model or uses the stored one again. -/
  | generate (repo : RepoOptions) (workerThreads : Bool) (concurrency : Option Number)
  /-- Shows the call stack from a line on. -/
  | callStack (repo : RepoOptions) (file : Text) (line : Number) (maxDepth : Option Number)
  /-- Lists the definitions of a name. -/
  | lookup (repo : RepoOptions) (name : Text) (language : Option Text)
  /-- Shows the source of a definition, picked by its name or a line of it. -/
  | source (repo : RepoOptions) (file : Text) (line : Option Number) (name : Option Text)
  | version (shared : SharedOptions)
  | help
  /-- No command is given. -/
  | missing
  /-- The command is not known. -/
  | unknown (name : Text)

namespace Command

/-- The options that the program knows. -/
def specs : List OptionSpec :=
  [{ name := "help", short := some 'h' },
    { name := "version", short := some 'v' },
    { name := "config", short := some 'c', takesValue := true },
    { name := "log-level", takesValue := true },
    { name := "output", short := some 'o', takesValue := true },
    { name := "force", short := some 'f' },
    { name := "json" },
    { name := "ref", takesValue := true },
    { name := "file", takesValue := true },
    { name := "line", takesValue := true },
    { name := "name", takesValue := true },
    { name := "language", takesValue := true },
    { name := "max-depth", takesValue := true },
    { name := "concurrency", takesValue := true },
    { name := "worker-threads" }]

/-- An error of a request. -/
def refuse {α : Type} (message : Text) : Except Failure α :=
  .error (Failure.of .validation message)

/-- A text in double quotes. -/
def inQuotes (t : Text) : Text := Text.unit '"' :: t ++ [Text.unit '"']

/-- A whole number with a least value. -/
def integer (name : String) (low : Nat) (value : Text) : Except Failure Number :=
  let refusal : Except Failure Number :=
    refuse (Text.ofString ("--" ++ name ++ " must be an integer >= " ++ Nat.repr low ++ ", got ")
      ++ inQuotes value)
  match Number.ofText? value with
  | some n => if n.den = 1 ∧ ((low : Nat) : Int) ≤ n then .ok n else refusal
  | none => refusal

/-- The whole number of an option that may be missing. -/
def optionalInteger (a : Arguments) (name : String) (low : Nat) :
    Except Failure (Option Number) :=
  match a.value? name with
  | some v => (integer name low v).map some
  | none => .ok none

/-- The value of an option that must not be missing or empty. -/
def required (a : Arguments) (name : String) : Except Failure Text :=
  match (a.value? name).filter fun v => !v.isEmpty with
  | some v => .ok v
  | none => refuse (Text.ofString ("--" ++ name ++ " is required"))

/-- The options that all commands share. -/
def shared (a : Arguments) : Except Failure SharedOptions := do
  let logLevel ←
    match a.value? "log-level" with
    | none => pure none
    | some v =>
      match LogLevel.ofName? v with
      | some l => pure (some l)
      | none =>
        refuse (Text.ofString "--log-level must be one of debug, info, warn, error, got "
          ++ inQuotes v)
  return {
    config := a.value? "config"
    logLevel
    output := a.value? "output"
    force := a.has "force"
    json := a.has "json" }

/-- The operands of a command. -/
def commandOperands (a : Arguments) : List Text := a.operands.drop 1

/-- The options of a command on a repository. -/
def repo (a : Arguments) (shared : SharedOptions) : Except Failure RepoOptions :=
  match (commandOperands a).head?.filter fun p => !p.isEmpty with
  | none => refuse (Text.ofString "A repository directory is required")
  | some repoPath =>
    .ok { shared, repoPath, ref := (a.value? "ref").getD (Text.ofString "HEAD") }

/-- Reads the options of the generate command. -/
def readGenerate (a : Arguments) (shared : SharedOptions) : Except Failure Command := do
  let r ← repo a shared
  return .generate r (a.has "worker-threads") (← optionalInteger a "concurrency" 1)

/-- Reads the options of the callstack command. -/
def readCallStack (a : Arguments) (shared : SharedOptions) : Except Failure Command := do
  let r ← repo a shared
  let file ← required a "file"
  let line ← integer "line" 1 (← required a "line")
  return .callStack r file line (← optionalInteger a "max-depth" 0)

/-- Reads the options of the lookup command. -/
def readLookup (a : Arguments) (shared : SharedOptions) : Except Failure Command := do
  let r ← repo a shared
  return .lookup r (← required a "name") (a.value? "language")

/-- Reads the options of the show command. -/
def readShow (a : Arguments) (shared : SharedOptions) : Except Failure Command := do
  let r ← repo a shared
  let file ← required a "file"
  let line ← optionalInteger a "line" 1
  let name := a.value? "name"
  if line.isNone && name.isNone then refuse (Text.ofString "show needs --line or --name")
  else return .source r file line name

/-- The commands by name. -/
def readers : List (String × (Arguments → SharedOptions → Except Failure Command)) :=
  [("generate", readGenerate), ("callstack", readCallStack), ("lookup", readLookup),
    ("show", readShow), ("version", fun _ shared => .ok (.version shared))]

/-- The name of the command. -/
def name? (a : Arguments) : Option Text := a.operands.head?

/-- The command of a command line. Asking for help comes before all else, and asking for the
version comes before every command. -/
def ofArguments (a : Arguments) : Except Failure Command :=
  if a.has "help" then .ok .help
  else do
    let shared ← shared a
    if a.has "version" then return .version shared
    else
      match (name? a).filter fun n => !n.isEmpty with
      | none => return .missing
      | some name =>
        match readers.find? fun r => Text.ofString r.1 == name with
        | some r => r.2 a shared
        | none => return .unknown name

end Command

end CallAtlas
