import CallAtlas.Command.Help
import CallAtlas.Command.Options
import CallAtlas.Graph.CallTree
import CallAtlas.Session.CallStack
import CallAtlas.Settings.Load
import CallAtlas.Sync.Refresh
import CallAtlas.Workspace.Store

/-!
# Running commands

A command works on the workspace and writes lines of output and of errors. It ends with an exit
code, which is not zero if it could not do what it was asked for. An error that a command throws
is written as a line of its own, or as a JSON document if the command line asks for JSON.
-/

namespace CallAtlas

/-- Where a command runs. -/
structure Terminal where
  workspace : Workspace
  /-- The lines of the output, the first one first. -/
  output : List Text := []
  /-- The lines of errors, the first one first. -/
  errors : List Text := []
  exitCode : Nat := 0
  /-- The level of the log. -/
  logLevel : LogLevel := .info

namespace Command

/-- A job on the workspace. -/
def onWorkspace {α : Type} (job : Job Workspace α) : Job Terminal α :=
  Job.onPart Terminal.workspace (fun w t => { t with workspace := w }) job

/-- Writes a line of output. -/
def print (line : Text) : Job Terminal Unit :=
  Job.change fun t => { t with output := t.output ++ [line] }

/-- Writes lines of output. -/
def printAll (lines : List Text) : Job Terminal Unit :=
  Job.change fun t => { t with output := t.output ++ lines }

/-- Writes a line of errors. -/
def complain (line : Text) : Job Terminal Unit :=
  Job.change fun t => { t with errors := t.errors ++ [line] }

/-- The command could not do what it was asked for. -/
def markFailed : Job Terminal Unit := Job.change fun t => { t with exitCode := 1 }

/-- Loads the settings, and sets the level of the log and the tracing as they say. -/
def setUp (shared : SharedOptions) : Job Terminal Settings := do
  let host ← Job.host
  let terminal ← Job.world
  match Settings.load terminal.workspace host.defaultConcurrency shared.config with
  | .error f => Job.throw (.failure f)
  | .ok settings =>
    Job.change fun t => { t with logLevel := shared.logLevel.getD settings.logLevel }
    Job.trace fun t => t.install settings.tracing
    return settings

/-- Where the model of a repository is stored. -/
def outputPath (w : Workspace) (r : RepoOptions) (settings : Settings) : Text :=
  let path := r.shared.output.getD settings.outputPath
  if Path.isAbsolute path then path else Path.resolve (w.absolute r.repoPath) path

/-- With whose help the model of a directory is refreshed. -/
def collaborators (settings : Settings) (workerThreads : Bool) (concurrency : Number) :
    Collaborators Workspace where
  provider := Checkout.provider { ignore := settings.ignore, maxFileBytes := settings.maxFileBytes }
  store := ModelFile.store
  generate := CallAtlas.generate
    { concurrency := some concurrency
      workers := if workerThreads then some .indexing else none
      maxFileBytes := settings.maxFileBytes }

/-- The model of a repository, generated if the stored one is out of date. -/
def loadModel (r : RepoOptions) (settings : Settings) (workerThreads : Bool)
    (concurrency : Option Number) : Job Terminal RefreshResult := do
  let w := (← Job.world).workspace
  let result ← onWorkspace
    (refresh
      (collaborators settings (workerThreads || settings.workerThreads)
        (concurrency.getD settings.concurrency))
      { repository := w.absolute r.repoPath
        ref := r.ref
        outputPath := outputPath w r settings
        force := r.shared.force })
  Job.report (result.warnings.map (LogEntry.plain .warn))
  return result

/-! ## Generate -/

/-- A line with a number. -/
def countLine (title : String) (n : Nat) : Text := Text.ofString (title ++ ": " ++ Nat.repr n)

/-- The line of a failure. -/
def failureLine (f : FileFailure) : Text :=
  let place :=
    match f.line with
    | some n => Text.unit ':' :: n.toText
    | none => []
  Text.ofString ("  " ++ f.kind.name ++ " ") ++ f.path ++ place ++ Text.ofString ": " ++ f.message

/-- Is a failure listed after the numbers? -/
def isListed (f : FileFailure) : Bool :=
  f.kind == .parseFailure || f.kind == .workerFailure

/-- What is told of a refresh as text. -/
def refreshLines (outputPath : Text) : RefreshResult → List Text
  | .reused stored _ =>
    let fingerprint := stored.metadata.fingerprint.getD (Text.ofString "no fingerprint")
    [Text.ofString "Model is up to date (" ++ fingerprint ++ Text.ofString ")",
      countLine "  Files" stored.model.files.length,
      countLine "  Definitions" stored.model.countDefinitions,
      Text.ofString "  Output: " ++ outputPath]
  | .regenerated g _ _ =>
    [Text.ofString (if g.cancelled then "Generation cancelled" else "Generated model"),
      Text.ofString ("  Files indexed: " ++ Nat.repr g.stats.filesIndexed ++ "/"
        ++ Nat.repr g.stats.filesTotal),
      countLine "  Definitions" g.stats.definitions,
      countLine "  Unsupported" g.stats.filesUnsupported,
      countLine "  Failed" g.stats.filesFailed,
      Text.ofString ("  Duration: " ++ Nat.repr g.stats.durationMs ++ "ms")]
    ++ (if g.cancelled then [] else [Text.ofString "  Output: " ++ outputPath])
    ++ (g.failures.filter isListed).map failureLine

/-- What is told of a refresh as a document. -/
def refreshJson (outputPath : Text) (r : RefreshResult) : Json :=
  let (regenerated, more) :=
    match r with
    | .reused _ _ => (false, [])
    | .regenerated g _ _ =>
      (true,
        [("stats", Json.object g.stats.members),
          ("failures", .arr (g.failures.map FileFailure.toJson)),
          ("cancelled", .bool g.cancelled)])
  .object
    ([("outputPath", Json.str outputPath), ("regenerated", .bool regenerated),
      ("metadata", r.metadata.toJson)] ++ more)

/-- Runs the generate command. -/
def runGenerate (r : RepoOptions) (workerThreads : Bool) (concurrency : Option Number) :
    Job Terminal Unit := do
  let settings ← setUp r.shared
  let result ← loadModel r settings workerThreads concurrency
  let path := outputPath (← Job.world).workspace r settings
  if r.shared.json then print (refreshJson path result).pretty
  else printAll (refreshLines path result)

/-! ## Call stacks, definitions and sources -/

/-- Runs the callstack command. -/
def runCallStack (r : RepoOptions) (file : Text) (line : Number) (maxDepth : Option Number) :
    Job Terminal Unit := do
  let settings ← setUp r.shared
  let result ← loadModel r settings false none
  let found ← CallStack.resolveJob result.model file line (maxDepth.getD settings.maxDepth)
    settings.maxNodes
  match found with
  | .error e => do
    complain e.message
    markFailed
  | .ok s => print (s.format (if r.shared.json then .json else .text))

/-- A definition with the number of its calls as a document. -/
def summaryJson (d : Definition) : Json :=
  .object (d.headMembers ++ [("callCount", Json.ofNat d.calls.length)])

/-- The line of a definition. -/
def definitionLine (d : Definition) : Text :=
  Text.ofString (d.kind.name ++ " ") ++ d.qualifiedName ++ Text.unit ' ' :: CallStack.placeText d

/-- Runs the lookup command. -/
def runLookup (r : RepoOptions) (name : Text) (language : Option Text) : Job Terminal Unit := do
  let settings ← setUp r.shared
  let result ← loadModel r settings false none
  let definitions := (SymbolIndex.build result.model).resolve name language
  if r.shared.json then print (Json.arr (definitions.map summaryJson)).pretty
  else if definitions.isEmpty then print (Text.ofString "No definitions named " ++ name)
  else printAll (definitions.map definitionLine)

/-- The content of a file of a repository. -/
def readSource (w : Workspace) (repoPath path : Text) : Except Failure Text :=
  match Path.resolveWithin w.directory repoPath path with
  | .error e => .error (Failure.of .general e.message)
  | .ok target => w.read target

/-- What a definition is picked by, in words. -/
def locatorText : DefinitionLocator → Text
  | .line n => Text.ofString "line " ++ n.toText
  | .name wanted => wanted

/-- A definition with its source as a document. -/
def sourceJson (s : DefinitionSource) : Json :=
  .object
    (s.definition.headMembers
      ++ [("calls", .arr (s.definition.calls.map CallSite.toJson)), ("text", .str s.text)])

/-- Runs the show command. -/
def runShow (r : RepoOptions) (file : Text) (line : Option Number) (name : Option Text) :
    Job Terminal Unit := do
  let settings ← setUp r.shared
  let result ← loadModel r settings false none
  let path := Path.normalize file
  match readSource (← Job.world).workspace r.repoPath path with
  | .error f => Job.throw (.failure f)
  | .ok content =>
    let locator :=
      match line with
      | some n => .line n
      | none => .name (name.getD [])
    match result.model.sourceOf? path content locator with
    | none => do
      complain (Text.ofString "No definition found for " ++ locatorText locator
        ++ Text.ofString " in " ++ path)
      markFailed
    | some s =>
      if r.shared.json then print (sourceJson s).pretty
      else
        printAll
          [Text.ofString "# " ++ s.definition.qualifiedName ++ Text.ofString " ("
            ++ CallStack.placeText s.definition ++ Text.ofString ")", s.text]

/-! ## All commands -/

/-- Runs the version command. -/
def runVersion (shared : SharedOptions) : Job Terminal Unit := do
  let host ← Job.host
  let extensions := Text.sort (← Job.registry).extensions
  if shared.json then
    print (Json.object
      [("version", (CallAtlas.version : Json)), ("node", .str host.runtime),
        ("extensions", .arr (extensions.map Json.str))]).pretty
  else
    printAll
      [Text.ofString ("callmap version: " ++ CallAtlas.version), [], Text.ofString "Environment:",
        Text.ofString "  Node.js: " ++ host.runtime,
        Text.ofString "  Platform: " ++ host.platform,
        Text.ofString "  Arch: " ++ host.architecture,
        Text.ofString "  Extensions: " ++ Text.join [0x20] extensions]

/-- Runs a command. -/
def run : Command → Job Terminal Unit
  | .generate r workerThreads concurrency => runGenerate r workerThreads concurrency
  | .callStack r file line maxDepth => runCallStack r file line maxDepth
  | .lookup r name language => runLookup r name language
  | .source r file line name => runShow r file line name
  | .version shared => runVersion shared
  | .help => print helpText
  | .missing => do
    print helpText
    markFailed
  | .unknown name => do
    complain (Text.ofString "Unknown command: " ++ name)
    complain []
    print helpText
    markFailed

/-- The document of an error. -/
def errorJson (thrown : Thrown) : Json :=
  let code :=
    match thrown with
    | .failure f => f.codeText
    | .value _ => none
  .object
    [("error", .object
      ([("message", Json.str thrown.message)] ++ Json.optional "code" Json.str code))]

/-- The command of some arguments. -/
def read (arguments : List Text) : Except Failure Command := do
  ofArguments (← Arguments.read specs arguments)

/-- Runs the command of some arguments, up to its end. -/
def execute (arguments : List Text) : Job Terminal Unit := do
  let command : Job Terminal Unit :=
    match read arguments with
    | .ok c => run c
    | .error f => Job.throw (.failure f)
  match ← Job.attempt command with
  | .ok () => return ()
  | .error thrown => do
    let asJson := arguments.contains (Text.ofString "--json")
    complain
      (if asJson then (errorJson thrown).compact
       else Text.ofString "Fatal error: " ++ thrown.message)
    markFailed

end Command

end CallAtlas
