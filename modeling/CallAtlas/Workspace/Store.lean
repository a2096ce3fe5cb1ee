import CallAtlas.Json.Reader
import CallAtlas.Sync.Basic
import CallAtlas.Workspace.Basic

/-!
# Models in files

A model is stored as a document in a file. The document is written to a temporary file first,
which then takes the place of the model file, so that no model is ever half written.
-/

namespace CallAtlas.ModelFile

/-- A model that cannot be stored or loaded. -/
def persistenceFailure (doing message : Text) : Thrown :=
  .failure (Failure.of .persistence (doing ++ Text.ofString ": " ++ message))

/-- What is said of a text that is not a JSON value. -/
def noValue : String := "not a JSON value"

/-- The model of a text. -/
def decode (text : Text) : Except Thrown PersistedModel :=
  match Json.parse? text with
  | none => .error (.ofKind .persistence (Text.ofString ("Model is not valid JSON: " ++ noValue)))
  | some j =>
    match Stored.decode j with
    | .ok m => .ok m
    | .error report => .error (.ofKind .persistence report)

/-- Loads the model of a file; none if there is no file. -/
def load (path : Text) : Job Workspace (Option PersistedModel) := do
  match (← Job.world).read path with
  | .error f =>
    if f.codeText = some (Text.ofString FileFault.missing.code) then return none
    else Job.throw (persistenceFailure (Text.ofString "Cannot read model") f.message)
  | .ok text =>
    let m ← Job.ofOutcome (decode text)
    Job.note .debug "Loaded model"
      [("path", .str path), ("files", Json.ofNat m.model.files.length)]
    return some m

/-- The path of the temporary file that a process writes a model to. -/
def temporary (path process : Text) : Text :=
  path ++ Text.dot :: process ++ Text.ofString ".tmp"

/-- The directory that holds a path, as it is written. -/
def directoryOf (path : Text) : Text :=
  let body := Path.dropTrailingSlashes path
  let opening := (body.reverse.dropWhile fun u => u ≠ Text.slash).reverse
  let directory := Path.dropTrailingSlashes opening
  if directory = [] then if opening = [] then Path.here else [Text.slash] else directory

/-- A change of the files, which may fail. -/
def alter (f : Workspace → Except Failure FileSystem) : Job Workspace Unit := do
  match f (← Job.world) with
  | .ok files => Job.change fun w => { w with files }
  | .error failure =>
    Job.throw (.ofKind .persistence (Text.ofString "Cannot write model: " ++ failure.message))

/-- Saves a document in a file. -/
def saveDocument (path : Text) (document : Json) (fileCount : Nat) : Job Workspace Unit := do
  let directory := directoryOf path
  let draft := temporary path (← Job.host).process
  alter fun w => w.files.makeDirectory (w.absolute directory) directory
  alter fun w => w.files.write (w.absolute draft) draft (RepoModel.documentText document)
  alter fun w => w.files.rename (w.absolute draft) (w.absolute path) draft path
  Job.note .debug "Saved model" [("path", .str path), ("files", Json.ofNat fileCount)]

/-- Saves a model in a file. -/
def save (path : Text) (model : RepoModel) (metadata : RepoMetadata) : Job Workspace Unit :=
  saveDocument path (model.toDocument metadata) model.files.length

/-- Keeps models in files. -/
def store : ModelStore Workspace where
  load := load
  save := save

end CallAtlas.ModelFile
