import CallAtlas.Json.Reader
import CallAtlas.Settings.Basic

/-!
# Loading settings

The settings are loaded from the file that was asked for, or else from the one that an environment
variable names, or else they are those that come with the program.
-/

namespace CallAtlas.Settings

/-- The environment variable that names the file of the settings. -/
def pathVariable : String := "CALLMAP_CONFIG"

/-- The name of files that hold settings. -/
def fileName : String := "callmap.config.json"

/-- The document of the settings that come with the program. -/
def packaged : Json :=
  let ignore := Checkout.defaultIgnore ++ ["**/vendor/**", "**/__pycache__/**"].map Text.ofString
  .object
    [("logLevel", ("info" : Json)),
      ("indexing", .object
        [("workerThreads", .bool false), ("maxFileBytes", .num Index.defaultMaxFileBytes),
          ("ignore", .arr (ignore.map Json.str))]),
      ("callStack", .object
        [("maxDepth", Json.ofNat defaultMaxDepth), ("maxNodes", .num CallStack.defaultMaxNodes)]),
      ("output", .object [("path", (defaultOutputPath : Json))]),
      ("tracing", .object [("enabled", .bool false), ("exporterType", ("console" : Json))])]

/-- The settings of a file. -/
def loadFile (w : Workspace) (defaultConcurrency : Nat) (path : Text) :
    Except Failure Settings :=
  let path := w.absolute path
  match w.read path with
  | .error f =>
    if f.codeText = some (Text.ofString FileFault.missing.code) then
      .error (configFailure (Text.ofString "Config file not found: " ++ path))
    else .error f
  | .ok text =>
    match Json.parse? text with
    | none => .error (configFailure (Text.ofString "Invalid JSON in config file: " ++ path))
    | some j => parse w.environment.value? defaultConcurrency j path

/-- The settings that hold. An empty path counts as none. -/
def load (w : Workspace) (defaultConcurrency : Nat) (path : Option Text) :
    Except Failure Settings :=
  match (path.or (w.environment.value? (Text.ofString pathVariable))).filter fun p => !p.isEmpty with
  | some p => loadFile w defaultConcurrency p
  | none => parse w.environment.value? defaultConcurrency packaged (Text.ofString fileName)

end CallAtlas.Settings
