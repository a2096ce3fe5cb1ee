import CallAtlas.Graph.CallStack
import CallAtlas.Index.File
import CallAtlas.Json.Decoder
import CallAtlas.Log.Basic
import CallAtlas.Settings.Variables
import CallAtlas.Trace.Basic
import CallAtlas.Workspace.Checkout

/-!
# Settings

The settings of the program are read from a JSON document. All of them may be missing and have
values to take their place then; a value of the wrong kind or out of its bounds is refused, and
all that is wrong with a document is reported together.
-/

namespace CallAtlas

/-- The settings of the program. -/
structure Settings where
  logLevel : LogLevel
  /-- The number of files that are indexed at once. -/
  concurrency : Number
  /-- Are files indexed by a pool of workers? -/
  workerThreads : Bool
  /-- Files above this size are not parsed. -/
  maxFileBytes : Number
  /-- Patterns of files that are left out. -/
  ignore : List Text
  /-- The depth of call stacks. -/
  maxDepth : Number
  /-- The number of entries of call stacks. -/
  maxNodes : Number
  /-- Where the model is stored. -/
  outputPath : Text
  tracing : TracerOptions
deriving Inhabited

namespace Settings

open Decoder

/-- The largest number that may be set for the files that are indexed at once. -/
def maxConcurrency : Nat := Host.maxConcurrency

/-- Where the model is stored, where nothing else is said. -/
def defaultOutputPath : String := "callmap.json"

/-- The depth of call stacks, where nothing else is said. -/
def defaultMaxDepth : Nat := 8

/-- The names of the ways in which spans are written. -/
def exporters : List (String × Bool) := [("console", false), ("memory", true)]

/-- The settings for indexing. -/
structure Indexing where
  concurrency : Number
  workerThreads : Bool
  maxFileBytes : Number
  ignore : List Text

/-- Decodes the settings for indexing. -/
def indexing (defaultConcurrency : Nat) : Decoder Indexing :=
  object
    (build Indexing.mk
      |> (andField · "concurrency"
          (orElse (Json.ofNat defaultConcurrency) (integer 1 (some maxConcurrency))))
      |> (andField · "workerThreads" (orElse (.bool false) boolean))
      |> (andField · "maxFileBytes" (orElse (.num Index.defaultMaxFileBytes) (integer 1 none)))
      |> (andField · "ignore"
          (orElse (.arr (Checkout.defaultIgnore.map Json.str)) (list (text 0)))))

/-- Decodes the bounds of call stacks. -/
def callStack : Decoder (Number × Number) :=
  object
    (build Prod.mk
      |> (andField · "maxDepth"
          (orElse (Json.ofNat defaultMaxDepth) (integer 0 (some CallStack.depthLimit))))
      |> (andField · "maxNodes" (orElse (.num CallStack.defaultMaxNodes) (integer 1 none))))

/-- Decodes where the model is stored. -/
def output : Decoder Text :=
  object (build id |> (andField · "path" (orElse (defaultOutputPath : Json) (text 1))))

/-- Decodes the settings for tracing. -/
def tracingOptions : Decoder TracerOptions :=
  object
    (build TracerOptions.mk
      |> (andField · "enabled" (orElse (.bool false) boolean))
      |> (andField · "exporterType" (orElse ("console" : Json) (choice exporters)))
      |> (andField · "serviceName" (optional (text 1))))

/-- The log levels by name. -/
def levels : List (String × LogLevel) := LogLevel.all.map fun l => (l.name, l)

/-- Settings from their parts. -/
def assemble (logLevel : LogLevel) (i : Indexing) (bounds : Number × Number) (outputPath : Text)
    (tracing : TracerOptions) : Settings :=
  { logLevel
    concurrency := i.concurrency
    workerThreads := i.workerThreads
    maxFileBytes := i.maxFileBytes
    ignore := i.ignore
    maxDepth := bounds.1
    maxNodes := bounds.2
    outputPath
    tracing }

/-- Decodes settings. -/
def decoder (defaultConcurrency : Nat) : Decoder Settings :=
  object
    (build assemble
      |> (andField · "logLevel" (orElse ("info" : Json) (choice levels)))
      |> (andField · "indexing" (orElse (.obj []) (indexing defaultConcurrency)))
      |> (andField · "callStack" (orElse (.obj []) callStack))
      |> (andField · "output" (orElse (.obj []) output))
      |> (andField · "tracing" (orElse (.obj []) tracingOptions)))

/-- An error of the settings. -/
def configFailure (message : Text) : Failure := Failure.of .config message

/-- The report of what is wrong with a document. -/
def report (source : Text) (issues : List Issue) : Text :=
  Text.ofString "Config validation failed (" ++ source ++ Text.ofString "):\n"
    ++ Text.join [Text.newline] (issues.map fun i => Text.ofString "  - " ++ i.line)

/-- The name of a document that is in no file. -/
def inlineSource : Text := Text.ofString "<inline>"

/-- The settings of a document, or the report of what is wrong with it. -/
def validate (defaultConcurrency : Nat) (j : Json) (source : Text) : Except Failure Settings :=
  match decoder defaultConcurrency (some j) with
  | .ok s => .ok s
  | .error issues => .error (configFailure (report source issues))

/-- The settings of a document whose strings may refer to environment variables. -/
def parse (env : Variables.Values) (defaultConcurrency : Nat) (raw : Json) (source : Text) :
    Except Failure Settings :=
  match Variables.expand env raw with
  | .error unset => .error (configFailure unset.message)
  | .ok j => validate defaultConcurrency j source

/-- Settings as a document. -/
def toJson (s : Settings) : Json :=
  let exporter := if s.tracing.inMemory then "memory" else "console"
  .object
    [("logLevel", (s.logLevel.name : Json)),
      ("indexing", .object
        [("concurrency", .num s.concurrency), ("workerThreads", .bool s.workerThreads),
          ("maxFileBytes", .num s.maxFileBytes), ("ignore", .arr (s.ignore.map Json.str))]),
      ("callStack", .object [("maxDepth", .num s.maxDepth), ("maxNodes", .num s.maxNodes)]),
      ("output", .object [("path", .str s.outputPath)]),
      ("tracing", .object
        ([("enabled", Json.bool s.tracing.enabled), ("exporterType", (exporter : Json))]
          ++ Json.optional "serviceName" Json.str s.tracing.service))]

end Settings

end CallAtlas
