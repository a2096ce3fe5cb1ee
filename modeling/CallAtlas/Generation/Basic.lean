import CallAtlas.Generation.Run
import CallAtlas.Session.Job

/-!
# Generating the model of a repository

The model is made from a list of source files. Files that cannot be indexed are reported as
failures, and the other ones make up the model. Only the exhaustion of a shared resource is
thrown. The model does not depend on the order in which files are finished: its files are ordered
by path.
-/

namespace CallAtlas

/-- How a model is generated. -/
structure GenerateOptions where
  /-- The number of files that are worked on at once. -/
  concurrency : Option Number := none
  /-- The script of the workers that index the files; without it they are indexed in process. -/
  workers : Option WorkerScript := none
  /-- Files above this size are not parsed. -/
  maxFileBytes : Number := Index.defaultMaxFileBytes
  /-- The run is aborted after this number of finished files. -/
  abortAfter : Option Nat := none

/-- The numbers of a generation. -/
structure GenerateStats where
  filesTotal : Nat
  filesIndexed : Nat
  filesUnsupported : Nat
  filesFailed : Nat
  filesCancelled : Nat
  definitions : Nat
  durationMs : Nat := 0
deriving DecidableEq, Inhabited

/-- The result of a generation. -/
structure Generated where
  model : RepoModel
  failures : List FileFailure
  /-- Were files left out because the generation was aborted? -/
  cancelled : Bool
  stats : GenerateStats
  progress : List Progress := []
deriving Inhabited

/-- The members of the numbers of a generation. -/
def GenerateStats.members (s : GenerateStats) : List (String × Json) :=
  [("filesTotal", Json.ofNat s.filesTotal), ("filesIndexed", Json.ofNat s.filesIndexed),
    ("filesUnsupported", Json.ofNat s.filesUnsupported),
    ("filesFailed", Json.ofNat s.filesFailed), ("filesCancelled", Json.ofNat s.filesCancelled),
    ("definitions", Json.ofNat s.definitions), ("durationMs", Json.ofNat s.durationMs)]

/-- A failure as a document. -/
def FileFailure.toJson (f : FileFailure) : Json :=
  .object ([("path", .str f.path), ("kind", (f.kind.name : Json)), ("message", .str f.message)]
    ++ Json.optional "line" Json.num f.line)

namespace Generation

/-- The number of files that are worked on at once: the wanted number, but no more than there are
files. The value NaN, which is no number here, is left out; with it no worker would start. -/
def resolveConcurrency (byDefault : Nat) (wanted : Option Number) (fileCount : Nat) : Number :=
  let wanted := wanted.getD ((byDefault : Nat) : Int)
  let most : Nat := min Host.maxConcurrency (if fileCount = 0 then 1 else fileCount)
  Number.atLeast 1 (Number.atMost ((most : Nat) : Int) wanted)

/-- The entry of the log for a failure. -/
def failureEntry (f : FileFailure) : LogEntry :=
  let details :=
    [("path", Json.str f.path), ("message", .str f.message)] ++ Json.optional "line" Json.num f.line
  match f.kind with
  | .unsupportedLanguage | .cancelled =>
    .withValues .debug (Text.ofString ("Skipped file (" ++ f.kind.name ++ ")")) details
  | .parseFailure | .workerFailure =>
    .withValues .warn (Text.ofString ("Failed to index file (" ++ f.kind.name ++ ")")) details

/-- Failures by path; those of one path keep their places. -/
def orderFailures (fs : List FileFailure) : List FileFailure :=
  fs.mergeSort fun a b => !(Text.before b.path a.path)

/-- The model of indexed files. -/
def modelOf (indexed : List (Text × FileModel)) : RepoModel :=
  ⟨Json.orderMembers (indexed.mergeSort fun a b => !(Text.before b.1 a.1))⟩

/-- The number of failures of some kinds. -/
def countKinds (kinds : List FileFailureKind) (fs : List FileFailure) : Nat :=
  fs.countP fun f => kinds.contains f.kind

/-- What a run that is over amounts to. -/
def resultOf {ρ : Type} (fileCount : Nat) (r : Run ρ) : Generated :=
  let failures := orderFailures (r.failures ++ r.waiting.map Queue.cancelled)
  let model := modelOf r.indexed
  { model
    failures
    cancelled := !r.waiting.isEmpty
    stats :=
      { filesTotal := fileCount
        filesIndexed := r.indexed.length
        filesUnsupported := countKinds [.unsupportedLanguage] failures
        filesFailed := countKinds [.parseFailure, .workerFailure] failures
        filesCancelled := countKinds [.cancelled] failures
        definitions := model.countDefinitions }
    progress := r.progress }

/-- What is thrown when a shared resource is used up. -/
def faultOf (thrown : Thrown) : Thrown :=
  let wrapped : Thrown :=
    .failure
      { Failure.of .resource (Text.ofString "Resource exhausted during generation") with
        cause := some thrown.message }
  match thrown with
  | .failure f => if f.kind == .resource then thrown else wrapped
  | .value _ => wrapped

/-- The outcome of a run that is over. -/
def outcomeOf {ρ : Type} (fileCount : Nat) (r : Run ρ) : Outcome Generated :=
  match r.fault with
  | some thrown => .error (faultOf thrown)
  | none => .ok (resultOf fileCount r)

/-- Reports a result. -/
def reportResult {σ : Type} (concurrency : Number) (threads : Bool) (g : Generated) : Job σ Unit :=
  do
    Job.report (g.failures.map failureEntry)
    Job.note .info (if g.cancelled then "Generation cancelled" else "Generation complete")
      (g.stats.members ++ [("concurrency", .num concurrency), ("workerThreads", .bool threads)])

/-- The run over some files that the given worker count makes with a runner. -/
def runWith {ρ : Type} (R : Runner ρ) (runner : ρ) (options : GenerateOptions)
    (concurrency : Number) (files : List SourceFile) : Run ρ :=
  (Run.begin runner (Queue.ofFiles files) concurrency.floor.toNat
    (Queue.repeatFailures files)).complete R options.abortAfter

/-- The generation in process. -/
def runInProcess {σ : Type} (options : GenerateOptions) (concurrency : Number)
    (files : List SourceFile) : Job σ Generated := do
  let registry ← Job.registry
  let r := runWith (Runner.inProcess options.maxFileBytes) registry options concurrency files
  Job.setRegistry r.runner
  Job.report r.log
  Job.ofOutcome (outcomeOf files.length r)

/-- The generation with a pool of workers. -/
def runInPool {σ : Type} (script : WorkerScript) (options : GenerateOptions)
    (concurrency : Number) (files : List SourceFile) : Job σ Generated := do
  let pool ← Job.ofOutcome (Pool.startWith concurrency.ceil.toNat script.path script.found)
  Job.ofOutcome (outcomeOf files.length
    (runWith (Runner.inPool script options.maxFileBytes) ⟨pool, []⟩ options concurrency files))

/-- Generates a model and reports on it. -/
def perform {σ : Type} (options : GenerateOptions) (files : List SourceFile) : Job σ Generated :=
  do
    let queue := Queue.ofFiles files
    let concurrency :=
      resolveConcurrency (← Job.host).defaultConcurrency options.concurrency queue.length
    let workers := options.workers.filter fun _ => !queue.isEmpty
    let result ←
      match workers with
      | some script => runInPool script options concurrency files
      | none => runInProcess options concurrency files
    reportResult concurrency workers.isSome result
    return result

end Generation

/-- Generates the model of a list of source files. -/
def generate {σ : Type} (options : GenerateOptions) (files : List SourceFile) :
    Job σ Generated :=
  Job.span "callmap.generate" [("callmap.files.total", Json.ofNat files.length)] do
    let result ← Generation.perform options files
    Job.annotate
      [("callmap.files.indexed", Json.ofNat result.stats.filesIndexed),
        ("callmap.files.failed", Json.ofNat result.stats.filesFailed),
        ("callmap.definitions", Json.ofNat result.stats.definitions),
        ("callmap.cancelled", .bool result.cancelled)]
    return result

end CallAtlas
