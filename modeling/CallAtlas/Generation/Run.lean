import CallAtlas.Generation.Queue
import CallAtlas.Workers.Script

/-!
# A run over the queue

Several workers share a queue of files. A ready worker takes the next file; when the file is
finished, its outcome is recorded and the worker is ready again. Workers stop when the queue is
empty, when the run was aborted, and when a resource that all files share is used up. Workers may
take files and finish them in any order, and a run may be aborted at any moment: `Run.Step` is the
relation of all these moves, and `Run.complete` is one way through them, in rounds.

What working on a file means is left to a runner.
-/

namespace CallAtlas

/-- How files are worked on. The state changes when a file is begun and when it is finished. -/
structure Runner (ρ : Type) where
  start : ρ → QueuedFile → ρ
  finish : ρ → QueuedFile → Except Thrown FileOutcome × ρ × List LogEntry

/-- Tells how far a run has come. -/
structure Progress where
  /-- The number of files that are finished. -/
  current : Nat
  /-- The number of files in the queue. -/
  total : Nat
  /-- The path of the file that was finished last. -/
  path : Text
deriving DecidableEq, Inhabited

/-- The state of a run. -/
structure Run (ρ : Type) where
  runner : ρ
  /-- The files that no worker took. -/
  waiting : List QueuedFile
  /-- The files that workers are at, in the order in which they were taken. -/
  inFlight : List QueuedFile := []
  /-- The number of workers that are about to take a file. -/
  ready : Nat
  /-- The number of files in the queue. -/
  total : Nat
  indexed : List (Text × FileModel) := []
  failures : List FileFailure := []
  /-- What told that a resource shared by all files is used up. -/
  fault : Option Thrown := none
  aborted : Bool := false
  progress : List Progress := []
  log : List LogEntry := []

namespace Run

variable {ρ : Type}

/-- The run before its first move. -/
def begin (runner : ρ) (queue : List QueuedFile) (workers : Nat) (failures : List FileFailure) :
    Run ρ :=
  { runner, waiting := queue, ready := workers, total := queue.length, failures }

/-- Does no worker take another file? -/
def stopped (r : Run ρ) : Bool := r.fault.isSome || r.aborted

/-- A ready worker takes the next file, or stops if there is none for it. -/
def take (R : Runner ρ) (r : Run ρ) : Run ρ :=
  if r.stopped then { r with ready := r.ready - 1 }
  else
    match r.waiting with
    | [] => { r with ready := r.ready - 1 }
    | f :: rest =>
      { r with
        ready := r.ready - 1
        waiting := rest
        inFlight := r.inFlight ++ [f]
        runner := R.start r.runner f }

/-- A file is finished, and its worker is ready again. -/
def advance (r : Run ρ) (path : Text) : Run ρ :=
  { r with
    ready := r.ready + 1
    progress := r.progress ++ [⟨r.progress.length + 1, r.total, path⟩] }

/-- The failure of a file whose worker threw something that concerns this file alone. The runners
below throw errors only, so there is always a message. -/
def workerFailure (f : QueuedFile) (thrown : Thrown) : FileFailure :=
  { path := f.path, kind := .workerFailure, message := thrown.message }

/-- Records what became of a file. A worker that found a shared resource used up stops. -/
def record (r : Run ρ) (f : QueuedFile) : Except Thrown FileOutcome → Run ρ
  | .ok (.indexed path file) => advance { r with indexed := r.indexed ++ [(path, file)] } f.path
  | .ok (.failed failure) => advance { r with failures := r.failures ++ [failure] } f.path
  | .error thrown =>
    if thrown.isResourceExhaustion then { r with fault := some thrown }
    else advance { r with failures := r.failures ++ [workerFailure f thrown] } f.path

/-- The file at a position of those in flight is finished. -/
def finishAt (R : Runner ρ) (r : Run ρ) (i : Nat) : Run ρ :=
  match r.inFlight[i]? with
  | none => r
  | some f =>
    let (outcome, runner, log) := R.finish r.runner f
    record { r with runner, inFlight := r.inFlight.eraseIdx i, log := r.log ++ log } f outcome

/-- The run is aborted. -/
def abort (r : Run ρ) : Run ρ := { r with aborted := true }

/-- The moves of a run. -/
inductive Step (R : Runner ρ) : Run ρ → Run ρ → Prop
  | take {r : Run ρ} (ready : 0 < r.ready) : Step R r (r.take R)
  | finish {r : Run ρ} (i : Nat) (inFlight : i < r.inFlight.length) : Step R r (r.finishAt R i)
  | abort {r : Run ρ} : Step R r r.abort

/-- The states that a run can come to. -/
inductive Reaches (R : Runner ρ) : Run ρ → Run ρ → Prop
  | refl {r : Run ρ} : Reaches R r r
  | step {r s t : Run ρ} (first : Reaches R r s) (last : Step R s t) : Reaches R r t

/-- Have all workers stopped? -/
def isOver (r : Run ρ) : Prop := r.ready = 0 ∧ r.inFlight = []

/-- All ready workers take a file or stop. -/
def takeAll (R : Runner ρ) : (workers : Nat) → Run ρ → Run ρ
  | 0, r => r
  | n + 1, r => takeAll R n (r.take R)

/-- Aborts the run if as many files are finished as were asked for. -/
def abortAt (count : Option Nat) (r : Run ρ) : Run ρ :=
  if count = some r.progress.length then r.abort else r

/-- All ready workers take a file, then the file that was taken first is finished. This goes on
for a number of files. -/
def rounds (R : Runner ρ) (abortAfter : Option Nat) : (files : Nat) → Run ρ → Run ρ
  | 0, r => takeAll R r.ready r
  | n + 1, r => rounds R abortAfter n (abortAt abortAfter (finishAt R (takeAll R r.ready r) 0))

/-- The run to its end, aborted after a number of finished files if there is such a number. -/
def complete (R : Runner ρ) (abortAfter : Option Nat) (r : Run ρ) : Run ρ :=
  rounds R abortAfter r.total (abortAt abortAfter r)

end Run

namespace Runner

/-- Indexes the files with a registry of adapters, one after the other. -/
def inProcess (maxFileBytes : Number) : Runner Registry where
  start r _ := r
  finish r f :=
    let (r, outcome, log) := Index.indexFile r maxFileBytes f.file
    (outcome, r, log)

end Runner

/-- A pool of workers with the tasks that were handed in, by path; some were refused. -/
structure PoolRun where
  pool : Pool
  tasks : List (Text × Except Thrown Nat) := []

namespace Runner

/-- Hands a file in to a pool. -/
def submitTo (p : PoolRun) (f : QueuedFile) : PoolRun :=
  match p.pool.submit f.file with
  | .ok pool => ⟨pool, p.tasks ++ [(f.path, .ok p.pool.nextTask)]⟩
  | .error thrown => ⟨p.pool, p.tasks ++ [(f.path, .error thrown)]⟩

/-- Waits until the task of a file is settled. -/
def awaitIn (script : WorkerScript) (maxFileBytes : Number) (p : PoolRun) (f : QueuedFile) :
    Except Thrown FileOutcome × PoolRun :=
  match p.tasks.lookup f.path with
  | some (.ok task) =>
    let pool :=
      if (p.pool.result? task).isSome then p.pool else p.pool.perform script maxFileBytes task
    ((pool.result? task).getD (.error Pool.shutDownError), { p with pool })
  | some (.error thrown) => (.error thrown, p)
  | none => (.error Pool.shutDownError, p)

/-- Has the files indexed by the workers of a pool. -/
def inPool (script : WorkerScript) (maxFileBytes : Number) : Runner PoolRun where
  start := submitTo
  finish p f :=
    let (outcome, p) := awaitIn script maxFileBytes p f
    (outcome, p, [])

end Runner

end CallAtlas
