import CallAtlas.Index.File

/-!
# A pool of workers

A pool has a fixed number of slots with one worker each. A task that is handed in waits in a queue
until a worker is idle, is posted to that worker, and is settled by what becomes of it: the
worker's answer, an error, or the end of the worker. A worker that ends is replaced, unless a
resource that all workers share is used up or the pool is shutting down.

The pool changes by events that may come in any order: messages of workers, errors in them, their
ends, and the end of the pool itself. Messages of workers that were replaced are passed over.
-/

namespace CallAtlas

/-- The answer of a worker. -/
inductive WorkerReply where
  | outcome (o : FileOutcome)
  /-- An error, with its code if it has one. -/
  | failed (message : Text) (code : Option Text)

/-- A task of a pool. -/
structure PoolTask where
  id : Nat
  file : SourceFile
deriving DecidableEq, Inhabited

/-- A place for a worker. -/
structure PoolSlot where
  /-- The number of the worker, which no other worker ever has. -/
  worker : Nat
  /-- The number of the place, which replacements keep. -/
  index : Nat
  /-- The task that the worker is at. -/
  current : Option PoolTask := none
deriving DecidableEq, Inhabited

/-- What became of a task. -/
abbrev TaskResult := Except Thrown FileOutcome

/-- A pool of workers. -/
structure Pool where
  slots : List PoolSlot
  queue : List PoolTask := []
  nextTask : Nat := 0
  nextWorker : Nat := 0
  shuttingDown : Bool := false
  /-- The error that tells that a shared resource is used up. -/
  fatal : Option Thrown := none
  /-- The tasks that were settled, the first one first. -/
  settled : List (Nat × TaskResult) := []
  /-- The tasks that were posted to workers, the first one first. -/
  posted : List Nat := []

/-- What happens to a pool. -/
inductive PoolEvent where
  /-- A worker answers a task. -/
  | message (worker task : Nat) (reply : WorkerReply)
  /-- An error was not caught in a worker. -/
  | error (worker : Nat) (thrown : Thrown)
  /-- A worker has ended. -/
  | exit (worker : Nat) (code : Int)
  /-- The pool is shut down. -/
  | shutdown

namespace Pool

/-- The error of a task that a pool does not take any more. -/
def shutDownError : Thrown := .ofKind .general (Text.ofString "Worker pool is shut down")

/-- The error of a worker. -/
def crash (message : Text) (code : Option Text) : Thrown :=
  .failure { Failure.of .workerCrash message with code := code.map Json.str }

/-- A pool of a size, all workers idle. -/
def start (size : Nat) : Pool :=
  { slots := (List.range size).map fun i => { worker := i, index := i }
    nextWorker := size }

/-- A pool whose workers run a script; none can be started if the script is missing. -/
def startWith (size : Nat) (script : Text) (found : Bool) : Except Thrown Pool :=
  if found then .ok (start size)
  else
    .error (.ofKind .resource
      (Text.ofString "Worker pool cannot start: " ++ script
        ++ Text.ofString " not found (run the build first)"))

/-- Puts a task into the first idle slot; none if all are busy. -/
def assign (t : PoolTask) : List PoolSlot → Option (List PoolSlot)
  | [] => none
  | s :: rest =>
    match s.current with
    | none => some ({ s with current := some t } :: rest)
    | some _ => (assign t rest).map (s :: ·)

/-- Posts waiting tasks to idle workers, as many as there are. -/
def postAll (slots : List PoolSlot) (posted : List Nat) :
    List PoolTask → List PoolSlot × List Nat × List PoolTask
  | [] => (slots, posted, [])
  | t :: rest =>
    match assign t slots with
    | none => (slots, posted, t :: rest)
    | some slots => postAll slots (posted ++ [t.id]) rest

/-- Posts waiting tasks, unless the pool is at its end. -/
def processQueue (p : Pool) : Pool :=
  if p.shuttingDown || p.fatal.isSome then p
  else
    let (slots, posted, queue) := postAll p.slots p.posted p.queue
    { p with slots, posted, queue }

/-- Why a pool takes no more tasks. -/
def refusal? (p : Pool) : Option Thrown :=
  match p.fatal with
  | some t => some t
  | none => if p.shuttingDown then some shutDownError else none

/-- Hands a file in. The new task has the next number. -/
def submit (p : Pool) (file : SourceFile) : Except Thrown Pool :=
  match p.refusal? with
  | some t => .error t
  | none =>
    .ok (processQueue
      { p with queue := p.queue ++ [⟨p.nextTask, file⟩], nextTask := p.nextTask + 1 })

/-- The slot of a worker that was not replaced. -/
def slotOf? (p : Pool) (worker : Nat) : Option PoolSlot := p.slots.find? fun s => s.worker = worker

/-- Changes the slot of a worker. -/
def setSlot (p : Pool) (worker : Nat) (slot : PoolSlot) : Pool :=
  { p with slots := p.slots.map fun s => if s.worker = worker then slot else s }

/-- Settles a task. -/
def settle (p : Pool) (task : Nat) (result : TaskResult) : Pool :=
  { p with settled := p.settled ++ [(task, result)] }

/-- Settles all waiting tasks with an error. -/
def rejectQueue (p : Pool) (t : Thrown) : Pool :=
  { p with queue := [], settled := p.settled ++ p.queue.map fun q => (q.id, .error t) }

/-- The result that a reply stands for. -/
def resultOf : WorkerReply → TaskResult
  | .outcome o => .ok o
  | .failed message code => .error (crash message code)

/-- A worker has answered a task. Answers to other tasks than its current one are passed over. -/
def answer (p : Pool) (worker task : Nat) (reply : WorkerReply) : Pool :=
  match p.slotOf? worker with
  | none => p
  | some s =>
    match s.current with
    | none => p
    | some t =>
      if t.id = task then
        processQueue ((p.setSlot worker { s with current := none }).settle task (resultOf reply))
      else p

/-- A worker cannot go on. Its task is settled with the error, and the worker is replaced if that
can help. -/
def failWorker (p : Pool) (worker : Nat) (t : Thrown) : Pool :=
  match p.slotOf? worker with
  | none => p
  | some s =>
    let p := p.setSlot worker { s with current := none }
    let p := match s.current with
      | some task => p.settle task.id (.error t)
      | none => p
    if p.shuttingDown || p.fatal.isSome then p
    else if t.isResourceExhaustion then rejectQueue { p with fatal := some t } t
    else
      let fresh : PoolSlot := { worker := p.nextWorker, index := s.index }
      processQueue { p.setSlot worker fresh with nextWorker := p.nextWorker + 1 }

/-- The error of a task whose worker has ended. -/
def exitError (index : Nat) (code : Int) : Thrown :=
  crash (Text.ofString ("Worker " ++ Nat.repr index ++ " exited with code " ++ toString code)) none

/-- What an event makes of a pool. -/
def step (p : Pool) : PoolEvent → Pool
  | .message worker task reply => p.answer worker task reply
  | .error worker t => p.failWorker worker t
  | .exit worker code =>
    if p.shuttingDown then p
    else
      match p.slotOf? worker with
      | none => p
      | some s => p.failWorker worker (exitError s.index code)
  | .shutdown => rejectQueue { p with shuttingDown := true } shutDownError

/-- The result of a task, if it is settled. -/
def result? (p : Pool) (task : Nat) : Option TaskResult := p.settled.lookup task

end Pool

end CallAtlas
