import CallAtlas.Failure

/-!
# A limiter of concurrent tasks

A limiter runs tasks, but only so many of them at once; the others wait in a queue. A task that
was started is settled by its result or by what it throws, and a little later its slot is
released: the next task is started, or, if no task is left, those who wait for the limiter to be
drained are told. New tasks may come in between any two of these moves.

Tasks, batches of tasks and waiters are known by their numbers.
-/

namespace CallAtlas

/-- What happens in a limiter. -/
inductive LimiterEvent (α : Type) where
  | started (task : Nat)
  | settled (task : Nat) (outcome : Except Thrown α)
  /-- All tasks of a batch have results, or one of them has thrown. -/
  | collected (batch : Nat) (outcome : Except Thrown (List α))
  | drained (waiter : Nat)

/-- The state of a limiter. -/
structure Limiter (α : Type) where
  /-- The number of tasks that may be active at once. -/
  most : Number
  /-- The number of slots in use. -/
  active : Nat := 0
  /-- The tasks that wait, the first one first. -/
  queue : List Nat := []
  /-- The tasks that were started and not yet settled. -/
  running : List Nat := []
  /-- The tasks that are settled and whose slots are still in use. -/
  releasing : List Nat := []
  /-- Those who wait for the limiter to be drained. -/
  waiters : List Nat := []
  /-- The tasks of the batches that are not collected. -/
  batches : List (Nat × List Nat) := []
  /-- What became of the tasks, the first one that was settled first. -/
  results : List (Nat × Except Thrown α) := []
  /-- What happened, the first event first. -/
  history : List (LimiterEvent α) := []
  /-- The number of the next task, batch or waiter. -/
  next : Nat := 0

namespace Limiter

variable {α : Type}

/-- A limiter; at least one task must be allowed at once. -/
def create (most : Number) : Except Failure (Limiter α) :=
  if most < 1 then
    .error (.of .general (Text.ofString "maxConcurrency must be at least 1"))
  else .ok { most }

/-- Is a slot free? -/
def hasSlot (l : Limiter α) : Bool := (((l.active : Nat) : Int) : Number) < l.most

/-- Starts a task. -/
def start (l : Limiter α) (task : Nat) : Limiter α :=
  { l with
    active := l.active + 1
    running := l.running ++ [task]
    history := l.history ++ [.started task] }

/-- Hands in a task, which has the next number. It is started if a slot is free. -/
def run (l : Limiter α) : Limiter α :=
  let task := l.next
  let l := { l with next := l.next + 1 }
  if l.hasSlot then l.start task else { l with queue := l.queue ++ [task] }

/-- Hands in a number of tasks. -/
def runMany : Nat → Limiter α → Limiter α
  | 0, l => l
  | n + 1, l => runMany n l.run

/-- The results of tasks in their order, if all of them have one. -/
def resultsOf (results : List (Nat × Except Thrown α)) : List Nat → Option (List α)
  | [] => some []
  | t :: ts =>
    match results.lookup t with
    | some (.ok a) => (resultsOf results ts).map (a :: ·)
    | _ => none

/-- What a batch amounts to, as soon as that is known: what one of its tasks has thrown, or all
results. -/
def collect? (l : Limiter α) (tasks : List Nat) : Option (Except Thrown (List α)) :=
  match l.results.find? fun r => tasks.contains r.1 && !r.2.isOk with
  | some (_, .error thrown) => some (.error thrown)
  | _ => (resultsOf l.results tasks).map .ok

/-- Collects the batches for which that is possible. -/
def collectBatches (l : Limiter α) : Limiter α :=
  { l with
    batches := l.batches.filter fun b => (l.collect? b.2).isNone
    history := l.history ++ l.batches.filterMap fun b =>
      (l.collect? b.2).map fun outcome => .collected b.1 outcome }

/-- Hands in the tasks of a batch, whose numbers follow that of the batch. -/
def map (l : Limiter α) (count : Nat) : Limiter α :=
  let batch := l.next
  let tasks := (List.range count).map fun i => batch + 1 + i
  let l := runMany count { l with next := l.next + 1 }
  collectBatches { l with batches := l.batches ++ [(batch, tasks)] }

/-- A running task is settled. -/
def settle (l : Limiter α) (task : Nat) (outcome : Except Thrown α) : Limiter α :=
  if l.running.contains task then
    collectBatches
      { l with
        running := l.running.erase task
        releasing := l.releasing ++ [task]
        results := l.results ++ [(task, outcome)]
        history := l.history ++ [.settled task outcome] }
  else l

/-- Starts the next task, or tells those who wait that none is left. -/
def advance (l : Limiter α) : Limiter α :=
  match l.queue with
  | task :: rest => { l with queue := rest }.start task
  | [] =>
    if l.active = 0 then
      { l with waiters := [], history := l.history ++ l.waiters.map .drained }
    else l

/-- The slot of a settled task is released. -/
def release (l : Limiter α) (task : Nat) : Limiter α :=
  if l.releasing.contains task then
    advance { l with active := l.active - 1, releasing := l.releasing.erase task }
  else l

/-- Somebody, who has the next number, waits until no task is active or waits. -/
def drain (l : Limiter α) : Limiter α :=
  let waiter := l.next
  let l := { l with next := l.next + 1 }
  if l.active = 0 ∧ l.queue = [] then { l with history := l.history ++ [.drained waiter] }
  else { l with waiters := l.waiters ++ [waiter] }

end Limiter

end CallAtlas
