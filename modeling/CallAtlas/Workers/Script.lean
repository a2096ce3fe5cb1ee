import CallAtlas.Workers.Pool

/-!
# What workers do

A worker takes the tasks posted to it and either answers or ends. The workers of a pool all run
the same script. The indexing script processes files with a registry of its own, which is the one
that a program begins with: it knows the built-in adapters only. Of an error nothing but the message
and the code gets into the answer.
-/

namespace CallAtlas

/-- What a worker does with a file. -/
inductive WorkerReaction where
  | reply (r : WorkerReply)
  /-- The worker ends without an answer. -/
  | exit (code : Int)

/-- What the workers of a pool run. -/
structure WorkerScript where
  path : Text
  /-- Does the script exist? -/
  found : Bool
  react : (maxFileBytes : Number) → SourceFile → WorkerReaction

namespace WorkerScript

/-- The answer of a worker that indexes a file with a registry of its own. -/
def index (builtins : Registry) (maxFileBytes : Number) (file : SourceFile) : WorkerReply :=
  match (Index.indexFile builtins maxFileBytes file).2.1 with
  | .ok o => .outcome o
  | .error t => .failed t.message t.codeText

/-- The script that indexes files, in a program that begins with a registry. -/
def indexingWith (builtins : Registry) : WorkerScript where
  path := Text.ofString "worker"
  found := true
  react := fun maxFileBytes file => .reply (index builtins maxFileBytes file)

/-- The script that indexes files. -/
def indexing : WorkerScript := indexingWith .initial

/-- The event of a worker that is at a task. -/
def eventOf (script : WorkerScript) (maxFileBytes : Number) (s : PoolSlot) (t : PoolTask) :
    PoolEvent :=
  match script.react maxFileBytes t.file with
  | .reply r => .message s.worker t.id r
  | .exit code => .exit s.worker code

end WorkerScript

namespace Pool

/-- The slot that is at a task. -/
def holder? (p : Pool) (task : Nat) : Option (PoolSlot × PoolTask) :=
  p.slots.findSome? fun s => (s.current.filter fun t => t.id = task).map fun t => (s, t)

/-- The worker that is at a task does what its script says. -/
def perform (p : Pool) (script : WorkerScript) (maxFileBytes : Number) (task : Nat) : Pool :=
  match p.holder? task with
  | some (s, t) => p.step (script.eventOf maxFileBytes s t)
  | none => p

/-- Hands files in, one after the other, as long as the pool takes them. -/
def submitAll (p : Pool) (files : List SourceFile) : Pool :=
  files.foldl (fun p file =>
    match p.submit file with
    | .ok p => p
    | .error _ => p) p

/-- Waits for tasks one after the other, each of which its worker brings to an end. -/
def waitFor (p : Pool) (script : WorkerScript) (maxFileBytes : Number) (tasks : List Nat) : Pool :=
  tasks.foldl (fun p task => p.perform script maxFileBytes task) p

end Pool

end CallAtlas
