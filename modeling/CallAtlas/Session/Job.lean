import CallAtlas.Host
import CallAtlas.Registry.Basic
import CallAtlas.Trace.Basic

/-!
# Jobs

A job is an operation that may throw and that changes a session: the registry of adapters, the
log, the spans, and a state `σ` of the things that the job works on. What was thrown does not undo
the changes made before it.
-/

namespace CallAtlas

/-- What jobs share. -/
structure Session (σ : Type) where
  host : Host
  /-- The state of the things that the jobs work on. -/
  world : σ
  registry : Registry := .initial
  /-- What was reported, the first entry first. -/
  log : List LogEntry := []
  tracing : Tracing := {}

/-- The outcome of a job: a result or what was thrown. -/
abbrev Outcome (α : Type) := Except Thrown α

/-- An operation on a session. -/
def Job (σ α : Type) := Session σ → Outcome α × Session σ

namespace Job

variable {σ τ α β : Type}

/-- Runs a job. -/
def run (job : Job σ α) (s : Session σ) : Outcome α × Session σ := job s

/-- The job that does nothing but give a result. -/
def give (a : α) : Job σ α := fun s => (.ok a, s)

/-- The job that does nothing but throw. -/
def throw (thrown : Thrown) : Job σ α := fun s => (.error thrown, s)

/-- One job after the other; the second one is left out if the first one throws. -/
def andThen (job : Job σ α) (next : α → Job σ β) : Job σ β := fun s =>
  match job s with
  | (.ok a, s) => next a s
  | (.error thrown, s) => (.error thrown, s)

instance : Monad (Job σ) where
  pure := give
  bind := andThen

/-- A job whose outcome is known. -/
def ofOutcome : Outcome α → Job σ α
  | .ok a => give a
  | .error thrown => throw thrown

/-- The outcome of a job as a result. -/
def attempt (job : Job σ α) : Job σ (Outcome α) := fun s =>
  let (outcome, s) := job s
  (.ok outcome, s)

/-- A job with another one that is done in any case after it. What the other one throws takes the
place of the outcome. -/
def ensuring (job : Job σ α) (cleanup : Job σ Unit) : Job σ α := fun s =>
  let (outcome, s) := job s
  match cleanup s with
  | (.ok (), s) => (outcome, s)
  | (.error thrown, s) => (.error thrown, s)

/-- The state of the things that the job works on. -/
def world : Job σ σ := fun s => (.ok s.world, s)

/-- Changes the state of the things that the job works on. -/
def change (f : σ → σ) : Job σ Unit := fun s => (.ok (), { s with world := f s.world })

/-- The machine that the program runs on. -/
def host : Job σ Host := fun s => (.ok s.host, s)

/-- The registry of adapters. -/
def registry : Job σ Registry := fun s => (.ok s.registry, s)

/-- Puts another registry into the place of the present one. -/
def setRegistry (r : Registry) : Job σ Unit := fun s => (.ok (), { s with registry := r })

/-- Reports entries. -/
def report (entries : List LogEntry) : Job σ Unit := fun s =>
  (.ok (), { s with log := s.log ++ entries })

/-- Reports an entry with values as details. -/
def note (level : LogLevel) (message : String) (details : List (String × Json)) : Job σ Unit :=
  report [.withValues level (Text.ofString message) details]

/-- Changes the state of tracing. -/
def trace (f : Tracing → Tracing) : Job σ Unit := fun s =>
  (.ok (), { s with tracing := f s.tracing })

/-- Attributes with values. -/
def attributes (named : List (String × Json)) : List (Text × Option Json) :=
  named.map fun a => (Text.ofString a.1, some a.2)

/-- Sets attributes of the innermost span. -/
def annotate (named : List (String × Json)) : Job σ Unit :=
  trace fun t => t.annotate (attributes named)

/-- What was thrown, if anything. -/
def thrown? : Outcome α → Option Thrown
  | .ok _ => none
  | .error thrown => some thrown

/-- A job with a span around it. The span asks what was thrown for its text. -/
def spanned (name : Text) (own : List (Text × Option Json)) (job : Job σ α) : Job σ α := fun s =>
  let (outcome, s) := job { s with tracing := s.tracing.enter name own }
  (outcome.mapError Thrown.asked, { s with tracing := s.tracing.leave (thrown? outcome) })

/-- A job with a span around it. -/
def span (name : String) (own : List (String × Json)) (job : Job σ α) : Job σ α :=
  spanned (Text.ofString name) (attributes own) job

/-- A job on a part of the state. -/
def onPart (get : σ → τ) (set : τ → σ → σ) (job : Job τ α) : Job σ α := fun s =>
  let (outcome, t) :=
    job
      { host := s.host, world := get s.world, registry := s.registry, log := s.log
        tracing := s.tracing }
  (outcome,
    { host := t.host, world := set t.world s.world, registry := t.registry, log := t.log
      tracing := t.tracing })

end Job

end CallAtlas
