import CallAtlas.Proofs.Sync.Reuse

/-!
# The calls that a refresh makes

Collaborators can be observed: each call is written down with its outcome, and nothing else changes.
What an observed job does is told by the calls that it makes and by its outcome, and for one job
after the other by the calls of both.
-/

namespace CallAtlas

namespace Refresh

/-- A call of a collaborator, with its outcome. -/
inductive Call where
  | load (outcome : Outcome (Option PersistedModel))
  | lookUp (outcome : Outcome (Option Text))
  | fetch (outcome : Outcome Unit)
  | generate (outcome : Outcome Generated)
  /-- The release of the snapshot that was fetched by the call at a place. -/
  | release (place : ℕ) (outcome : Outcome Unit)
  | save (path : Text) (model : RepoModel) (metadata : RepoMetadata) (outcome : Outcome Unit)

/-- A state with the calls that were made. -/
structure Observed (σ : Type) where
  world : σ
  calls : List Call := []

end Refresh

open Refresh

variable {σ α β : Type}

/-- A session in which the calls are observed, with those made before. -/
def Session.observed (s : Session σ) (calls : List Call) : Session (Observed σ) where
  host := s.host
  world := { world := s.world, calls }
  registry := s.registry
  log := s.log
  tracing := s.tracing

/-- A job that is written down as a call. -/
def Job.recorded (call : Outcome α → Call) (job : Job σ α) : Job (Observed σ) α := fun s =>
  let (outcome, t) := Job.onPart Observed.world (fun w o => { o with world := w }) job s
  (outcome, { t with world := { t.world with calls := t.world.calls ++ [call outcome] } })

/-- A snapshot whose release is written down, with the place of the call that fetched it. -/
def Snapshot.observed (place : ℕ) (snapshot : Snapshot σ) : Snapshot (Observed σ) where
  files := snapshot.files
  fingerprint := snapshot.fingerprint
  ref := snapshot.ref
  release := Job.recorded (.release place) snapshot.release

/-- A lookup that is written down. -/
def Refresh.observedLookup (lookup : FingerprintLookup σ) : FingerprintLookup (Observed σ) :=
  fun repository ref => Job.recorded .lookUp (lookup repository ref)

/-- A provider whose calls are written down. -/
def ContentProvider.observed (p : ContentProvider σ) : ContentProvider (Observed σ) where
  fetch repository ref := do
    let place := (← Job.world).calls.length
    let snapshot ← Job.recorded (fun o => .fetch (o.map fun _ => ())) (p.fetch repository ref)
    return snapshot.observed place
  fingerprint := p.fingerprint.map observedLookup

/-- Collaborators whose calls are written down. -/
def Collaborators.observed (c : Collaborators σ) : Collaborators (Observed σ) where
  provider := c.provider.observed
  fingerprints := c.fingerprints.map observedLookup
  store :=
    { load := fun path => Job.recorded .load (c.store.load path)
      save := fun path model metadata =>
        Job.recorded (.save path model metadata) (c.store.save path model metadata) }
  generate files := Job.recorded .generate (c.generate files)

namespace Job

/-! ## Observed jobs -/

/-- An observed job does what a job does, and the calls that it makes are told, with the number of
those made before and with the outcome. -/
def Observes (observed : Job (Observed σ) α) (job : Job σ α)
    (P : ℕ → List Call → Outcome α → Prop) : Prop :=
  ∀ (s : Session σ) (before : List Call), ∃ calls,
    observed.run (s.observed before) = ((job.run s).1, (job.run s).2.observed (before ++ calls))
      ∧ P before.length calls (job.run s).1

namespace Observes

variable {observed : Job (Observed σ) α} {job : Job σ α}
  {P Q : ℕ → List Call → Outcome α → Prop}

lemma mono (h : Observes observed job P) (hPQ : ∀ n calls o, P n calls o → Q n calls o) :
    Observes observed job Q := by
  intro s before
  obtain ⟨calls, hrun, hP⟩ := h s before
  exact ⟨calls, hrun, hPQ _ _ _ hP⟩

lemma give (a : α) :
    Observes (pure a : Job (Observed σ) α) (pure a) fun _ calls o => calls = [] ∧ o = .ok a := by
  intro s before
  exact ⟨[], by rw [List.append_nil]; rfl, rfl, rfl⟩

lemma throw (thrown : Thrown) : Observes (Job.throw thrown : Job (Observed σ) α) (Job.throw thrown)
    fun _ calls o => calls = [] ∧ o = .error thrown := by
  intro s before
  exact ⟨[], by rw [List.append_nil]; rfl, rfl, rfl⟩

lemma host : Observes (Job.host : Job (Observed σ) Host) Job.host fun _ calls _ => calls = [] := by
  intro s before
  exact ⟨[], by rw [List.append_nil]; rfl, rfl⟩

lemma report (entries : List LogEntry) : Observes (Job.report entries : Job (Observed σ) Unit)
    (Job.report entries) fun _ calls o => calls = [] ∧ o = .ok () := by
  intro s before
  exact ⟨[], by rw [List.append_nil]; rfl, rfl, rfl⟩

lemma annotate (named : List (String × Json)) :
    Observes (Job.annotate named : Job (Observed σ) Unit) (Job.annotate named)
      fun _ calls o => calls = [] ∧ o = .ok () := by
  intro s before
  exact ⟨[], by rw [List.append_nil]; rfl, rfl, rfl⟩

/-- A job that is written down is one call. -/
lemma recorded (call : Outcome α → Call) (job : Job σ α) :
    Observes (Job.recorded call job) job fun _ calls o => calls = [call o] := by
  intro s before
  exact ⟨[call (job.run s).1], rfl, rfl⟩

/-- One job after the other makes the calls of both, or those of the first one if it throws. -/
theorem bind {next' : α → Job (Observed σ) β} {next : α → Job σ β}
    {R : α → ℕ → List Call → Outcome β → Prop} (h : Observes observed job P)
    (hnext : ∀ a, Observes (next' a) (next a) (R a)) :
    Observes (observed >>= next') (job >>= next) fun n calls o =>
      (∃ thrown, o = .error thrown ∧ P n calls (.error thrown))
      ∨ ∃ a first second, calls = first ++ second ∧ P n first (.ok a)
        ∧ R a (n + first.length) second o := by
  intro s before
  obtain ⟨first, hrun, hP⟩ := h s before
  rw [run_bind, run_bind, hrun]
  rcases hjob : job.run s with ⟨thrown | a, t⟩
  · rw [hjob] at hP
    exact ⟨first, rfl, .inl ⟨thrown, rfl, hP⟩⟩
  · rw [hjob] at hP
    obtain ⟨second, hrun', hR⟩ := hnext a t (before ++ first)
    rw [List.length_append] at hR
    rw [List.append_assoc] at hrun'
    exact ⟨first ++ second, hrun', .inr ⟨a, first, second, rfl, hP, hR⟩⟩

/-- A job behind one that makes no calls. -/
lemma behind {first' : Job (Observed σ) Unit} {first : Job σ Unit}
    (h : Observes first' first fun _ calls o => calls = [] ∧ o = .ok ())
    (hnext : Observes observed job P) :
    Observes (first' >>= fun _ => observed) (first >>= fun _ => job) P := by
  refine (h.bind fun _ => hnext).mono ?_
  rintro n calls o (⟨thrown, -, -, herror⟩ | ⟨_, first, second, rfl, ⟨rfl, -⟩, hP⟩)
  · cases herror
  · exact hP

/-- The outcome of a job as a result. -/
lemma attempt (h : Observes observed job P) : Observes (Job.attempt observed) (Job.attempt job)
    fun n calls o => ∃ outcome, o = .ok outcome ∧ P n calls outcome := by
  intro s before
  obtain ⟨calls, hrun, hP⟩ := h s before
  refine ⟨calls, ?_, (job.run s).1, rfl, hP⟩
  have hattempt : (Job.attempt observed).run (s.observed before)
      = (.ok (observed.run (s.observed before)).1, (observed.run (s.observed before)).2) := rfl
  rw [hattempt, hrun]
  rfl

/-- A job with another one after it in any case. -/
lemma ensuring {cleanup' : Job (Observed σ) Unit} {cleanup : Job σ Unit}
    {R : ℕ → List Call → Outcome Unit → Prop} (h : Observes observed job P)
    (hcleanup : Observes cleanup' cleanup R) :
    Observes (observed.ensuring cleanup') (job.ensuring cleanup) fun n calls o =>
      ∃ first second o₁ o₂, calls = first ++ second ∧ P n first o₁
        ∧ R (n + first.length) second o₂ ∧ o = o₂.bind fun _ => o₁ := by
  intro s before
  obtain ⟨first, hrun, hP⟩ := h s before
  obtain ⟨second, hrun', hR⟩ := hcleanup (job.run s).2 (before ++ first)
  rw [List.length_append] at hR
  rw [run_ensuring, run_ensuring, hrun]
  simp only [hrun', List.append_assoc]
  exact ⟨first ++ second, rfl, first, second, _, _, rfl, hP, hR, rfl⟩

/-- A job with a span around it. -/
lemma span (h : Observes observed job P) (name : String) (own : List (String × Json)) :
    Observes (Job.span name own observed) (Job.span name own job)
      fun n calls o => ∃ inner, P n calls inner ∧ o = inner.mapError Thrown.asked := by
  intro s before
  obtain ⟨calls, hrun, hP⟩ := h (s.entering name own) before
  refine ⟨calls, ?_, _, hP, rfl⟩
  have hentering : (s.observed before).entering name own
      = (s.entering name own).observed before := rfl
  rw [run_span, run_span, hentering, hrun]
  rfl

end Observes

end Job

namespace Refresh

/-! ## Snapshots -/

/-- A snapshot that is fetched by a call is marked with the place of the call. -/
lemma run_fetch_observed (p : ContentProvider σ) (repository ref : Text) (s : Session σ)
    (before : List Call) :
    (p.observed.fetch repository ref).run (s.observed before)
      = (((p.fetch repository ref).run s).1.map (Snapshot.observed before.length),
          ((p.fetch repository ref).run s).2.observed
            (before ++ [.fetch (((p.fetch repository ref).run s).1.map fun _ => ())])) := by
  obtain ⟨calls, hrun, rfl⟩ := Job.Observes.recorded
    (fun o : Outcome (Snapshot σ) => Call.fetch (o.map fun _ => ())) (p.fetch repository ref) s
    before
  have hworld : (Job.world (σ := Observed σ)).run (s.observed before)
      = (.ok (s.observed before).world, s.observed before) := rfl
  rw [ContentProvider.observed, Job.run_bind, hworld]
  simp only
  rw [Job.run_bind, show (s.observed before).world.calls = before from rfl, hrun]
  cases ((p.fetch repository ref).run s).1 <;> rfl

/-- A snapshot is used between the call that fetches it and the one that releases it. -/
theorem observes_withSnapshot {p : ContentProvider σ} {repository ref : Text}
    {use' : Snapshot (Observed σ) → Job (Observed σ) α} {use : Snapshot σ → Job σ α}
    {R : List Call → Outcome α → Prop}
    (huse : ∀ place snapshot, Job.Observes (use' (snapshot.observed place)) (use snapshot)
      fun _ calls o => R calls o) :
    Job.Observes (p.observed.withSnapshot repository ref use') (p.withSnapshot repository ref use)
      fun n calls o => (∃ thrown, calls = [.fetch (.error thrown)] ∧ o = .error thrown)
        ∨ ∃ middle used released, calls = .fetch (.ok ()) :: middle ++ [.release n released]
          ∧ R middle used ∧ o = released.bind fun _ => used := by
  intro s before
  rw [ContentProvider.withSnapshot, ContentProvider.withSnapshot, Job.run_bind, Job.run_bind,
    run_fetch_observed]
  rcases hfetch : (p.fetch repository ref).run s with ⟨thrown | snapshot, t⟩
  · exact ⟨_, rfl, .inl ⟨thrown, rfl, rfl⟩⟩
  · obtain ⟨calls, hrun, middle, last, used, released, rfl, hR, rfl, ho⟩ :=
      (huse before.length snapshot).ensuring
        (.recorded (.release before.length) snapshot.release) t (before ++ [.fetch (.ok ())])
    rw [List.append_assoc] at hrun
    exact ⟨_, hrun, .inr ⟨middle, used, released, rfl, hR, ho⟩⟩

end Refresh

end CallAtlas
