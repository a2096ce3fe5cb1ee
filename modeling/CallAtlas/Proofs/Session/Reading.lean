import CallAtlas.Session.Job
import Mathlib.Tactic.Common

/-!
# Jobs that leave what they find

A job that only reads may report and trace, but it leaves the host, the state and the registry as
they are, and its outcome depends on these alone. Such jobs are put together from smaller ones, and
so are the functions that their outcomes are. Other jobs leave the host and a part of the state as
they are, whatever else they change.
-/

namespace CallAtlas

lemma Except.exists_of_bind_eq_ok {ε α β : Type} {x : Except ε α} {f : α → Except ε β} {b : β}
    (h : x.bind f = .ok b) : ∃ a, x = .ok a ∧ f a = .ok b := by
  cases x with
  | error e => cases h
  | ok a => exact ⟨a, rfl, h⟩

/-- Two sessions differ in the log and in the spans alone. -/
structure Session.Same {σ : Type} (s t : Session σ) : Prop where
  host : t.host = s.host
  world : t.world = s.world
  registry : t.registry = s.registry

namespace Session.Same

variable {σ : Type} {s t u : Session σ}

lemma refl (s : Session σ) : Session.Same s s := ⟨rfl, rfl, rfl⟩

lemma trans (hst : Session.Same s t) (htu : Session.Same t u) : Session.Same s u :=
  ⟨htu.host.trans hst.host, htu.world.trans hst.world, htu.registry.trans hst.registry⟩

end Session.Same

/-- The session in which a span was entered. -/
def Session.entering {σ : Type} (s : Session σ) (name : String) (own : List (String × Json)) :
    Session σ :=
  { s with tracing := s.tracing.enter (Text.ofString name) (Job.attributes own) }

/-- The session in which the span of an outcome was left. -/
def Session.leaving {σ α : Type} (s : Session σ) (o : Outcome α) : Session σ :=
  { s with tracing := s.tracing.leave (Job.thrown? o) }

namespace Job

variable {σ α β : Type}

/-- A job that leaves all but the log and the spans as it is, with its outcome as a function of what
it reads. -/
structure Reads (job : Job σ α) (f : Host → σ → Registry → Outcome α) : Prop where
  outcome : ∀ s, (job.run s).1 = f s.host s.world s.registry
  same : ∀ s, Session.Same s (job.run s).2

/-- The result of a job is handed on to the next one, or what was thrown is the outcome. -/
theorem run_bind (job : Job σ α) (next : α → Job σ β) (s : Session σ) :
    (job >>= next).run s
      = match job.run s with
        | (.ok a, s) => (next a).run s
        | (.error thrown, s) => (.error thrown, s) := rfl

lemma run_bind_of_eq_ok {job : Job σ α} {next : α → Job σ β} {s t : Session σ} {a : α}
    (h : job.run s = (.ok a, t)) : (job >>= next).run s = (next a).run t := by
  rw [run_bind, h]

/-- Two jobs that give a result both give one. -/
theorem run_bind_eq_ok {job : Job σ α} {next : α → Job σ β} {s t : Session σ} {b : β}
    (h : (job >>= next).run s = (.ok b, t)) :
    ∃ a u, job.run s = (.ok a, u) ∧ (next a).run u = (.ok b, t) := by
  rw [run_bind] at h
  rcases hjob : job.run s with ⟨thrown | a, u⟩
  · rw [hjob] at h
    cases h
  · rw [hjob] at h
    exact ⟨a, u, rfl, h⟩

/-- Of two jobs that throw one after the other, one throws. -/
theorem run_bind_eq_error {job : Job σ α} {next : α → Job σ β} {s t : Session σ} {thrown : Thrown}
    (h : (job >>= next).run s = (.error thrown, t)) :
    job.run s = (.error thrown, t)
      ∨ ∃ a u, job.run s = (.ok a, u) ∧ (next a).run u = (.error thrown, t) := by
  rw [run_bind] at h
  rcases hjob : job.run s with ⟨thrown' | a, u⟩
  · rw [hjob] at h
    obtain ⟨hthrown, rfl⟩ := Prod.mk.inj h
    rw [Except.error.inj hthrown]
    exact .inl rfl
  · rw [hjob] at h
    exact .inr ⟨a, u, rfl, h⟩

/-- A job that gives a result with a cleanup gives it without one. -/
theorem run_ensuring_eq_ok {job : Job σ α} {cleanup : Job σ Unit} {s t : Session σ} {a : α}
    (h : (job.ensuring cleanup).run s = (.ok a, t)) : ∃ u, job.run s = (.ok a, u) := by
  refine ⟨(job.run s).2, Prod.ext ?_ rfl⟩
  unfold run ensuring at h
  simp only at h
  split at h
  · exact (Prod.mk.inj h).1
  · cases (Prod.mk.inj h).1

/-- What a job does with a cleanup. -/
lemma run_ensuring (job : Job σ α) (cleanup : Job σ Unit) (s : Session σ) :
    (job.ensuring cleanup).run s
      = ((cleanup.run (job.run s).2).1.bind fun _ => (job.run s).1,
          (cleanup.run (job.run s).2).2) := by
  unfold run ensuring
  simp only
  split
  · next hcleanup => rw [hcleanup]; rfl
  · next hcleanup => rw [hcleanup]; rfl

lemma run_ensuring_of_eq_ok {job : Job σ α} {cleanup : Job σ Unit} {s t u : Session σ} {a : α}
    (h : job.run s = (.ok a, t)) (hcleanup : cleanup.run t = (.ok (), u)) :
    (job.ensuring cleanup).run s = (.ok a, u) := by
  rw [run_ensuring, h, hcleanup]
  rfl

lemma run_span (name : String) (own : List (String × Json)) (job : Job σ α) (s : Session σ) :
    (Job.span name own job).run s
      = ((job.run (s.entering name own)).1.mapError Thrown.asked,
          (job.run (s.entering name own)).2.leaving (job.run (s.entering name own)).1) := rfl

/-- Where errors are replaced, results stay. -/
lemma mapError_eq_ok_iff {o : Outcome α} {f : Thrown → Thrown} {a : α} :
    o.mapError f = .ok a ↔ o = .ok a := by
  cases o with
  | ok b => exact Iff.rfl
  | error thrown => constructor <;> intro h <;> cases h

lemma exists_of_run_span_eq_ok {name : String} {own : List (String × Json)} {job : Job σ α}
    {s t : Session σ} {a : α} (h : (Job.span name own job).run s = (.ok a, t)) :
    ∃ u, job.run (s.entering name own) = (.ok a, u) ∧ t = u.leaving (.ok a : Outcome α) := by
  rw [run_span] at h
  obtain ⟨houtcome, rfl⟩ := Prod.mk.inj h
  have hok := mapError_eq_ok_iff.mp houtcome
  exact ⟨_, Prod.ext hok rfl, by rw [hok]⟩

namespace Reads

variable {job : Job σ α} {f : Host → σ → Registry → Outcome α}

lemma give (a : α) : Reads (pure a : Job σ α) fun _ _ _ => .ok a :=
  ⟨fun _ => rfl, fun s => .refl s⟩

lemma throw (thrown : Thrown) : Reads (Job.throw thrown : Job σ α) fun _ _ _ => .error thrown :=
  ⟨fun _ => rfl, fun s => .refl s⟩

lemma world : Reads (Job.world : Job σ σ) fun _ w _ => .ok w :=
  ⟨fun _ => rfl, fun s => .refl s⟩

lemma registry : Reads (Job.registry : Job σ Registry) fun _ _ r => .ok r :=
  ⟨fun _ => rfl, fun s => .refl s⟩

lemma report (entries : List LogEntry) :
    Reads (Job.report entries : Job σ Unit) fun _ _ _ => .ok () :=
  ⟨fun _ => rfl, fun _ => ⟨rfl, rfl, rfl⟩⟩

lemma note (level : LogLevel) (message : String) (details : List (String × Json)) :
    Reads (Job.note level message details : Job σ Unit) fun _ _ _ => .ok () :=
  report _

lemma annotate (named : List (String × Json)) :
    Reads (Job.annotate named : Job σ Unit) fun _ _ _ => .ok () :=
  ⟨fun _ => rfl, fun _ => ⟨rfl, rfl, rfl⟩⟩

lemma ofOutcome (o : Outcome α) : Reads (Job.ofOutcome o : Job σ α) fun _ _ _ => o := by
  cases o with
  | ok a => exact give a
  | error thrown => exact throw thrown

/-- One job after the other. -/
theorem bind {next : α → Job σ β} {g : α → Host → σ → Registry → Outcome β} (h : Reads job f)
    (hnext : ∀ a, Reads (next a) (g a)) :
    Reads (job >>= next) fun host w r => (f host w r).bind fun a => g a host w r := by
  constructor
  · intro s
    have hout := h.outcome s
    have hsame := h.same s
    rw [run_bind]
    rcases hjob : job.run s with ⟨thrown | a, u⟩
    · rw [hjob] at hout
      rw [← hout]
      rfl
    · rw [hjob] at hout hsame
      rw [← hout]
      show ((next a).run u).1 = g a s.host s.world s.registry
      rw [(hnext a).outcome u, hsame.host, hsame.world, hsame.registry]
  · intro s
    have hsame := h.same s
    rw [run_bind]
    rcases hjob : job.run s with ⟨thrown | a, u⟩
    · rw [hjob] at hsame
      exact hsame
    · rw [hjob] at hsame
      exact hsame.trans ((hnext a).same u)

/-- A job behind one that only reports. -/
lemma behind {first : Job σ Unit} {next : Job σ β} {g : Host → σ → Registry → Outcome β}
    (h : Reads first fun _ _ _ => .ok ()) (hnext : Reads next g) :
    Reads (first >>= fun _ => next) g :=
  h.bind fun _ => hnext

/-- The outcome of a job as a result. -/
theorem attempt (h : Reads job f) : Reads (Job.attempt job) fun host w r => .ok (f host w r) :=
  ⟨fun s => congrArg Except.ok (h.outcome s), fun s => h.same s⟩

/-- A report on the result of a job leaves its outcome as it is. -/
theorem run_reported {job : Job σ α} {report : α → Job σ Unit}
    (h : ∀ a, Reads (report a) fun _ _ _ => .ok ()) (s : Session σ) :
    ((job >>= fun a => report a >>= fun _ => pure a).run s).1 = (job.run s).1 := by
  rw [run_bind]
  rcases hjob : job.run s with ⟨thrown | a, u⟩
  · rfl
  · exact (behind (h a) (give a)).outcome u

/-- Sessions that differ in the log and in the spans alone give the same outcome. -/
lemma outcome_eq_of_same (h : Reads job f) {s t : Session σ} (hst : Session.Same s t) :
    (job.run t).1 = f s.host s.world s.registry := by
  rw [h.outcome, hst.host, hst.world, hst.registry]

end Reads

end Job

/-! ## Jobs that leave a part of the state -/

section Leaving

variable {σ τ α β : Type}

/-- Two sessions have the same host and the same part of the state. -/
structure Session.SamePart (get : σ → τ) (s t : Session σ) : Prop where
  host : t.host = s.host
  part : get t.world = get s.world

lemma Session.SamePart.refl (get : σ → τ) (s : Session σ) : Session.SamePart get s s := ⟨rfl, rfl⟩

lemma Session.SamePart.trans {get : σ → τ} {s t u : Session σ} (h : Session.SamePart get s t)
    (h' : Session.SamePart get t u) : Session.SamePart get s u :=
  ⟨h'.host.trans h.host, h'.part.trans h.part⟩

/-- A session with a part of the state. -/
def Session.part (s : Session σ) (get : σ → τ) : Session τ where
  host := s.host
  world := get s.world
  registry := s.registry
  log := s.log
  tracing := s.tracing

namespace Job

lemma run_onPart (get : σ → τ) (set : τ → σ → σ) (job : Job τ α) (s : Session σ) :
    (Job.onPart get set job).run s
      = ((job.run (s.part get)).1,
          { host := (job.run (s.part get)).2.host
            world := set (job.run (s.part get)).2.world s.world
            registry := (job.run (s.part get)).2.registry
            log := (job.run (s.part get)).2.log
            tracing := (job.run (s.part get)).2.tracing }) := rfl

/-- A job on the whole state is a job on a part of it. -/
lemma onPart_id (job : Job σ α) : Job.onPart id (fun w _ => w) job = job := rfl

/-- A job that leaves a part of the state as it is. -/
def Leaves (get : σ → τ) (job : Job σ α) : Prop := ∀ s, Session.SamePart get s (job.run s).2

namespace Leaves

variable {get : σ → τ} {job : Job σ α}

lemma give (a : α) : Leaves get (pure a : Job σ α) := fun s => .refl get s

lemma throw (thrown : Thrown) : Leaves get (Job.throw thrown : Job σ α) := fun s => .refl get s

lemma host : Leaves get (Job.host : Job σ Host) := fun s => .refl get s

lemma report (entries : List LogEntry) : Leaves get (Job.report entries : Job σ Unit) :=
  fun _ => ⟨rfl, rfl⟩

lemma annotate (named : List (String × Json)) : Leaves get (Job.annotate named : Job σ Unit) :=
  fun _ => ⟨rfl, rfl⟩

/-- One job after the other, where the second one leaves the part if the first one gave its
result. -/
theorem bind {next : α → Job σ β} (h : Leaves get job)
    (hnext : ∀ s a t, job.run s = (.ok a, t) → Leaves get (next a)) :
    Leaves get (job >>= next) := by
  intro s
  have hjob := h s
  rw [run_bind]
  rcases hrun : job.run s with ⟨thrown | a, t⟩
  · rw [hrun] at hjob
    exact hjob
  · rw [hrun] at hjob
    exact hjob.trans (hnext s a t hrun t)

lemma behind {first : Job σ Unit} (h : Leaves get first) (hnext : Leaves get job) :
    Leaves get (first >>= fun _ => job) :=
  h.bind fun _ _ _ _ => hnext

lemma attempt (h : Leaves get job) : Leaves get (Job.attempt job) := fun s => h s

lemma of_reads {f : Host → σ → Registry → Outcome α} (h : Reads job f) : Leaves get job :=
  fun s => ⟨(h.same s).host, congrArg get (h.same s).world⟩

lemma setRegistry (r : Registry) : Leaves get (Job.setRegistry r : Job σ Unit) :=
  fun _ => ⟨rfl, rfl⟩

lemma ofOutcome (o : Outcome α) : Leaves get (Job.ofOutcome o : Job σ α) :=
  of_reads (.ofOutcome o)

lemma registry : Leaves get (Job.registry : Job σ Registry) := of_reads .registry

lemma span (h : Leaves get job) (name : String) (own : List (String × Json)) :
    Leaves get (Job.span name own job) := by
  intro s
  have hjob := h (s.entering name own)
  exact ⟨hjob.host, hjob.part⟩

lemma ensuring {cleanup : Job σ Unit} (h : Leaves get job) (hcleanup : Leaves get cleanup) :
    Leaves get (job.ensuring cleanup) := by
  intro s
  rw [run_ensuring]
  exact (h s).trans (hcleanup _)

end Leaves

end Job

end Leaving

end CallAtlas
