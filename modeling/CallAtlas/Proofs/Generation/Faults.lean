import CallAtlas.Proofs.Generation.Model

/-!
# What adapters throw

An adapter that throws while it is at a file concerns this file alone, unless what it throws tells
that a shared resource is used up. Such a fault ends a generation in process: no file is taken any
more, and the generation throws. Whether this happens is told by the files and their adapters; the
number of workers and the order in which they finish have no part in it.

Other things that adapters throw become failures of their files. A value that has no text is the one
exception: asking for its text throws an error, which is then the failure of a worker.
-/

namespace CallAtlas

namespace Index

/-! ## One file -/

/-- The failure of a file whose adapter threw something that concerns this file alone. -/
def failureOfThrown (path : Text) (thrown : Thrown) : FileFailure :=
  match thrown.text? with
  | some message => { path, kind := .parseFailure, message, line := lineOf thrown }
  | none => { path, kind := .workerFailure, message := Thrown.withoutText.message }

variable {v : RegistryView} {maxFileBytes : Number} {file : SourceFile} {thrown : Thrown}

lemma outcomeIn_of_thrownIn (h : thrownIn v maxFileBytes file = some thrown) :
    outcomeIn v maxFileBytes file = settleThrown (Path.normalize file.path) thrown := by
  rcases outcomeIn_cases v maxFileBytes file with ⟨hnone, -⟩ | ⟨t, ht, hout⟩
  · rw [hnone] at h
    cases h
  · rw [ht] at h
    rw [hout, Option.some.inj h]

/-- A file raises a fault just if its adapter throws that a shared resource is used up. -/
lemma isSome_faultIn_outcomeIn (v : RegistryView) (maxFileBytes : Number) (file : SourceFile) :
    (Run.faultIn (outcomeIn v maxFileBytes file)).isSome
      = (thrownIn v maxFileBytes file).any Thrown.isResourceExhaustion := by
  rcases outcomeIn_cases v maxFileBytes file with ⟨hnone, ⟨o, hout⟩ | hout⟩ | ⟨t, ht, hout⟩
  · rw [hnone, hout]
    rfl
  · rw [hnone, hout, Run.faultIn, isResourceExhaustion_withoutText]
    rfl
  · rw [ht, hout, Option.any_some]
    rcases settleThrown_cases (Path.normalize file.path) t with
      ⟨hexhausted, f, hsettled, hkind⟩ | ⟨hcalm, ⟨message, -, hsettled⟩ | ⟨-, hsettled⟩⟩
    · have hresource : (Thrown.failure f).isResourceExhaustion = true := by
        simp [Thrown.isResourceExhaustion, hkind]
      rw [hsettled, Run.faultIn, if_pos hresource, hexhausted]
      rfl
    · rw [hsettled, hcalm]
      rfl
    · rw [hsettled, Run.faultIn, isResourceExhaustion_withoutText, hcalm]
      rfl

/-- Anything else that an adapter throws is a failure of its file, which is not in the model. -/
lemma failureIn_of_thrownIn (h : thrownIn v maxFileBytes file = some thrown)
    (hcalm : thrown.isResourceExhaustion = false) :
    Run.failureIn (Queue.queued file) (outcomeIn v maxFileBytes file)
        = some (failureOfThrown (Path.normalize file.path) thrown)
      ∧ Run.indexedIn (outcomeIn v maxFileBytes file) = none := by
  rw [outcomeIn_of_thrownIn h, failureOfThrown]
  rcases settleThrown_cases (Path.normalize file.path) thrown with
    ⟨hexhausted, -⟩ | ⟨-, ⟨message, htext, hsettled⟩ | ⟨htext, hsettled⟩⟩
  · rw [hcalm] at hexhausted
    cases hexhausted
  · rw [hsettled, htext]
    exact ⟨rfl, rfl⟩
  · rw [hsettled, htext, Run.failureIn, isResourceExhaustion_withoutText]
    exact ⟨rfl, rfl⟩

end Index

namespace Run

/-! ## A run with a fault -/

variable {ρ : Type} {R : Runner ρ}

/-- After a fault no move takes a file, and the fault stays. -/
lemma Step.of_fault {r s : Run ρ} (h : Step R r s) (hfault : r.fault.isSome) :
    s.fault.isSome ∧ s.waiting = r.waiting ∧ s.inFlight.Sublist r.inFlight := by
  cases h with
  | take hready =>
    rcases take_cases R r with ⟨-, htake⟩ | ⟨f, rest, hstopped, -, -⟩
    · rw [htake]
      exact ⟨hfault, rfl, .refl _⟩
    · rw [stopped, hfault] at hstopped
      cases hstopped
  | finish i hi =>
    rw [finishAt_eq R (List.getElem?_eq_getElem hi), record_eq]
    cases faultIn (R.finish r.runner r.inFlight[i]).1 with
    | none => exact ⟨hfault, rfl, List.eraseIdx_sublist _ _⟩
    | some thrown => exact ⟨rfl, rfl, List.eraseIdx_sublist _ _⟩
  | abort => exact ⟨hfault, rfl, .refl _⟩

/-- Once there is a fault, no file is taken any more. -/
theorem Reaches.of_fault {r s : Run ρ} (h : Reaches R r s) (hfault : r.fault.isSome) :
    s.fault.isSome ∧ s.waiting = r.waiting ∧ s.inFlight.Sublist r.inFlight := by
  induction h with
  | refl => exact ⟨hfault, rfl, .refl _⟩
  | step _ last ih =>
    obtain ⟨hfault', hwaiting, hflight⟩ := ih
    obtain ⟨hlast, hwaiting', hflight'⟩ := last.of_fault hfault'
    exact ⟨hlast, hwaiting'.trans hwaiting, hflight'.trans hflight⟩

/-- A run that nobody aborts meets a fault just if a file of its queue raises one. -/
lemma Books.isSome_fault_iff {outcome : QueuedFile → Except Thrown FileOutcome}
    {queue taken done : List QueuedFile} {workers : Nat} {repeated : List FileFailure} {r : Run ρ}
    (hb : Books outcome queue workers repeated taken done r) (hworkers : 0 < workers)
    (hover : r.isOver) (haborted : r.aborted = false) :
    r.fault.isSome ↔ ∃ f ∈ queue, (faultIn (outcome f)).isSome := by
  have hdone : ∀ f ∈ done, f ∈ queue := by
    intro f hf
    rw [← hb.queue_eq]
    exact List.mem_append_left _ ((hb.done_perm hover).mem_iff.mp hf)
  constructor
  · intro hfault
    obtain ⟨t, ht⟩ := Option.isSome_iff_exists.mp hfault
    rw [hb.fault] at ht
    obtain ⟨f, hf, hft⟩ := List.mem_filterMap.mp (List.mem_of_getLast? ht)
    exact ⟨f, hdone f hf, by rw [hft]; rfl⟩
  · rintro ⟨f, hf, hsome⟩
    by_contra hnone
    rw [Option.isSome_iff_ne_none, not_not] at hnone
    -- Without a fault the workers go on until the queue is done, this file included.
    have hstopped : r.stopped = false := by
      rw [stopped, hnone, haborted]
      rfl
    have hempty := hb.waiting_eq_nil hworkers hover hstopped
    have hall := hb.queue_eq
    rw [hempty, List.append_nil] at hall
    have hfdone : f ∈ done := (hb.done_perm hover).mem_iff.mpr (hall ▸ hf)
    have hfaults := hb.fault
    rw [hnone, eq_comm, List.getLast?_eq_none_iff, List.filterMap_eq_nil_iff] at hfaults
    rw [hfaults f hfdone] at hsome
    cases hsome

end Run

namespace Generation

open Run

/-! ## What a generation makes of it -/

/-- Does the adapter of a file in the queue throw that a shared resource is used up? -/
def Exhausts (v : RegistryView) (maxFileBytes : Number) (files : List SourceFile) : Prop :=
  ∃ f ∈ queueOf files,
    (Index.thrownIn v maxFileBytes f.file).any Thrown.isResourceExhaustion = true

variable {registry : Registry} {maxFileBytes : Number} {files : List SourceFile}

lemma outcome_inProcess (registry : Registry) (maxFileBytes : Number) (f : QueuedFile) :
    (Indexing.inProcess registry).outcome maxFileBytes f
      = Index.outcomeIn registry.view maxFileBytes f.file :=
  (Index.indexFile_spec registry maxFileBytes f.file).2

/-- What the adapter of a file throws is told as a failure of this file, besides the failures of
repeated paths, and the file is not in the model. -/
lemma Accounts.of_thrownIn {done : List QueuedFile} {g : Generated} {f : QueuedFile} {t : Thrown}
    (h : Accounts files ((Indexing.inProcess registry).outcome maxFileBytes)
      (queueOf files).length done g)
    (hf : f ∈ queueOf files) (ht : Index.thrownIn registry.view maxFileBytes f.file = some t)
    (hcalm : t.isResourceExhaustion = false) :
    f.path ∉ g.model.files.map Prod.fst
      ∧ (g.failures.filter fun e => e.path = f.path).Perm
          (((duplicateFailures files).filter fun e => e.path = f.path)
            ++ [Index.failureOfThrown f.path t]) := by
  obtain ⟨file, -, rfl⟩ := List.mem_map.mp hf
  rw [show (Queue.queued file).file = file from rfl] at ht
  obtain ⟨hfailure, hindexed⟩ := Index.failureIn_of_thrownIn ht hcalm
  have hout := outcome_inProcess registry maxFileBytes (Queue.queued file)
  rw [show Index.outcomeIn registry.view maxFileBytes file = _ from hout.symm] at hfailure hindexed
  have hnodup := nodup_map_path_queueOf files
  constructor
  · intro hmem
    obtain ⟨⟨path, m⟩, hin, hpath⟩ := List.mem_map.mp hmem
    obtain ⟨f', hf', hpath', hout⟩ := (h.mem_files_iff path m).mp hin
    rw [List.take_length] at hf'
    -- The file under this path is the only one.
    obtain rfl : f' = Queue.queued file :=
      List.inj_on_of_nodup_map hnodup hf' hf (hpath'.trans hpath)
    rw [hout] at hindexed
    cases hindexed
  · have hall := h.failures_perm.filter fun e => decide (e.path = (Queue.queued file).path)
    rw [List.take_length, List.drop_length, List.map_nil, List.append_nil, List.filter_append]
      at hall
    have hpath := (Indexing.inProcess registry).path_of_failureIn_queueOf maxFileBytes files
    rw [filter_filterMap_eq hpath hnodup hf, hfailure] at hall
    exact hall

section

variable {concurrency : Number} {taken done : List QueuedFile} {r : Run Registry}

/-- A run in process that nobody aborts meets a fault just if an adapter raises one. -/
lemma isSome_fault_iff_exhausts
    (hb : Books ((Indexing.inProcess registry).outcome maxFileBytes) (queueOf files)
      concurrency.floor.toNat (duplicateFailures files) taken done r)
    (hworkers : 0 < concurrency.floor.toNat) (hover : r.isOver) (haborted : r.aborted = false) :
    r.fault.isSome ↔ Exhausts registry.view maxFileBytes files := by
  rw [hb.isSome_fault_iff hworkers hover haborted, Exhausts]
  apply exists_congr
  intro f
  rw [outcome_inProcess, Index.isSome_faultIn_outcomeIn]

/-- Unless an adapter raises a fault, such a run accounts for all files. -/
lemma exists_accounts_of_not_exhausts
    (hb : Books ((Indexing.inProcess registry).outcome maxFileBytes) (queueOf files)
      concurrency.floor.toNat (duplicateFailures files) taken done r)
    (hworkers : 0 < concurrency.floor.toNat) (hover : r.isOver) (haborted : r.aborted = false)
    (hcalm : ¬ Exhausts registry.view maxFileBytes files) :
    ∃ g, outcomeOf files.length r = .ok g
      ∧ Accounts files ((Indexing.inProcess registry).outcome maxFileBytes)
          (queueOf files).length done g := by
  have hfree : ∀ f ∈ queueOf files,
      faultIn ((Indexing.inProcess registry).outcome maxFileBytes f) = none := by
    intro f hf
    rw [outcome_inProcess, ← Option.not_isSome_iff_eq_none, Index.isSome_faultIn_outcomeIn]
    exact fun hany => hcalm ⟨f, hf, hany⟩
  have hdone := (hb.fault_eq_none hover hfree).2
  have haccounts := accounts_of_books hb hover hdone
    ((Indexing.inProcess registry).path_of_outcome_queueOf maxFileBytes files)
  -- All files of the queue were taken.
  have htaken : taken.length = (queueOf files).length := by
    rw [← (hb.done_perm hover).length_eq]
    exact (hb.done_perm_queue hworkers hover hfree haborted).2.length_eq
  rw [htaken] at haccounts
  exact ⟨_, outcomeOf_eq_ok hb hdone _, haccounts⟩

end

/-- A generation in process is a run that nobody aborts. Each such run ends, with any number of
workers in whatever order they finish, and a fault on the way keeps all further files from being
taken. It throws that a resource is used up just if the adapter of a file in the queue throws this,
and then it gives no model. Otherwise it gives a model, and what the adapter of a file throws is a
failure of this file. -/
theorem faults_of_generation {σ : Type} (options : GenerateOptions) (files : List SourceFile)
    (s : Session σ) (hworkers : options.workers = none) (habort : options.abortAfter = none) :
    let thrown := fun f : QueuedFile =>
      Index.thrownIn s.registry.view options.maxFileBytes f.file
    let x := Indexing.inProcess s.registry
    let R := x.runner options.maxFileBytes
    (∃ done r, Finishes R (x.begin (concurrencyOf options s.host files) files) done r
        ∧ r.isOver ∧ r.aborted = false
        ∧ ((generate options files).run s).1 = outcomeOf files.length r)
    ∧ ∀ (byDefault : ℕ) (wanted : Option Number),
        let concurrency := resolveConcurrency byDefault wanted (queueOf files).length
        ∀ done r, Finishes R (x.begin concurrency files) done r →
          (∀ t, Step R r t → t = r.abort ∨ t.remaining < r.remaining)
          ∧ (¬ r.isOver → ∃ t, Step R r t ∧ t.remaining < r.remaining)
          ∧ (r.fault.isSome → ∀ t, Reaches R r t →
              t.fault.isSome ∧ t.waiting = r.waiting ∧ t.inFlight.Sublist r.inFlight)
          ∧ (r.isOver → r.aborted = false →
              (Exhausts s.registry.view options.maxFileBytes files →
                ∃ f, outcomeOf files.length r = .error (.failure f) ∧ f.kind = .resource)
              ∧ (¬ Exhausts s.registry.view options.maxFileBytes files →
                ∃ g, outcomeOf files.length r = .ok g
                  ∧ Accounts files (x.outcome options.maxFileBytes) (queueOf files).length done g
                  ∧ ∀ f ∈ queueOf files, ∀ t, thrown f = some t →
                      f.path ∉ g.model.files.map Prod.fst
                      ∧ (g.failures.filter fun e => e.path = f.path).Perm
                          (((duplicateFailures files).filter fun e => e.path = f.path)
                            ++ [Index.failureOfThrown f.path t]))) := by
  intro thrown x R
  constructor
  · have hx : indexingOf options s.registry files = x := by
      rw [indexingOf, indexingIn, hworkers]
      rfl
    have hrun := run_generate options files s (by simp [hworkers])
    rw [hx] at hrun
    obtain ⟨done, hdone⟩ := reaches_iff_exists_finishes.mp
      (reaches_complete R options.abortAfter (x.begin (concurrencyOf options s.host files) files))
    exact ⟨done, _, hdone, isOver_complete _ _ _ _ _ _, aborted_runWith (x := x) habort, hrun⟩
  · intro byDefault wanted concurrency done r h
    refine ⟨fun t => Step.remaining_lt, exists_step_of_not_isOver R,
      fun hfault t ht => ht.of_fault hfault, fun hover haborted => ?_⟩
    have hpos := floor_resolveConcurrency_pos byDefault wanted (queueOf files).length
    rw [x.begin_eq concurrency files] at h
    obtain ⟨taken, hb, -⟩ := books_of_finishes (x.serves options.maxFileBytes _)
      (nodup_map_path_queueOf files) (x.keeps_start concurrency) h
    constructor
    · intro hexhausts
      obtain ⟨t, ht⟩ := Option.isSome_iff_exists.mp
        ((isSome_fault_iff_exhausts hb hpos hover haborted).mpr hexhausts)
      obtain ⟨f, hf, hkind⟩ := exists_faultOf_eq t
      exact ⟨f, by rw [outcomeOf, ht, ← hf], hkind⟩
    · intro hcalm
      obtain ⟨g, hg, haccounts⟩ := exists_accounts_of_not_exhausts hb hpos hover haborted hcalm
      refine ⟨g, hg, haccounts, fun f hf t ht => haccounts.of_thrownIn hf ht ?_⟩
      -- A file that exhausted a resource would have ended the run with a fault.
      rw [← Bool.not_eq_true]
      intro hexhausted
      apply hcalm
      refine ⟨f, hf, ?_⟩
      rw [show Index.thrownIn s.registry.view options.maxFileBytes f.file = some t from ht]
      exact hexhausted

/-- A session with one adapter, which throws a value where a text is not empty. -/
def throwingSession (thrown : Thrown) : Session Unit where
  host := default
  world := ()
  registry :=
    { entries :=
        [(".p", { languageId := "plain"
                  factory := .ok { languageId := "plain"
                                   outline := fun content _ =>
                                     if content.isEmpty then .ok {} else .error thrown }
                  builtin := false })] }

/-- Two files of which the first one is not empty. -/
def twoFiles : List SourceFile := [⟨"a.p", "x", none⟩, ⟨"b.p", "", none⟩]

/-- A syntax error in one of two files is a failure of this file; where its adapter throws that
there is no memory left, the generation throws. -/
theorem faults_of_generation_twoFiles :
    (∃ g, ((generate {} twoFiles).run (throwingSession (.failure (Failure.syntaxNear 3)))).1 = .ok g
        ∧ (g.failures.filter fun e => e.path = Text.ofString "a.p").Perm
            [⟨"a.p", .parseFailure, "Syntax error near line 3", some 3⟩])
    ∧ ∃ f, ((generate {} twoFiles).run
        (throwingSession (.failure { Failure.of .general "" with code := some (.str "ENOMEM") }))).1
          = .error (.failure f) ∧ f.kind = .resource := by
  constructor
  · obtain ⟨⟨done, r, hr, hover, haborted, hrun⟩, hall⟩ := faults_of_generation {} twoFiles
      (throwingSession (.failure (Failure.syntaxNear 3))) rfl rfl
    obtain ⟨-, -, -, hend⟩ := hall _ _ done r hr
    obtain ⟨g, hg, -, hthrown⟩ := (hend hover haborted).2 (by unfold Exhausts; decide +kernel)
    refine ⟨g, hrun.trans hg, ?_⟩
    have hfirst := (hthrown (Queue.queued ⟨"a.p", "x", none⟩) (by decide +kernel)
      (.failure (Failure.syntaxNear 3)) rfl).2
    have hpath : (Queue.queued ⟨"a.p", "x", none⟩).path = Text.ofString "a.p" := by decide +kernel
    have hfailures : (((duplicateFailures twoFiles).filter fun e => e.path = Text.ofString "a.p")
        ++ [Index.failureOfThrown (Text.ofString "a.p") (.failure (Failure.syntaxNear 3))])
          = [⟨"a.p", .parseFailure, "Syntax error near line 3", some 3⟩] := by decide +kernel
    rwa [hpath, hfailures] at hfirst
  · obtain ⟨⟨done, r, hr, hover, haborted, hrun⟩, hall⟩ := faults_of_generation {} twoFiles
      (throwingSession (.failure { Failure.of .general "" with code := some (.str "ENOMEM") }))
      rfl rfl
    obtain ⟨-, -, -, hend⟩ := hall _ _ done r hr
    obtain ⟨f, hf, hkind⟩ := (hend hover haborted).1 (by unfold Exhausts; decide +kernel)
    exact ⟨f, hrun.trans hf, hkind⟩

/-- What an adapter throws of a file that concerns this file alone is not always told as a parse
failure: an object whose own member takes the place of its text makes the worker fail. -/
theorem generate_thrown_without_text :
    (Thrown.value (.obj [("toString", .num 1)])).isResourceExhaustion = false
    ∧ (((generate {} twoFiles).run
        (throwingSession (.value (.obj [("toString", .num 1)])))).1.toOption.map
          Generated.failures)
      = some [⟨"a.p", .workerFailure, "Cannot convert object to primitive value", none⟩] := by
  decide +kernel

end Generation

end CallAtlas
