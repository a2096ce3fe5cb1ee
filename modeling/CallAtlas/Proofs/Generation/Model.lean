import CallAtlas.Proofs.Generation.Accounts
import CallAtlas.Proofs.Session.Reading

/-!
# The model as a function of the files

A generation that is neither cancelled nor stopped by a fault gives a model that its files alone
determine, together with what the adapters say of them: the number of workers and the order in which
they finish make no difference, and neither do the adapters that were loaded before.
-/

namespace CallAtlas

namespace Run

variable {ρ : Type} (R : Runner ρ)

/-! ## Runs that nobody aborts -/

lemma aborted_take (r : Run ρ) : (r.take R).aborted = r.aborted := by
  rcases take_cases R r with ⟨-, htake⟩ | ⟨f, rest, -, -, htake⟩ <;> rw [htake]

lemma aborted_finishAt (r : Run ρ) (i : Nat) : (r.finishAt R i).aborted = r.aborted := by
  cases hf : r.inFlight[i]? with
  | none => rw [finishAt, hf]
  | some f =>
    rw [finishAt_eq R hf, record_eq]
    cases faultIn (R.finish r.runner f).1 <;> rfl

lemma aborted_takeAll (n : Nat) (r : Run ρ) : (takeAll R n r).aborted = r.aborted := by
  induction n generalizing r with
  | zero => rfl
  | succ n ih => rw [takeAll, ih, aborted_take]

/-- A run that is to be aborted after no number of files is not aborted. -/
lemma aborted_complete_none (r : Run ρ) : (r.complete R none).aborted = r.aborted := by
  have hrounds : ∀ (n : Nat) (r : Run ρ), (rounds R none n r).aborted = r.aborted := by
    intro n
    induction n with
    | zero => exact fun r => aborted_takeAll R _ r
    | succ n ih =>
      intro r
      rw [rounds, ih, abortAt, if_neg (by simp), aborted_finishAt, aborted_takeAll]
  rw [complete, hrounds, abortAt, if_neg (by simp)]

end Run

namespace Generation

open Run

/-! ## The order of finished files -/

/-- Entries under different paths make the same model in every order. -/
theorem modelOf_eq_of_perm {indexed indexed' : List (Text × FileModel)}
    (hnodup : (indexed.map Prod.fst).Nodup) (h : indexed.Perm indexed') :
    modelOf indexed = modelOf indexed' := by
  have hsorted : (indexed.mergeSort fun a b => !Text.before b.1 a.1)
      = indexed'.mergeSort fun a b => !Text.before b.1 a.1 :=
    Text.mergeSort_key_eq_of_perm Prod.fst hnodup h
  rw [modelOf, modelOf, hsorted]

/-- The entry of a file of the queue is under its path. -/
lemma fst_of_indexedIn_queueOf (x : Indexing) (maxFileBytes : Number) (files : List SourceFile) :
    ∀ f ∈ queueOf files, ∀ e,
      indexedIn (x.outcome maxFileBytes f) = some e → e.1 = f.path := by
  intro f hf e he
  exact x.path_of_outcome_queueOf maxFileBytes files f hf e.1 e.2 (indexedIn_eq_some_iff.mp he)

/-- Entries of the files of a queue are under different paths. -/
lemma nodup_indexed_queueOf (x : Indexing) (maxFileBytes : Number) (files : List SourceFile) :
    (((queueOf files).filterMap fun f => indexedIn (x.outcome maxFileBytes f)).map
      Prod.fst).Nodup :=
  (map_filterMap_sublist (fst_of_indexedIn_queueOf x maxFileBytes files)).nodup
    (nodup_map_path_queueOf files)

lemma nodup_failed_queueOf (x : Indexing) (maxFileBytes : Number) (files : List SourceFile) :
    (((queueOf files).filterMap fun f => failureIn f (x.outcome maxFileBytes f)).map
      FileFailure.path).Nodup :=
  (map_filterMap_sublist (x.path_of_failureIn_queueOf maxFileBytes files)).nodup
    (nodup_map_path_queueOf files)

/-! ## Generating as a function -/

/-- The model of all files of a queue. -/
def modelFrom (outcome : QueuedFile → Except Thrown FileOutcome) (files : List SourceFile) :
    RepoModel :=
  modelOf ((queueOf files).filterMap fun f => indexedIn (outcome f))

/-- Does no file of a queue tell that a shared resource is used up? -/
def FaultFree (outcome : QueuedFile → Except Thrown FileOutcome) (files : List SourceFile) : Prop :=
  ∀ f ∈ queueOf files, faultIn (outcome f) = none

/-- The books of a run that a generation can make are kept. -/
lemma exists_books_of_reaches (x : Indexing) {maxFileBytes concurrency : Number}
    {files : List SourceFile} {r : Run x.State}
    (h : Reaches (x.runner maxFileBytes) (x.begin concurrency files) r) :
    ∃ taken done, Books (x.outcome maxFileBytes) (queueOf files) concurrency.floor.toNat
      (duplicateFailures files) taken done r := by
  obtain ⟨done, h⟩ := reaches_iff_exists_finishes.mp h
  rw [x.begin_eq concurrency files] at h
  obtain ⟨taken, hb, -⟩ := books_of_finishes (x.serves maxFileBytes _)
    (nodup_map_path_queueOf files) (x.keeps_start concurrency) h
  exact ⟨taken, done, hb⟩

/-- What holds of a run that has finished all files of its queue. -/
structure Whole {ρ : Type} (outcome : QueuedFile → Except Thrown FileOutcome)
    (files : List SourceFile) (r : Run ρ) : Prop where
  waiting : r.waiting = []
  fault : r.fault = none
  indexed : r.indexed.Perm ((queueOf files).filterMap fun f => indexedIn (outcome f))
  failures : ∃ found, r.failures = duplicateFailures files ++ found
    ∧ found.Perm ((queueOf files).filterMap fun f => failureIn f (outcome f))

/-- A run that nobody aborts and that meets no fault finishes all files. -/
theorem whole_of_reaches {x : Indexing} {maxFileBytes concurrency : Number}
    {files : List SourceFile} {r : Run x.State} (hworkers : 0 < concurrency.floor.toNat)
    (h : Reaches (x.runner maxFileBytes) (x.begin concurrency files) r) (hover : r.isOver)
    (haborted : r.aborted = false) (hfault : r.fault = none) :
    Whole (x.outcome maxFileBytes) files r := by
  obtain ⟨taken, done, hb⟩ := exists_books_of_reaches x h
  have hwaiting := hb.waiting_eq_nil hworkers hover (by rw [stopped, hfault, haborted]; rfl)
  have hdone : done.Perm (queueOf files) := by
    rw [← hb.queue_eq, hwaiting, List.append_nil]
    exact hb.done_perm hover
  refine ⟨hwaiting, hfault, ?_, _, hb.failures, hdone.filterMap _⟩
  rw [hb.indexed]
  exact hdone.filterMap _

/-- Where no file raises a fault, no run meets one. -/
lemma fault_eq_none_of_reaches {x : Indexing} {maxFileBytes concurrency : Number}
    {files : List SourceFile} {r : Run x.State}
    (h : Reaches (x.runner maxFileBytes) (x.begin concurrency files) r) (hover : r.isOver)
    (hfree : FaultFree (x.outcome maxFileBytes) files) : r.fault = none := by
  obtain ⟨taken, done, hb⟩ := exists_books_of_reaches x h
  exact (hb.fault_eq_none hover hfree).1

/-- The run that a generation makes is over, and its books are kept. -/
lemma exists_books (x : Indexing) (options : GenerateOptions) (concurrency : Number)
    (files : List SourceFile) :
    ∃ taken done, Books (x.outcome options.maxFileBytes) (queueOf files)
      concurrency.floor.toNat (duplicateFailures files) taken done
      (runWith (x.runner options.maxFileBytes) (x.start concurrency) options concurrency files)
      ∧ (runWith (x.runner options.maxFileBytes) (x.start concurrency) options concurrency
        files).isOver := by
  obtain ⟨taken, done, hb⟩ := exists_books_of_reaches x
    (reaches_complete (x.runner options.maxFileBytes) options.abortAfter
      (x.begin concurrency files))
  exact ⟨taken, done, hb, isOver_complete _ options.abortAfter _ _ _ _⟩

variable {x : Indexing} {options : GenerateOptions} {concurrency : Number}
  {files : List SourceFile}

/-- It is not aborted unless this was asked for. -/
lemma aborted_runWith (habort : options.abortAfter = none) :
    (runWith (x.runner options.maxFileBytes) (x.start concurrency) options concurrency
      files).aborted = false := by
  rw [runWith, habort, aborted_complete_none]
  rfl

/-- A generation that was not cancelled met no fault, and its model is that of all files. -/
theorem model_of_outcomeOf {g : Generated}
    (h : outcomeOf files.length
      (runWith (x.runner options.maxFileBytes) (x.start concurrency) options concurrency files)
        = .ok g) (hcancelled : g.cancelled = false) :
    FaultFree (x.outcome options.maxFileBytes) files
      ∧ g.model = modelFrom (x.outcome options.maxFileBytes) files := by
  obtain ⟨taken, done, hb, hover⟩ := exists_books x options concurrency files
  rw [outcomeOf] at h
  split at h
  · cases h
  · rename_i hnone
    obtain rfl := Except.ok.inj h
    have hwaiting : (runWith (x.runner options.maxFileBytes) (x.start concurrency) options
        concurrency files).waiting = [] := by
      simpa [resultOf] using hcancelled
    -- Nothing waits, so the files that were finished are all of the queue.
    have htaken : taken = queueOf files := by
      rw [← hb.queue_eq, hwaiting, List.append_nil]
    have hperm : done.Perm (queueOf files) := htaken ▸ hb.done_perm hover
    have hfault := hb.fault
    rw [hnone, eq_comm, List.getLast?_eq_none_iff, List.filterMap_eq_nil_iff] at hfault
    have hindexed := hperm.filterMap fun f => indexedIn (x.outcome options.maxFileBytes f)
    refine ⟨fun f hf => hfault f (hperm.mem_iff.mpr hf), ?_⟩
    rw [resultOf, hb.indexed, modelFrom]
    exact modelOf_eq_of_perm
      ((hindexed.map Prod.fst).nodup_iff.mpr (nodup_indexed_queueOf x _ files)) hindexed

/-- A generation that nobody aborts gives a result if it meets no fault, and it is not cancelled. -/
theorem outcomeOf_of_faultFree (x : Indexing) (options : GenerateOptions)
    (hworkers : 0 < concurrency.floor.toNat)
    (habort : options.abortAfter = none)
    (hfree : FaultFree (x.outcome options.maxFileBytes) files) :
    ∃ g, outcomeOf files.length
      (runWith (x.runner options.maxFileBytes) (x.start concurrency) options concurrency files)
        = .ok g ∧ g.cancelled = false := by
  obtain ⟨taken, done, hb, hover⟩ := exists_books x options concurrency files
  refine ⟨_, outcomeOf_eq_ok hb (hb.fault_eq_none hover hfree).2 _, ?_⟩
  rw [resultOf, (hb.done_perm_queue hworkers hover hfree (aborted_runWith habort)).1]
  rfl

/-! ## The job -/

/-- Where a generation indexes its files, in a program that begins with a registry. -/
def indexingIn (builtins : Registry) (options : GenerateOptions) (registry : Registry)
    (files : List SourceFile) : Indexing :=
  if (options.workers.filter fun _ => !(queueOf files).isEmpty).isSome then .inPool builtins
  else .inProcess registry

/-- Where a generation indexes its files. -/
def indexingOf (options : GenerateOptions) (registry : Registry) (files : List SourceFile) :
    Indexing :=
  indexingIn .initial options registry files

/-- Registries that tell the same of their adapters make no difference. -/
lemma outcome_indexingOf (options : GenerateOptions) {r r' : Registry} (h : r'.view = r.view)
    (files : List SourceFile) :
    (indexingOf options r' files).outcome options.maxFileBytes
      = (indexingOf options r files).outcome options.maxFileBytes := by
  unfold indexingOf indexingIn
  split
  · rfl
  · funext f
    have hspec := fun r : Registry => (Index.indexFile_spec r options.maxFileBytes f.file).2
    show (Index.indexFile r' options.maxFileBytes f.file).2.1
      = (Index.indexFile r options.maxFileBytes f.file).2.1
    rw [hspec, hspec, h]

/-- The number of workers of a generation. -/
def concurrencyOf (options : GenerateOptions) (host : Host) (files : List SourceFile) : Number :=
  resolveConcurrency host.defaultConcurrency options.concurrency (queueOf files).length

lemma run_ofOutcome {σ α : Type} (o : Outcome α) (s : Session σ) :
    ((Job.ofOutcome o).run s).1 = o := by
  cases o <;> rfl

/-- What a generation throws because a shared resource is used up is an error of the class for
resources. -/
lemma exists_faultOf_eq (thrown : Thrown) :
    ∃ f, faultOf thrown = .failure f ∧ f.kind = .resource := by
  cases thrown with
  | value v => exact ⟨_, rfl, rfl⟩
  | failure f =>
    by_cases hkind : f.kind == .resource
    · exact ⟨f, if_pos hkind, eq_of_beq hkind⟩
    · exact ⟨_, if_neg hkind, rfl⟩

/-- The span of a generation hands on its outcome as it is. -/
lemma mapError_outcomeOf {ρ : Type} (fileCount : ℕ) (r : Run ρ) :
    (outcomeOf fileCount r).mapError Thrown.asked = outcomeOf fileCount r := by
  unfold outcomeOf
  split
  · next thrown _ =>
    obtain ⟨f, hf, -⟩ := exists_faultOf_eq thrown
    rw [hf]
    rfl
  · rfl

/-- The outcome of a generation is that of its run, whatever the workers begin with. -/
theorem run_generate_with {σ : Type} (builtins : Registry) (options : GenerateOptions)
    (files : List SourceFile) (s : Session σ) (hworkers : ∀ script,
      options.workers = some script → script = WorkerScript.indexingWith builtins) :
    let x := indexingIn builtins options s.registry files
    ((generate options files).run s).1
      = outcomeOf files.length
          (runWith (x.runner options.maxFileBytes) (x.start (concurrencyOf options s.host files))
            options (concurrencyOf options s.host files) files) := by
  intro x
  have hreport : ∀ (threads : Bool) (g : Generated), Job.Reads
      (reportResult (concurrencyOf options s.host files) threads g : Job σ Unit)
      fun _ _ _ => .ok () := fun threads g => .behind (.report _) (.note _ _ _)
  -- The work is done inside a span, in a session with the same host and registry.
  have hperform : ∀ u : Session σ, u.host = s.host → u.registry = s.registry →
      ((perform options files).run u).1
        = outcomeOf files.length
            (runWith (x.runner options.maxFileBytes)
              (x.start (concurrencyOf options s.host files))
              options (concurrencyOf options s.host files) files) := by
    intro u hhost hregistry
    have hhostRun : (Job.host : Job σ Host).run u = (.ok s.host, u) := by
      rw [← hhost]
      rfl
    unfold perform x indexingIn
    rw [Job.run_bind, hhostRun, ofFiles_eq_queueOf]
    simp only
    cases hscript : options.workers.filter fun _ => !(queueOf files).isEmpty with
    | none =>
      rw [if_neg (by simp), ← hregistry]
      exact (Job.Reads.run_reported (hreport _) _).trans (run_ofOutcome _ _)
    | some script =>
      rw [if_pos (by simp)]
      obtain rfl := hworkers script (Option.filter_eq_some_iff.mp hscript).1
      exact (Job.Reads.run_reported (hreport _) _).trans (run_ofOutcome _ _)
  rw [← mapError_outcomeOf]
  refine congrArg (Except.mapError Thrown.asked)
    ((Job.Reads.run_reported (fun g => .annotate _) _).trans ?_)
  exact hperform _ rfl rfl

/-- The outcome of a generation is that of its run. -/
theorem run_generate {σ : Type} (options : GenerateOptions) (files : List SourceFile)
    (s : Session σ)
    (hworkers : ∀ script, options.workers = some script → script = WorkerScript.indexing) :
    ((generate options files).run s).1
      = outcomeOf files.length
          (runWith ((indexingOf options s.registry files).runner options.maxFileBytes)
            ((indexingOf options s.registry files).start (concurrencyOf options s.host files))
            options (concurrencyOf options s.host files) files) :=
  run_generate_with .initial options files s hworkers

/-- The options of a generation that nobody aborts. -/
def unaborted (options : GenerateOptions) : GenerateOptions := { options with abortAfter := none }

/-- Files of which a model was generated give the same model again, with any number of workers,
where the registry tells the same of the adapters. -/
theorem generate_again {σ : Type} {s s' : Session σ} (hview : s'.registry.view = s.registry.view)
    (hworkers : ∀ script, options.workers = some script → script = WorkerScript.indexing)
    {g : Generated} (h : ((generate options files).run s).1 = .ok g)
    (hcancelled : g.cancelled = false) :
    ∃ g', ((generate (unaborted options) files).run s').1 = .ok g'
      ∧ g'.cancelled = false ∧ g'.model = g.model := by
  rw [run_generate options files s hworkers] at h
  obtain ⟨hfree, hmodel⟩ := model_of_outcomeOf h hcancelled
  have houtcome : (indexingOf (unaborted options) s'.registry files).outcome options.maxFileBytes
      = (indexingOf options s.registry files).outcome options.maxFileBytes :=
    outcome_indexingOf options hview files
  rw [← houtcome] at hfree hmodel
  obtain ⟨g', hg', hcancelled'⟩ := outcomeOf_of_faultFree
    (indexingOf (unaborted options) s'.registry files) (unaborted options)
    (floor_resolveConcurrency_pos s'.host.defaultConcurrency options.concurrency
      (queueOf files).length) rfl hfree
  refine ⟨g', (run_generate (unaborted options) files s' hworkers).trans hg', hcancelled', ?_⟩
  exact (model_of_outcomeOf hg' hcancelled').2.trans hmodel.symm

/-- No adapter throws that a shared resource is used up. -/
def IsCalm (v : RegistryView) : Prop :=
  ∀ e ∈ v, ∀ adapter, e.2.2 = .adapter adapter → ∀ content path thrown,
    adapter.outline content path = .error thrown → thrown.isResourceExhaustion = false

lemma faultIn_outcomeIn {v : RegistryView} (h : IsCalm v) (maxFileBytes : Number)
    (file : SourceFile) : Run.faultIn (Index.outcomeIn v maxFileBytes file) = none := by
  rcases Index.outcomeIn_cases v maxFileBytes file with ⟨-, ⟨o, hout⟩ | hout⟩ | ⟨t, ht, hout⟩
  · rw [hout]
    rfl
  · rw [hout, Run.faultIn, Index.isResourceExhaustion_withoutText]
    rfl
  · obtain ⟨e, he, adapter, hoffers, hthrown⟩ := Index.exists_adapter_of_thrownIn ht
    have hcalm := h e he adapter hoffers _ _ t hthrown
    rw [hout]
    rcases Index.settleThrown_cases (Path.normalize file.path) t with
      ⟨hexhausted, -⟩ | ⟨-, ⟨message, -, hsettled⟩ | ⟨-, hsettled⟩⟩
    · rw [hcalm] at hexhausted
      cases hexhausted
    · rw [hsettled]
      rfl
    · rw [hsettled, Run.faultIn, Index.isResourceExhaustion_withoutText]
      rfl

/-- A generation in process that nobody aborts gives a model, whatever its files hold, if no adapter
throws that a shared resource is used up. -/
theorem exists_generate {σ : Type} {s : Session σ} (hworkers : options.workers = none)
    (habort : options.abortAfter = none) (hcalm : IsCalm s.registry.view)
    (files : List SourceFile) :
    ∃ g, ((generate options files).run s).1 = .ok g ∧ g.cancelled = false := by
  have hindexing : indexingOf options s.registry files = .inProcess s.registry := by
    rw [indexingOf, indexingIn, hworkers]
    rfl
  have hfree : FaultFree ((indexingOf options s.registry files).outcome options.maxFileBytes)
      files := by
    intro f hf
    rw [hindexing]
    show Run.faultIn (Index.indexFile s.registry options.maxFileBytes f.file).2.1 = none
    rw [(Index.indexFile_spec _ _ _).2]
    exact faultIn_outcomeIn hcalm _ _
  obtain ⟨g, hg, hcancelled⟩ := outcomeOf_of_faultFree (indexingOf options s.registry files) options
    (floor_resolveConcurrency_pos s.host.defaultConcurrency options.concurrency
      (queueOf files).length) habort hfree
  exact ⟨g, (run_generate options files s (by simp [hworkers])).trans hg, hcancelled⟩

end Generation

end CallAtlas
