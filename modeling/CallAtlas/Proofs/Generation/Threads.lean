import CallAtlas.Proofs.Generation.Faults
import CallAtlas.Proofs.Generation.Independence

/-!
# Generating with worker threads

The workers of a pool index files with a registry of their own, which is the one that a program
begins with and knows no adapter that was registered later. What they throw gets back as a message
and a code in an error of another class. A generation with workers says the same as the generation
in process just if both make the same of every file of the queue, or if both meet the exhaustion of
a shared resource.

Nothing is lost on the way from a worker as long as errors of the class for resources keep a code of
this class. So without registered adapters the two say the same, whatever the adapters throw.
-/

namespace CallAtlas

/-- An error that still has a code of the class for resources if it is of this class. -/
def Failure.KeepsCode (f : Failure) : Prop :=
  f.kind = .resource → ∃ code ∈ resourceCodes, f.codeText = some code

namespace Index

/-- What parsing a file comes to is an error with its code, if the adapter's error has its code. -/
lemma keepsCode_of_settleThrown {path : Text} {thrown : Thrown} {f : Failure}
    (hcodes : ∀ e, thrown = .failure e → e.KeepsCode)
    (h : settleThrown path thrown = .error (.failure f)) : f.KeepsCode := by
  unfold settleThrown at h
  split at h
  · cases thrown with
    | value v => cases h
    | failure e =>
      simp only at h
      split at h
      · cases h
        exact hcodes _ rfl
      · cases h
        exact fun _ => ⟨_, List.mem_cons_self, rfl⟩
  · split at h
    · cases h
    · cases h
      exact fun hkind => nomatch hkind

end Index

namespace Generation

open Run

/-! ## What is made of an outcome -/

/-- What a generation makes of the outcome of a file. -/
inductive Effect where
  /-- The file is in the model. -/
  | indexed (path : Text) (file : FileModel)
  /-- The file is told to have failed. -/
  | failed (failure : FileFailure)
  /-- The generation throws that a shared resource is used up. -/
  | fault
deriving DecidableEq

/-- What a generation makes of the outcome of a file. -/
def effect (f : QueuedFile) : Except Thrown FileOutcome → Effect
  | .ok (.indexed path m) => .indexed path m
  | .ok (.failed e) => .failed e
  | .error t => if t.isResourceExhaustion then .fault else .failed (workerFailure f t)

lemma effect_eq_fault_iff (f : QueuedFile) (out : Except Thrown FileOutcome) :
    effect f out = .fault ↔ (faultIn out).isSome := by
  rcases out with t | ⟨path, m⟩ | e
  · rw [effect, faultIn]
    cases t.isResourceExhaustion <;> simp
  · simp [effect, faultIn]
  · simp [effect, faultIn]

/-- Outcomes of one effect leave the same entry and the same failure. -/
lemma found_eq_of_effect_eq {f : QueuedFile} {out out' : Except Thrown FileOutcome}
    (h : effect f out = effect f out') :
    indexedIn out = indexedIn out' ∧ failureIn f out = failureIn f out' := by
  have htold : ∀ out, indexedIn out = (match effect f out with
      | .indexed path m => some (path, m)
      | _ => none)
      ∧ failureIn f out = (match effect f out with
        | .failed e => some e
        | _ => none) := by
    rintro (t | ⟨path, m⟩ | e)
    · rw [effect, failureIn]
      cases t.isResourceExhaustion <;> exact ⟨rfl, rfl⟩
    · exact ⟨rfl, rfl⟩
    · exact ⟨rfl, rfl⟩
  rw [(htold out).1, (htold out).2, (htold out').1, (htold out').2, h]
  exact ⟨rfl, rfl⟩

/-- Without faults the entry and the failure that are left tell the effect. -/
lemma effect_eq_of_found_eq {f : QueuedFile} {out out' : Except Thrown FileOutcome}
    (hfree : faultIn out = none) (hfree' : faultIn out' = none)
    (hindexed : indexedIn out = indexedIn out') (hfailure : failureIn f out = failureIn f out') :
    effect f out = effect f out' := by
  have htold : ∀ out, faultIn out = none →
      (∃ path m, effect f out = .indexed path m ∧ indexedIn out = some (path, m))
        ∨ ∃ e, effect f out = .failed e ∧ failureIn f out = some e ∧ indexedIn out = none := by
    rintro (t | ⟨path, m⟩ | e) hnone
    · rw [faultIn] at hnone
      rw [effect, failureIn]
      split at hnone
      · cases hnone
      · next hcalm =>
        rw [if_neg hcalm, if_neg hcalm]
        exact .inr ⟨_, rfl, rfl, rfl⟩
    · exact .inl ⟨path, m, rfl, rfl⟩
    · exact .inr ⟨e, rfl, rfl, rfl⟩
  rcases htold out hfree with ⟨path, m, heffect, hin⟩ | ⟨e, heffect, hfailed, hin⟩ <;>
    rcases htold out' hfree' with ⟨path', m', heffect', hin'⟩ | ⟨e', heffect', hfailed', hin'⟩ <;>
    rw [hin, hin'] at hindexed
  · cases hindexed
    rw [heffect, heffect']
  · cases hindexed
  · cases hindexed
  · rw [hfailed, hfailed'] at hfailure
    cases hfailure
    rw [heffect, heffect']

/-- What is left of an outcome that a worker answers with: of an error the message and the code. -/
def crossed : Except Thrown FileOutcome → Except Thrown FileOutcome
  | .ok o => .ok o
  | .error t => .error (Pool.crash t.message t.codeText)

/-- What becomes of a file in a pool is what is left of the outcome that the workers have for it. -/
lemma outcome_inPool (builtins : Registry) (maxFileBytes : Number) (f : QueuedFile) :
    (Indexing.inPool builtins).outcome maxFileBytes f
      = crossed (Index.outcomeIn builtins.view maxFileBytes f.file) := by
  rw [← (Index.indexFile_spec builtins maxFileBytes f.file).2]
  simp only [Indexing.outcome, WorkerScript.index]
  cases (Index.indexFile builtins maxFileBytes f.file).2.1 <;> rfl

/-- An error of a worker tells that a resource is used up just by its code. -/
lemma isResourceExhaustion_crash (message : Text) (code : Option Text) :
    (Pool.crash message code).isResourceExhaustion
      = code.any fun c => Failure.resourceCodes.contains c := by
  cases code with
  | none => rfl
  | some c =>
    show (false || Failure.resourceCodes.contains c || (false && Failure.saysOutOfMemory message))
      = Failure.resourceCodes.contains c
    rw [Bool.false_or, Bool.false_and, Bool.or_false]

/-- As long as errors keep their codes, a generation makes the same of what is left of an
outcome. -/
theorem effect_crossed {v : RegistryView} {maxFileBytes : Number} {f : QueuedFile}
    (hcodes : ∀ e, Index.thrownIn v maxFileBytes f.file = some (.failure e) → e.KeepsCode) :
    effect f (crossed (Index.outcomeIn v maxFileBytes f.file))
      = effect f (Index.outcomeIn v maxFileBytes f.file) := by
  rcases Index.outcomeIn_cases v maxFileBytes f.file with
    ⟨-, ⟨o, hout⟩ | hout⟩ | ⟨t, ht, hout⟩ <;> rw [hout]
  · rfl
  · rfl
  · rcases Index.settleThrown_cases (Path.normalize f.file.path) t with
      ⟨-, e, hsettled, hkind⟩ | ⟨-, ⟨message, -, hsettled⟩ | ⟨-, hsettled⟩⟩ <;> rw [hsettled]
    · -- The code is all that tells the error of a worker from other errors.
      obtain ⟨code, hcode, hkept⟩ := Index.keepsCode_of_settleThrown
        (fun e he => hcodes e (ht.trans (congrArg some he))) hsettled hkind
      have hresource : (Thrown.failure e).isResourceExhaustion = true := by
        simp [Thrown.isResourceExhaustion, hkind]
      have hcrossed : (Pool.crash e.message e.codeText).isResourceExhaustion = true := by
        rw [isResourceExhaustion_crash, hkept, Option.any_some]
        exact List.contains_iff_mem.mpr hcode
      show effect f (.error (Pool.crash e.message e.codeText)) = effect f (.error (.failure e))
      rw [effect, effect, if_pos hresource, if_pos hcrossed]
    · rfl
    · rfl

/-! ## Two runs over the same files -/

/-- Failures of different files come in one order, also behind those of repeated paths. -/
lemma orderFailures_append_eq_of_perm {repeated found found' : List FileFailure}
    (hnodup : (found.map FileFailure.path).Nodup) (h : found.Perm found') :
    orderFailures (repeated ++ found) = orderFailures (repeated ++ found') := by
  apply Text.eq_of_pairwise_key FileFailure.path (orderFailures_spec _).2 (orderFailures_spec _).2
  intro path
  have hsame : ∀ fs : List FileFailure, (orderFailures fs).filter (fun e => e.path = path)
      = fs.filter fun e => e.path = path := fun fs =>
    Text.filter_mergeSort_key FileFailure.path fs path
  rw [hsame, hsame, List.filter_append, List.filter_append]
  -- At most one of the failures that were found has this path.
  have hone : ∀ fs : List FileFailure,
      (fs.filter fun e => e.path = path).Pairwise fun a b => a.path ≤ b.path := by
    intro fs
    apply List.pairwise_of_forall_mem_list
    intro a ha b hb
    rw [of_decide_eq_true (List.mem_filter.mp ha).2, of_decide_eq_true (List.mem_filter.mp hb).2]
    exact List.le_refl _
  congr 1
  apply Text.eq_of_perm_of_pairwise_key FileFailure.path _ (h.filter _) (hone _) (hone _)
  exact (List.filter_sublist.map FileFailure.path).nodup hnodup

section

variable {ρ ρ' : Type} {outcome outcome' : QueuedFile → Except Thrown FileOutcome}
  {files : List SourceFile} {r : Run ρ} {r' : Run ρ'}

/-- A run that has finished all files depends on what is made of these files only. -/
lemma Whole.congr (h : Whole outcome files r)
    (hsame : ∀ f ∈ queueOf files, effect f (outcome f) = effect f (outcome' f)) :
    Whole outcome' files r := by
  obtain ⟨found, hfailures, hfound⟩ := h.failures
  refine ⟨h.waiting, h.fault, h.indexed.trans (.of_eq ?_), found, hfailures,
    hfound.trans (.of_eq ?_)⟩
  · exact List.filterMap_congr fun f hf => (found_eq_of_effect_eq (hsame f hf)).1
  · exact List.filterMap_congr fun f hf => (found_eq_of_effect_eq (hsame f hf)).2

/-- Runs that have finished the same files with the same outcomes have the same result. -/
theorem Whole.agrees {x : Indexing} {maxFileBytes : Number}
    (h : Whole (x.outcome maxFileBytes) files r) (h' : Whole (x.outcome maxFileBytes) files r') :
    Agrees (resultOf files.length r) (resultOf files.length r') := by
  obtain ⟨found, hfailures, hfound⟩ := h.failures
  obtain ⟨found', hfailures', hfound'⟩ := h'.failures
  have hindexed := h.indexed.trans h'.indexed.symm
  have hmodel : (resultOf files.length r).model = (resultOf files.length r').model := by
    apply modelOf_eq_of_perm _ hindexed
    exact (h.indexed.map Prod.fst).nodup_iff.mpr (nodup_indexed_queueOf x _ files)
  have hall : (resultOf files.length r).failures = (resultOf files.length r').failures := by
    simp only [resultOf]
    rw [h.waiting, h'.waiting, List.map_nil, List.append_nil, List.append_nil, hfailures,
      hfailures']
    apply orderFailures_append_eq_of_perm _ (hfound.trans hfound'.symm)
    exact (hfound.map FileFailure.path).nodup_iff.mpr (nodup_failed_queueOf x _ files)
  refine ⟨hmodel, hall, ?_⟩
  -- The numbers count the files, the entries, the failures and the definitions of the model.
  simp only [resultOf] at hmodel hall ⊢
  rw [hmodel, hall, hindexed.length_eq]

/-- What two runs have found of a file is the same if what they have found of all files is. -/
lemma found_eq_of_perm {β : Type} {found found' : QueuedFile → Option β} {path : β → Text}
    (hpath : ∀ f ∈ queueOf files, ∀ e, found f = some e → path e = f.path)
    (hpath' : ∀ f ∈ queueOf files, ∀ e, found' f = some e → path e = f.path)
    (h : ((queueOf files).filterMap found).Perm ((queueOf files).filterMap found')) {f : QueuedFile}
    (hf : f ∈ queueOf files) : found f = found' f := by
  have hone := h.filter fun e => decide (path e = f.path)
  rw [filter_filterMap_eq hpath (nodup_map_path_queueOf files) hf,
    filter_filterMap_eq hpath' (nodup_map_path_queueOf files) hf] at hone
  cases hfound : found f with
  | none =>
    rw [hfound] at hone
    exact (Option.toList_eq_nil_iff.mp (List.nil_perm.mp hone)).symm
  | some e =>
    rw [hfound, Option.toList_some, List.singleton_perm] at hone
    exact (Option.toList_eq_singleton_iff.mp hone.symm).symm

/-- Runs with the same result have found the same of every file. -/
theorem Whole.found_eq {x x' : Indexing} {maxFileBytes : Number}
    (h : Whole (x.outcome maxFileBytes) files r) (h' : Whole (x'.outcome maxFileBytes) files r')
    (hagrees : Agrees (resultOf files.length r) (resultOf files.length r')) {f : QueuedFile}
    (hf : f ∈ queueOf files) :
    indexedIn (x.outcome maxFileBytes f) = indexedIn (x'.outcome maxFileBytes f)
      ∧ failureIn f (x.outcome maxFileBytes f) = failureIn f (x'.outcome maxFileBytes f) := by
  constructor
  · have hnodup := (h.indexed.map Prod.fst).nodup_iff.mpr (nodup_indexed_queueOf x _ files)
    have hnodup' := (h'.indexed.map Prod.fst).nodup_iff.mpr (nodup_indexed_queueOf x' _ files)
    have hfiles := (files_modelOf_perm hnodup).symm
    rw [show modelOf r.indexed = modelOf r'.indexed from hagrees.model] at hfiles
    have hall := h.indexed.symm.trans
      ((hfiles.trans (files_modelOf_perm hnodup')).trans h'.indexed)
    exact found_eq_of_perm (fst_of_indexedIn_queueOf x _ files)
      (fst_of_indexedIn_queueOf x' _ files) hall hf
  · obtain ⟨found, hfailures, hfound⟩ := h.failures
    obtain ⟨found', hfailures', hfound'⟩ := h'.failures
    have hordered := hagrees.failures
    simp only [resultOf] at hordered
    rw [h.waiting, h'.waiting, List.map_nil, List.append_nil, List.append_nil, hfailures,
      hfailures'] at hordered
    have hall := (orderFailures_spec (duplicateFailures files ++ found)).1.symm
    rw [hordered] at hall
    have hperm := (List.perm_append_left_iff _).mp (hall.trans (orderFailures_spec _).1)
    exact found_eq_of_perm (x.path_of_failureIn_queueOf _ files)
      (x'.path_of_failureIn_queueOf _ files) (hfound.symm.trans (hperm.trans hfound')) hf

end

/-! ## Outcomes of generations -/

/-- What holds of two outcomes of generations that say the same: both give a model, with the same
failures and numbers, or both throw that a shared resource is used up. -/
inductive Alike : Outcome Generated → Outcome Generated → Prop
  | ok {g g' : Generated} (agrees : Agrees g g') : Alike (.ok g) (.ok g')
  | resource {f f' : Failure} (kind : f.kind = .resource) (kind' : f'.kind = .resource) :
    Alike (.error (.failure f)) (.error (.failure f'))

/-- A run of a generation that nobody aborts, at its end. -/
structure Ended (x : Indexing) (maxFileBytes concurrency : Number) (files : List SourceFile)
    (r : Run x.State) : Prop where
  reaches : Reaches (x.runner maxFileBytes) (x.begin concurrency files) r
  isOver : r.isOver
  aborted : r.aborted = false

/-- The run that a generation makes is one of these. -/
lemma ended_runWith (x : Indexing) {options : GenerateOptions} (habort : options.abortAfter = none)
    (concurrency : Number) (files : List SourceFile) :
    Ended x options.maxFileBytes concurrency files (runWith (x.runner options.maxFileBytes)
      (x.start concurrency) options concurrency files) where
  reaches := reaches_complete _ options.abortAfter _
  isOver := isOver_complete _ _ _ _ _ _
  aborted := aborted_runWith habort

/-- Do two ways to index files make the same of every file, or do both meet a fault? -/
def SameEffects (effects effects' : QueuedFile → Effect) (files : List SourceFile) : Prop :=
  (∀ f ∈ queueOf files, effects f = effects' f)
    ∨ (∃ f ∈ queueOf files, effects f = .fault) ∧ ∃ f ∈ queueOf files, effects' f = .fault

instance (effects effects' : QueuedFile → Effect) (files : List SourceFile) :
    Decidable (SameEffects effects effects' files) :=
  inferInstanceAs (Decidable (_ ∨ _ ∧ _))

/-- A run that nobody aborts meets a fault just if one is made of a file. -/
lemma Ended.isSome_fault_iff {x : Indexing} {maxFileBytes concurrency : Number}
    {files : List SourceFile} {r : Run x.State} (h : Ended x maxFileBytes concurrency files r)
    (hworkers : 0 < concurrency.floor.toNat) :
    r.fault.isSome ↔ ∃ f ∈ queueOf files, effect f (x.outcome maxFileBytes f) = .fault := by
  obtain ⟨taken, done, hb⟩ := exists_books_of_reaches x h.reaches
  rw [hb.isSome_fault_iff hworkers h.isOver h.aborted]
  simp only [effect_eq_fault_iff]

/-- Two generations say the same just if they make the same of every file or both meet a fault,
whatever the numbers of workers and the orders in which they finish. -/
theorem alike_iff {x x' : Indexing} {maxFileBytes concurrency concurrency' : Number}
    {files : List SourceFile} {r : Run x.State} {r' : Run x'.State}
    (hworkers : 0 < concurrency.floor.toNat) (hworkers' : 0 < concurrency'.floor.toNat)
    (h : Ended x maxFileBytes concurrency files r)
    (h' : Ended x' maxFileBytes concurrency' files r') :
    Alike (outcomeOf files.length r) (outcomeOf files.length r')
      ↔ SameEffects (fun f => effect f (x.outcome maxFileBytes f))
          (fun f => effect f (x'.outcome maxFileBytes f)) files := by
  have hfault := h.isSome_fault_iff hworkers
  have hfault' := h'.isSome_fault_iff hworkers'
  rw [outcomeOf, outcomeOf, SameEffects, ← hfault, ← hfault']
  -- Where all effects are the same, so are the faults.
  have hboth : (∀ f ∈ queueOf files,
      effect f (x.outcome maxFileBytes f) = effect f (x'.outcome maxFileBytes f)) →
      (r.fault.isSome ↔ r'.fault.isSome) := by
    intro hsame
    rw [hfault, hfault']
    exact exists_congr fun f => and_congr_right fun hf => by rw [hsame f hf]
  cases hr : r.fault with
  | some t =>
    cases hr' : r'.fault with
    | some t' =>
      obtain ⟨f, hf, hkind⟩ := exists_faultOf_eq t
      obtain ⟨f', hf', hkind'⟩ := exists_faultOf_eq t'
      simp only [hf, hf']
      exact iff_of_true (.resource hkind hkind') (.inr ⟨rfl, rfl⟩)
    | none =>
      rw [hr, hr'] at hboth
      obtain ⟨f, hf, -⟩ := exists_faultOf_eq t
      simp only [hf]
      refine iff_of_false (by rintro ⟨⟩) ?_
      rintro (hall | hfaults)
      · cases (hboth hall).mp rfl
      · cases hfaults.2
  | none =>
    cases hr' : r'.fault with
    | some t' =>
      rw [hr, hr'] at hboth
      refine iff_of_false (by rintro ⟨⟩) ?_
      rintro (hall | hfaults)
      · cases (hboth hall).mpr rfl
      · cases hfaults.1
    | none =>
      have hwhole := whole_of_reaches hworkers h.reaches h.isOver h.aborted hr
      have hwhole' := whole_of_reaches hworkers' h'.reaches h'.isOver h'.aborted hr'
      constructor
      · rintro ⟨hagrees⟩
        left
        intro f hf
        obtain ⟨hindexed, hfailure⟩ := hwhole.found_eq hwhole' hagrees hf
        rw [hr] at hfault
        rw [hr'] at hfault'
        refine effect_eq_of_found_eq ?_ ?_ hindexed hfailure <;>
          rw [← Option.not_isSome_iff_eq_none, ← effect_eq_fault_iff f] <;> intro heffect
        · cases hfault.mpr ⟨f, hf, heffect⟩
        · cases hfault'.mpr ⟨f, hf, heffect⟩
      · rintro (hsame | hfaults)
        · exact .ok (hwhole.agrees (hwhole'.congr fun f hf => (hsame f hf).symm))
        · cases hfaults.1

/-- Only the files of the queue count. -/
lemma sameEffects_congr {effects effects' : QueuedFile → Effect} {files : List SourceFile}
    (h : ∀ f ∈ queueOf files, effects f = effects' f) (other : QueuedFile → Effect) :
    SameEffects effects other files ↔ SameEffects effects' other files :=
  or_congr (forall₂_congr fun f hf => by rw [h f hf])
    (and_congr_left' (exists_congr fun f => and_congr_right fun hf => by rw [h f hf]))

/-- A generation with workers that nobody aborts says the same as the generation in process just if
the same is made of every file of the queue, or if both meet a fault: in process by the registry of
the process, with workers by what is left of the outcomes that they have with the registry they
begin with. So it is for every number of workers and every order in which they finish. Nothing is
lost of an outcome as long as errors of the class for resources keep a code of this class. -/
theorem alike_with_threads_iff {σ : Type} (builtins : Registry) (options : GenerateOptions)
    (files : List SourceFile) (s : Session σ) (habort : options.abortAfter = none) :
    let threads := { options with workers := some (WorkerScript.indexingWith builtins) }
    let alone := { options with workers := none }
    let known := fun f : QueuedFile =>
      Index.outcomeIn builtins.view options.maxFileBytes f.file
    let there := fun f => effect f (crossed (known f))
    let here := fun f =>
      effect f (Index.outcomeIn s.registry.view options.maxFileBytes f.file)
    (Alike ((generate threads files).run s).1 ((generate alone files).run s).1
      ↔ SameEffects there here files)
    ∧ (∀ (byDefault byDefault' : ℕ) (wanted wanted' : Option Number),
        let concurrency := resolveConcurrency byDefault wanted (queueOf files).length
        let concurrency' := resolveConcurrency byDefault' wanted' (queueOf files).length
        ∀ r r', Ended (.inPool builtins) options.maxFileBytes concurrency files r →
          Ended (.inProcess s.registry) options.maxFileBytes concurrency' files r' →
          (Alike (outcomeOf files.length r) (outcomeOf files.length r')
            ↔ SameEffects there here files))
    ∧ ∀ f, (∀ e, Index.thrownIn builtins.view options.maxFileBytes f.file = some (.failure e) →
        e.KeepsCode) → there f = effect f (known f) := by
  intro threads alone known there here
  have hhere : (fun f => effect f ((Indexing.inProcess s.registry).outcome options.maxFileBytes f))
      = here := funext fun f => congrArg (effect f) (outcome_inProcess _ _ _)
  have hthere : (fun f => effect f ((Indexing.inPool builtins).outcome options.maxFileBytes f))
      = there := funext fun f => congrArg (effect f) (outcome_inPool _ _ _)
  have hpos := fun (byDefault : ℕ) (wanted : Option Number) =>
    floor_resolveConcurrency_pos byDefault wanted (queueOf files).length
  refine ⟨?_, ?_, fun f hcodes => effect_crossed hcodes⟩
  · have hthreads := run_generate_with builtins threads files s (by simp [threads])
    have halone := run_generate_with builtins alone files s (by simp [alone])
    have hjobs := alike_iff (hpos _ _) (hpos _ _)
      (ended_runWith (indexingIn builtins threads s.registry files) habort
        (concurrencyOf threads s.host files) files)
      (ended_runWith (indexingIn builtins alone s.registry files) habort
        (concurrencyOf alone s.host files) files)
    rw [hthreads, halone]
    refine hjobs.trans ?_
    rw [← hhere, ← hthere]
    -- Without files there are no workers, but then there is nothing to compare either.
    apply sameEffects_congr
    intro f hf
    have hne : (queueOf files).isEmpty = false :=
      List.isEmpty_eq_false_iff.mpr (List.ne_nil_of_mem hf)
    have hindexing : indexingIn builtins threads s.registry files = .inPool builtins := by
      rw [indexingIn, Option.filter_some, hne]
      rfl
    rw [hindexing]
  · intro byDefault byDefault' wanted wanted' concurrency concurrency' r r' h h'
    rw [← hhere, ← hthere]
    exact alike_iff (hpos _ _) (hpos _ _) h h'

/-- An error of the class for resources that has lost its code. -/
def uncoded : Failure := { Failure.of .resource "" with code := none }

/-- A file without an adapter anywhere is the same with workers and in process; a file for which an
adapter was registered in the process is not. An adapter that the workers know too may throw that
there is no memory left, but an error whose class alone tells this is another one when it gets back
from a worker. -/
theorem alike_with_threads_iff_sessions :
    let threads := fun builtins : Registry =>
      ({ workers := some (WorkerScript.indexingWith builtins) } : GenerateOptions)
    let outOfMemory := throwingSession
      (.failure { Failure.of .general "" with code := some (.str "ENOMEM") })
    Alike ((generate (threads .initial) [⟨"b.txt", "", none⟩]).run plainSession).1
      ((generate {} [⟨"b.txt", "", none⟩]).run plainSession).1
    ∧ ¬ Alike ((generate (threads .initial) [⟨"a.p", "", none⟩]).run plainSession).1
      ((generate {} [⟨"a.p", "", none⟩]).run plainSession).1
    ∧ Alike ((generate (threads outOfMemory.registry) twoFiles).run outOfMemory).1
      ((generate {} twoFiles).run outOfMemory).1
    ∧ ¬ Alike
      ((generate (threads (throwingSession (.failure uncoded)).registry) twoFiles).run
        (throwingSession (.failure uncoded))).1
      ((generate {} twoFiles).run (throwingSession (.failure uncoded))).1 := by
  intro threads outOfMemory
  refine ⟨?_, ?_, ?_, ?_⟩
  · exact (alike_with_threads_iff .initial {} [⟨"b.txt", "", none⟩] plainSession rfl).1.mpr
      (by decide +kernel)
  · exact (alike_with_threads_iff .initial {} [⟨"a.p", "", none⟩] plainSession rfl).1.not.mpr
      (by decide +kernel)
  · exact (alike_with_threads_iff outOfMemory.registry {} twoFiles outOfMemory rfl).1.mpr
      (by decide +kernel)
  · exact (alike_with_threads_iff _ {} twoFiles (throwingSession (.failure uncoded)) rfl).1.not.mpr
      (by decide +kernel)

/-- The adapter that was registered for an extension indexes a file in process; workers do not know
this adapter. -/
theorem threads_without_registered_adapter :
    ((generate {} [⟨"a.p", "x", none⟩]).run plainSession).1.toOption.map Generated.failures
        = some []
    ∧ ((generate { workers := some WorkerScript.indexing } [⟨"a.p", "x", none⟩]).run
        plainSession).1.toOption.map Generated.failures
      = some [⟨"a.p", .unsupportedLanguage, "No adapter for extension: .p", none⟩] := by
  decide +kernel

end Generation

end CallAtlas
