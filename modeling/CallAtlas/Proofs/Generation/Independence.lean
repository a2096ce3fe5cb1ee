import CallAtlas.Proofs.Generation.Model
import CallAtlas.Proofs.Json.Order

/-!
# What the result of a generation depends on

Files under different paths give one result, in whatever order they are given and finished and with
any number of workers. Each file adds an entry to the model or a failure, under its own path, and
their places in the result are told by the paths. Hence what is found of one file changes nothing
that is said of the others.
-/

namespace CallAtlas

namespace Generation

open Run

/-! ## Model and failures in order -/

/-- Does the first path come before the second one in a model that has both? -/
def Comes (a b : Text) : Prop :=
  Json.Precedes a b ∧ (Json.arrayIndex? a = none → Json.arrayIndex? b = none → a ≤ b)

lemma Comes.asymm {a b : Text} (h : Comes a b) (h' : Comes b a) : False := by
  obtain ⟨hab, hle⟩ := h
  obtain ⟨hba, hle'⟩ := h'
  unfold Json.Precedes at hab hba
  cases ha : Json.arrayIndex? a with
  | none =>
    cases hb : Json.arrayIndex? b with
    | none =>
      simp only [ha, hb] at hab
      exact hab (List.le_antisymm (hle ha hb) (hle' hb ha))
    | some j => simp only [ha, hb] at hab
  | some i =>
    cases hb : Json.arrayIndex? b with
    | none => simp only [ha, hb] at hba
    | some j =>
      simp only [ha, hb] at hab hba
      omega

section

variable {indexed : List (Text × FileModel)} {fs : List FileFailure}

/-- The order of the files of a model is told by their paths. -/
theorem pairwise_files_modelOf (hnodup : (indexed.map Prod.fst).Nodup) :
    (modelOf indexed).files.Pairwise fun a b => Comes a.1 b.1 := by
  have horder : (modelOf indexed).files.Pairwise fun a b => Json.Precedes a.1 b.1 :=
    List.pairwise_map.mp (Json.inOrder_orderMembers _)
  -- The paths that are no array indexes stay in the order of the texts.
  have hnames : ((modelOf indexed).files.filter Json.isNamed).Pairwise fun a b => a.1 ≤ b.1 := by
    have hsort := List.mergeSort_perm indexed fun a b => !Text.before b.1 a.1
    rw [modelOf, Json.filter_orderMembers ((hsort.map Prod.fst).nodup_iff.mpr hnodup)]
    exact (Text.pairwise_mergeSort_key Prod.fst indexed).filter _
  apply (horder.and (List.pairwise_filter.mp hnames)).imp
  rintro a b ⟨hab, hle⟩
  exact ⟨hab, fun ha hb => hle (by rw [Json.isNamed, ha]; rfl) (by rw [Json.isNamed, hb]; rfl)⟩

/-- A model without some entries is the model of the other ones. -/
theorem filter_files_modelOf (hnodup : (indexed.map Prod.fst).Nodup)
    (p : Text × FileModel → Bool) :
    (modelOf indexed).files.filter p = (modelOf (indexed.filter p)).files := by
  have hnodup' : ((indexed.filter p).map Prod.fst).Nodup :=
    (List.filter_sublist.map Prod.fst).nodup hnodup
  have hperm : ((modelOf indexed).files.filter p).Perm (modelOf (indexed.filter p)).files :=
    ((files_modelOf_perm hnodup).filter p).trans (files_modelOf_perm hnodup').symm
  apply hperm.eq_of_pairwise _ ((pairwise_files_modelOf hnodup).filter p)
    (pairwise_files_modelOf hnodup')
  intro a b _ _ hab hba
  exact (hab.asymm hba).elim

/-- Failures without some of them are in the order of the other ones. -/
theorem filter_orderFailures (hnodup : (fs.map FileFailure.path).Nodup) (p : FileFailure → Bool) :
    (orderFailures fs).filter p = orderFailures (fs.filter p) := by
  obtain ⟨hperm, hsorted⟩ := orderFailures_spec fs
  obtain ⟨hperm', hsorted'⟩ := orderFailures_spec (fs.filter p)
  apply Text.eq_of_perm_of_pairwise_key FileFailure.path _ ((hperm.filter p).trans hperm'.symm)
    (hsorted.filter p) hsorted'
  rw [((hperm.filter p).map FileFailure.path).nodup_iff]
  exact (List.filter_sublist.map FileFailure.path).nodup hnodup

end

/-! ## Files one by one -/

/-- The entries of files that are indexed. -/
def entriesOf (outcome : QueuedFile → Except Thrown FileOutcome) (files : List SourceFile) :
    List (Text × FileModel) :=
  files.filterMap fun file => indexedIn (outcome (Queue.queued file))

/-- The failures of files that are not. -/
def failuresOf (outcome : QueuedFile → Except Thrown FileOutcome) (files : List SourceFile) :
    List FileFailure :=
  files.filterMap fun file => failureIn (Queue.queued file) (outcome (Queue.queued file))

section

variable {β : Type} {found : SourceFile → Option β} {path : β → Text} {file : SourceFile}
  {before after : List SourceFile}

/-- What is found of all files but one is what is found of the other files. -/
lemma filter_filterMap_ne (h : ∀ file e, found file = some e → path e = normalPath file)
    (hnodup : ((before ++ file :: after).map normalPath).Nodup) :
    ((before ++ file :: after).filterMap found).filter (fun e => path e ≠ normalPath file)
      = (before ++ after).filterMap found := by
  have hmiddle := (List.perm_middle.map normalPath).nodup_iff.mp hnodup
  rw [List.map_cons, List.map_append] at hmiddle
  have hother := (List.nodup_cons.mp hmiddle).1
  have hkeep : ∀ fs : List SourceFile, normalPath file ∉ fs.map normalPath →
      (fs.filterMap found).filter (fun e => path e ≠ normalPath file) = fs.filterMap found := by
    intro fs hfs
    apply List.filter_eq_self.mpr
    intro e he
    obtain ⟨other, hmem, hfound⟩ := List.mem_filterMap.mp he
    rw [decide_eq_true_eq, h other e hfound]
    exact fun heq => hfs (heq ▸ List.mem_map_of_mem hmem)
  rw [List.filterMap_append, List.filterMap_append, List.filter_append,
    hkeep before fun hmem => hother (List.mem_append_left _ hmem)]
  congr 1
  rw [List.filterMap_cons]
  cases hfound : found file with
  | none => exact hkeep after fun hmem => hother (List.mem_append_right _ hmem)
  | some e =>
    simp only
    rw [List.filter_cons_of_neg (by simpa using h file e hfound)]
    exact hkeep after fun hmem => hother (List.mem_append_right _ hmem)

end

section

variable {x : Indexing} {maxFileBytes : Number} {files : List SourceFile}

lemma fst_of_indexedIn {file : SourceFile} {e : Text × FileModel}
    (h : indexedIn (x.outcome maxFileBytes (Queue.queued file)) = some e) :
    e.1 = normalPath file :=
  x.path_of_outcome (indexedIn_eq_some_iff.mp h)

/-- Entries of files under different paths are under different paths. -/
lemma nodup_entriesOf (hnodup : (files.map normalPath).Nodup) :
    ((entriesOf (x.outcome maxFileBytes) files).map Prod.fst).Nodup :=
  (map_filterMap_sublist fun _ _ _ h => fst_of_indexedIn h).nodup hnodup

lemma nodup_failuresOf (hnodup : (files.map normalPath).Nodup) :
    ((failuresOf (x.outcome maxFileBytes) files).map FileFailure.path).Nodup :=
  (map_filterMap_sublist fun _ _ _ h => x.path_of_failureIn h).nodup hnodup

end

/-! ## Runs that finish all files -/

/-- What holds of two results that say the same of the files, apart from the reports on the way. -/
structure Agrees (g g' : Generated) : Prop where
  model : g.model = g'.model
  failures : g.failures = g'.failures
  stats : g.stats = g'.stats

/-- What holds of a run that has finished all files. -/
structure Settled {ρ : Type} (outcome : QueuedFile → Except Thrown FileOutcome)
    (files : List SourceFile) (r : Run ρ) : Prop where
  waiting : r.waiting = []
  fault : r.fault = none
  indexed : r.indexed.Perm (entriesOf outcome files)
  failures : r.failures.Perm (failuresOf outcome files)

lemma queueOf_of_nodup {files : List SourceFile} (hnodup : (files.map normalPath).Nodup) :
    queueOf files = files.map Queue.queued := by
  rw [queueOf, firstsBy_of_nodup hnodup]

variable {x : Indexing} {maxFileBytes : Number} {files files' : List SourceFile}

lemma FaultFree.perm {outcome : QueuedFile → Except Thrown FileOutcome}
    (h : FaultFree outcome files) (hnodup : (files.map normalPath).Nodup)
    (hperm : files.Perm files') :
    FaultFree outcome files' := by
  intro f hf
  rw [queueOf_of_nodup ((hperm.map normalPath).nodup_iff.mp hnodup)] at hf
  apply h
  rw [queueOf_of_nodup hnodup]
  exact (hperm.map Queue.queued).mem_iff.mpr hf

/-- A run over files under different paths finishes all of them if nobody aborts it and it meets no
fault. -/
theorem settled_of_reaches {concurrency : Number} (hworkers : 0 < concurrency.floor.toNat)
    (hnodup : (files.map normalPath).Nodup) (hfree : FaultFree (x.outcome maxFileBytes) files)
    {r : Run x.State} (h : Reaches (x.runner maxFileBytes) (x.begin concurrency files) r)
    (hover : r.isOver) (haborted : r.aborted = false) :
    Settled (x.outcome maxFileBytes) files r := by
  have hwhole := whole_of_reaches hworkers h hover haborted
    (fault_eq_none_of_reaches h hover hfree)
  obtain ⟨found, hfailures, hfound⟩ := hwhole.failures
  have hindexed := hwhole.indexed
  rw [duplicateFailures, repeatsBy_of_nodup hnodup, List.map_nil, List.nil_append] at hfailures
  rw [queueOf_of_nodup hnodup, List.filterMap_map] at hindexed hfound
  exact ⟨hwhole.waiting, hwhole.fault, hindexed, hfailures ▸ hfound⟩

/-- The result of a run that has finished all files. -/
lemma Settled.outcomeOf_eq {ρ : Type} {r : Run ρ} {outcome : QueuedFile → Except Thrown FileOutcome}
    (h : Settled outcome files r) (fileCount : ℕ) :
    outcomeOf fileCount r = .ok (resultOf fileCount r) := by
  rw [outcomeOf, h.fault]

/-- Its model and its failures are those of the files one by one. -/
lemma Settled.resultOf_eq {r : Run x.State} (h : Settled (x.outcome maxFileBytes) files r)
    (hnodup : (files.map normalPath).Nodup) (fileCount : ℕ) :
    (resultOf fileCount r).model = modelOf (entriesOf (x.outcome maxFileBytes) files)
      ∧ (resultOf fileCount r).failures
          = orderFailures (failuresOf (x.outcome maxFileBytes) files) := by
  have hfailures : (r.failures ++ r.waiting.map Queue.cancelled).Perm
      (failuresOf (x.outcome maxFileBytes) files) := by
    rw [h.waiting, List.map_nil, List.append_nil]
    exact h.failures
  constructor
  · exact (modelOf_eq_of_perm (nodup_entriesOf hnodup) h.indexed.symm).symm
  · exact (Text.mergeSort_key_eq_of_perm FileFailure.path (nodup_failuresOf hnodup)
      hfailures.symm).symm

/-- Runs that have finished the same files have the same result, in whatever order these were given
and finished. -/
theorem Settled.agrees {r r' : Run x.State} (h : Settled (x.outcome maxFileBytes) files r)
    (h' : Settled (x.outcome maxFileBytes) files' r') (hnodup : (files.map normalPath).Nodup)
    (hperm : files.Perm files') :
    Agrees (resultOf files.length r) (resultOf files'.length r') := by
  have hnodup' : (files'.map normalPath).Nodup := (hperm.map normalPath).nodup_iff.mp hnodup
  have hentries : (entriesOf (x.outcome maxFileBytes) files).Perm
      (entriesOf (x.outcome maxFileBytes) files') := hperm.filterMap _
  have hmodel : (resultOf files.length r).model = (resultOf files'.length r').model := by
    rw [(h.resultOf_eq hnodup _).1, (h'.resultOf_eq hnodup' _).1,
      modelOf_eq_of_perm (nodup_entriesOf hnodup) hentries]
  have hfailures : (resultOf files.length r).failures = (resultOf files'.length r').failures := by
    rw [(h.resultOf_eq hnodup _).2, (h'.resultOf_eq hnodup' _).2]
    exact Text.mergeSort_key_eq_of_perm FileFailure.path (nodup_failuresOf hnodup)
      (hperm.filterMap _)
  refine ⟨hmodel, hfailures, ?_⟩
  -- The numbers count the files, the entries, the failures and the definitions of the model.
  have hlength := (h.indexed.trans (hentries.trans h'.indexed.symm)).length_eq
  simp only [resultOf] at hmodel hfailures ⊢
  rw [hmodel, hfailures, hlength, hperm.length_eq]

/-- What is said of all files but one is what is said of the other files. -/
lemma Settled.filter_ne {before after : List SourceFile} {file : SourceFile} {r : Run x.State}
    (h : Settled (x.outcome maxFileBytes) (before ++ file :: after) r)
    (hnodup : ((before ++ file :: after).map normalPath).Nodup) (fileCount : ℕ) :
    ((resultOf fileCount r).model.files.filter fun e => e.1 ≠ normalPath file)
        = (modelOf (entriesOf (x.outcome maxFileBytes) (before ++ after))).files
      ∧ ((resultOf fileCount r).failures.filter fun e => e.path ≠ normalPath file)
        = orderFailures (failuresOf (x.outcome maxFileBytes) (before ++ after)) := by
  obtain ⟨hmodel, hfailures⟩ := h.resultOf_eq hnodup fileCount
  rw [hmodel, hfailures, filter_files_modelOf (nodup_entriesOf hnodup),
    filter_orderFailures (nodup_failuresOf hnodup)]
  constructor
  · exact congrArg (fun entries => (modelOf entries).files)
      (filter_filterMap_ne (fun _ _ => fst_of_indexedIn) hnodup)
  · exact congrArg orderFailures
      (filter_filterMap_ne (fun _ _ => x.path_of_failureIn) hnodup)

/-! ## The job -/

variable {options : GenerateOptions} {registry : Registry}

/-- Which files there are makes no difference to where they are indexed, if there are any. -/
lemma indexingOf_eq (hnodup : (files.map normalPath).Nodup)
    (hnodup' : (files'.map normalPath).Nodup) (hempty : files.isEmpty = files'.isEmpty) :
    indexingOf options registry files = indexingOf options registry files' := by
  rw [indexingOf, indexingOf, indexingIn, indexingIn, queueOf_of_nodup hnodup, queueOf_of_nodup hnodup', List.isEmpty_map,
    List.isEmpty_map, hempty]

/-- A generation gives the result of a run that has finished all files. -/
lemma exists_settled_of_generate {σ : Type} {s : Session σ}
    (hworkers : ∀ script, options.workers = some script → script = WorkerScript.indexing)
    (habort : options.abortAfter = none) (hnodup : (files.map normalPath).Nodup)
    (hx : indexingOf options s.registry files = x)
    (hfree : FaultFree (x.outcome options.maxFileBytes) files) :
    ∃ r : Run x.State, Settled (x.outcome options.maxFileBytes) files r
      ∧ ((generate options files).run s).1 = .ok (resultOf files.length r) := by
  subst hx
  have hsettled := settled_of_reaches
    (floor_resolveConcurrency_pos s.host.defaultConcurrency options.concurrency
      (queueOf files).length) hnodup hfree
    (reaches_complete _ options.abortAfter _) (isOver_complete _ _ _ _ _ _)
    (aborted_runWith habort)
  exact ⟨_, hsettled, (run_generate options files s hworkers).trans (hsettled.outcomeOf_eq _)⟩

/-- Where files have different paths and neither an abort nor a fault comes in between, a generation
gives the result of every run over the files, whatever their order, the number of workers and the
order in which these finish. Another content of one file changes no entry and no failure under
another path. -/
theorem generate_independent {σ : Type} (options : GenerateOptions) (files : List SourceFile)
    (s : Session σ)
    (hworkers : ∀ script, options.workers = some script → script = WorkerScript.indexing)
    (habort : options.abortAfter = none) (hnodup : (files.map normalPath).Nodup)
    (hfree : FaultFree ((indexingOf options s.registry files).outcome options.maxFileBytes) files) :
    ∃ g, ((generate options files).run s).1 = .ok g
      ∧ (∀ files', files.Perm files' → ∀ (byDefault : ℕ) (wanted : Option Number),
          let x := indexingOf options s.registry files'
          let concurrency := resolveConcurrency byDefault wanted (queueOf files').length
          ∀ r, Reaches (x.runner options.maxFileBytes) (x.begin concurrency files') r → r.isOver →
            r.aborted = false → ∃ g', outcomeOf files'.length r = .ok g' ∧ Agrees g' g)
      ∧ ∀ before file after content, files = before ++ file :: after →
          let changed := before ++ { file with content } :: after
          FaultFree ((indexingOf options s.registry changed).outcome options.maxFileBytes) changed →
          ∃ g', ((generate options changed).run s).1 = .ok g'
            ∧ (g'.model.files.filter fun e => e.1 ≠ normalPath file)
                = (g.model.files.filter fun e => e.1 ≠ normalPath file)
            ∧ (g'.failures.filter fun e => e.path ≠ normalPath file)
                = (g.failures.filter fun e => e.path ≠ normalPath file) := by
  obtain ⟨x, hx⟩ : ∃ x, indexingOf options s.registry files = x := ⟨_, rfl⟩
  rw [hx] at hfree
  obtain ⟨r, hr, hg⟩ := exists_settled_of_generate hworkers habort hnodup hx hfree
  refine ⟨_, hg, ?_, ?_⟩
  · intro files' hperm byDefault wanted
    have hnodup' := (hperm.map normalPath).nodup_iff.mp hnodup
    rw [← indexingOf_eq hnodup hnodup' hperm.isEmpty_eq, hx]
    intro x' concurrency r' hreaches hover haborted
    have hr' := settled_of_reaches (floor_resolveConcurrency_pos byDefault wanted _) hnodup'
      (hfree.perm hnodup hperm) hreaches hover haborted
    exact ⟨_, hr'.outcomeOf_eq _, hr'.agrees hr hnodup' hperm.symm⟩
  · rintro before file after content rfl changed hfree'
    have hpaths : changed.map normalPath = (before ++ file :: after).map normalPath := by
      rw [List.map_append, List.map_append]
      rfl
    have hnodup' : (changed.map normalPath).Nodup := hpaths ▸ hnodup
    have hsome : ∀ f : SourceFile, (before ++ f :: after).isEmpty = false := fun f =>
      List.isEmpty_eq_false_iff.mpr
        (List.append_ne_nil_of_right_ne_nil before (List.cons_ne_nil f after))
    have hx' : indexingOf options s.registry changed = x :=
      (indexingOf_eq hnodup' hnodup ((hsome _).trans (hsome _).symm)).trans hx
    rw [hx'] at hfree'
    obtain ⟨r', hr', hg'⟩ := exists_settled_of_generate hworkers habort hnodup' hx' hfree'
    obtain ⟨hmodel, hfailures⟩ := hr.filter_ne hnodup (before ++ file :: after).length
    obtain ⟨hmodel', hfailures'⟩ := hr'.filter_ne hnodup' changed.length
    exact ⟨_, hg', hmodel'.trans hmodel.symm, hfailures'.trans hfailures.symm⟩

/-- Two files and between them one without an adapter. -/
def threeFiles : List SourceFile := [⟨"a.p", "x", none⟩, ⟨"b.txt", "", none⟩, ⟨"./c.p", "", none⟩]

/-- A session with the registry of one adapter. -/
def plainSession : Session Unit := { host := default, world := (), registry := plainRegistry }

/-- The run of two workers over these files from the last one to the first one, before its first
move. -/
def lateStart : Run Registry :=
  (Indexing.inProcess plainRegistry).begin
    (resolveConcurrency 4 (some 2) (queueOf threeFiles.reverse).length) threeFiles.reverse

/-- This run to its end. The file that is taken first is finished last. -/
def lateRun : Run Registry :=
  let R := Runner.inProcess Index.defaultMaxFileBytes
  let begun := (lateStart.take R).take R
  (((((begun.finishAt R 1).take R).finishAt R 1).take R).finishAt R 0).take R

lemma reaches_lateRun :
    Reaches (Runner.inProcess Index.defaultMaxFileBytes) lateStart lateRun := by
  -- from the last move back to the first one
  apply Reaches.step _ (.take (by decide +kernel))
  apply Reaches.step _ (.finish 0 (by decide +kernel))
  apply Reaches.step _ (.take (by decide +kernel))
  apply Reaches.step _ (.finish 1 (by decide +kernel))
  apply Reaches.step _ (.take (by decide +kernel))
  apply Reaches.step _ (.finish 1 (by decide +kernel))
  apply Reaches.step _ (.take (by decide +kernel))
  apply Reaches.step _ (.take (by decide +kernel))
  exact .refl

/-- One worker that finishes the three files in their order gives the result of this run. With
another text in the first file, the other file and the failure are as before. -/
theorem generate_independent_threeFiles : ∃ g g' g'',
    ((generate { concurrency := some 1 } threeFiles).run plainSession).1 = .ok g
    ∧ outcomeOf 3 lateRun = .ok g' ∧ Agrees g' g
    ∧ ((generate { concurrency := some 1 } (⟨"a.p", "y", none⟩ :: threeFiles.tail)).run
        plainSession).1 = .ok g''
    ∧ (g''.model.files.filter fun e => e.1 ≠ Text.ofString "a.p")
        = (g.model.files.filter fun e => e.1 ≠ Text.ofString "a.p")
    ∧ (g''.failures.filter fun e => e.path ≠ Text.ofString "a.p")
        = (g.failures.filter fun e => e.path ≠ Text.ofString "a.p") := by
  obtain ⟨g, hg, hruns, hchanged⟩ := generate_independent { concurrency := some 1 } threeFiles
    plainSession (fun script h => by cases h) rfl (by decide +kernel)
    (by unfold FaultFree; decide +kernel)
  obtain ⟨g', hg', hagrees⟩ := hruns threeFiles.reverse (List.reverse_perm _).symm 4 (some 2)
    lateRun reaches_lateRun (by unfold isOver; decide +kernel) (by decide +kernel)
  obtain ⟨g'', hg'', hmodel, hfailures⟩ := hchanged [] ⟨"a.p", "x", none⟩ threeFiles.tail "y" rfl
    (by unfold FaultFree; decide +kernel)
  have hpath : normalPath ⟨"a.p", "x", none⟩ = Text.ofString "a.p" := by decide +kernel
  rw [hpath] at hmodel hfailures
  exact ⟨g, g', g'', hg, hg', hagrees, hg'', hmodel, hfailures⟩

end Generation

end CallAtlas
