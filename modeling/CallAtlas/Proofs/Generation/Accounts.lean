import CallAtlas.Proofs.Generation.Indexing
import CallAtlas.Proofs.Json.Order
import CallAtlas.Proofs.Text.Order

/-!
# A generation accounts for every file

Whatever the workers do in which order, and whenever the generation is aborted: the files that were
taken are a beginning of the queue, each of them is finished once, and model, failures, reports and
numbers say of every file what became of it.
-/

namespace CallAtlas

namespace Generation

/-- What a generation tells of its files when the first `k` files of the queue were finished, in
some order. -/
structure Accounts (files : List SourceFile)
    (outcome : QueuedFile → Except Thrown FileOutcome) (k : Nat) (finished : List QueuedFile)
    (g : Generated) : Prop where
  le_length : k ≤ (queueOf files).length
  finished_perm : finished.Perm ((queueOf files).take k)
  /-- No path is in the model twice. -/
  nodup_files : (g.model.files.map Prod.fst).Nodup
  mem_files_iff : ∀ path m, (path, m) ∈ g.model.files
    ↔ ∃ f ∈ (queueOf files).take k, f.path = path ∧ outcome f = .ok (.indexed path m)
  failures_perm : g.failures.Perm
    (duplicateFailures files
      ++ ((queueOf files).take k).filterMap (fun f => Run.failureIn f (outcome f))
      ++ ((queueOf files).drop k).map Queue.cancelled)
  failures_sorted : g.failures.Pairwise fun a b => a.path ≤ b.path
  cancelled_iff : g.cancelled = true ↔ k < (queueOf files).length
  /-- The reports count from one to `k`. -/
  progress_current : g.progress.map Progress.current = List.range' 1 k
  /-- There is one report for each file that was finished. -/
  progress_path : g.progress.map Progress.path = finished.map QueuedFile.path
  filesTotal_eq : g.stats.filesTotal = files.length
  filesTotal_eq_sum : g.stats.filesTotal
    = g.stats.filesIndexed + g.stats.filesUnsupported + g.stats.filesFailed
      + g.stats.filesCancelled

/-! ## Model, failures and numbers -/

variable {outcome : QueuedFile → Except Thrown FileOutcome} {done : List QueuedFile}

/-- What is found under the keys of elements has these keys, in the same order. -/
lemma map_filterMap_sublist {α β γ : Type} {found : α → Option β} {key : α → γ} {path : β → γ}
    {as : List α} (h : ∀ a ∈ as, ∀ e, found a = some e → path e = key a) :
    ((as.filterMap found).map path).Sublist (as.map key) := by
  induction as with
  | nil => exact .refl _
  | cons a as ih =>
    have hrest := ih fun b hb => h b (List.mem_cons_of_mem a hb)
    rw [List.map_cons, List.filterMap_cons]
    cases ha : found a with
    | none => exact hrest.cons (key a)
    | some e =>
      simp only
      rw [List.map_cons, h a List.mem_cons_self e ha]
      exact hrest.cons_cons (key a)

/-- What is found under the path of a file is what is found of this file. -/
lemma filter_filterMap_eq {β : Type} {found : QueuedFile → Option β} {path : β → Text}
    {fs : List QueuedFile} {f : QueuedFile}
    (h : ∀ f ∈ fs, ∀ e, found f = some e → path e = f.path)
    (hnodup : (fs.map QueuedFile.path).Nodup) (hf : f ∈ fs) :
    ((fs.filterMap found).filter fun e => path e = f.path) = (found f).toList := by
  rw [List.filterMap_eq_flatMap_toList]
  apply filter_flatMap_eq (List.Nodup.of_map _ hnodup) hf
  · intro e he
    exact decide_eq_true (h f hf e (Option.mem_toList.mp he))
  · intro g hg hne e he
    rw [h g hg e (Option.mem_toList.mp he)]
    exact decide_eq_false fun hpath => hne (List.inj_on_of_nodup_map hnodup hg hf hpath)

/-- What finished files add to the model stands under their paths. -/
lemma map_fst_indexed_sublist
    (hpath : ∀ f ∈ done, ∀ path m, outcome f = .ok (.indexed path m) → path = f.path) :
    ((done.filterMap fun f => Run.indexedIn (outcome f)).map Prod.fst).Sublist
      (done.map QueuedFile.path) :=
  map_filterMap_sublist fun f hf e he => hpath f hf e.1 e.2 (Run.indexedIn_eq_some_iff.mp he)

/-- An entry of the model comes from a file that was finished with it. -/
lemma mem_indexed_iff {path : Text} {m : FileModel} :
    (path, m) ∈ (done.filterMap fun f => Run.indexedIn (outcome f))
      ↔ ∃ f ∈ done, outcome f = .ok (.indexed path m) := by
  rw [List.mem_filterMap]
  exact exists_congr fun f => and_congr_right fun _ => Run.indexedIn_eq_some_iff

/-- Entries under different paths are the files of the model. -/
lemma files_modelOf_perm {indexed : List (Text × FileModel)}
    (h : (indexed.map Prod.fst).Nodup) : (modelOf indexed).files.Perm indexed := by
  have hsort := List.mergeSort_perm indexed fun a b => !Text.before b.1 a.1
  apply (Json.orderMembers_perm _).trans hsort
  exact (hsort.map Prod.fst).nodup_iff.mpr h

/-- Failures are sorted by path, and none is lost. -/
lemma orderFailures_spec (fs : List FileFailure) :
    (orderFailures fs).Perm fs ∧ (orderFailures fs).Pairwise fun a b => a.path ≤ b.path :=
  ⟨List.mergeSort_perm fs _, Text.pairwise_mergeSort_key FileFailure.path fs⟩

/-- Every failure is of one of the kinds that are counted. -/
lemma countKinds_add (fs : List FileFailure) :
    countKinds [.unsupportedLanguage] fs + countKinds [.parseFailure, .workerFailure] fs
      + countKinds [.cancelled] fs = fs.length := by
  induction fs with
  | nil => rfl
  | cons f rest ih =>
    unfold countKinds at ih ⊢
    rw [List.countP_cons, List.countP_cons, List.countP_cons, List.length_cons, ← ih]
    cases f.kind <;> simp <;> omega

/-- Without faults, each finished file is in the model or among the failures. -/
lemma length_indexed_add_length_failures
    (hfault : ∀ f ∈ done, Run.faultIn (outcome f) = none) :
    (done.filterMap fun f => Run.indexedIn (outcome f)).length
      + (done.filterMap fun f => Run.failureIn f (outcome f)).length = done.length := by
  induction done with
  | nil => rfl
  | cons f rest ih =>
    have hone := Run.length_indexedIn_add_length_failureIn (f := f)
      (hfault f List.mem_cons_self)
    have hrest := ih fun g hg => hfault g (List.mem_cons_of_mem f hg)
    rw [List.filterMap_cons, List.filterMap_cons, List.length_cons]
    cases hi : Run.indexedIn (outcome f) <;> cases hx : Run.failureIn f (outcome f) <;>
      rw [hi, hx] at hone <;>
      simp only [Option.toList, List.length_nil, List.length_cons] at hone ⊢ <;> omega

/-! ## A run that is over -/

open Run

variable {ρ : Type} {files : List SourceFile} {workers : Nat} {taken : List QueuedFile}
  {r : Run ρ}

/-- Without faults, a run that is over has a result. -/
lemma outcomeOf_eq_ok
    (hb : Books outcome (queueOf files) workers (duplicateFailures files) taken done r)
    (hfault : ∀ f ∈ done, faultIn (outcome f) = none) (fileCount : Nat) :
    outcomeOf fileCount r = .ok (resultOf fileCount r) := by
  have hnone : r.fault = none := by
    rw [hb.fault, List.filterMap_eq_nil_iff.mpr hfault]
    rfl
  rw [outcomeOf, hnone]

/-- When a run is over, all files that it took are finished: which files these are follows from how
many, in which order they were finished does not. -/
lemma done_perm_take
    (hb : Books outcome (queueOf files) workers (duplicateFailures files) taken done r)
    (hover : r.isOver) : done.Perm ((queueOf files).take taken.length) := by
  rw [← hb.taken_eq_take.1]
  exact hb.done_perm hover

/-- No path was entered twice. -/
lemma nodup_map_fst_indexed
    (hb : Books outcome (queueOf files) workers (duplicateFailures files) taken done r)
    (hdone : done.Perm ((queueOf files).take taken.length))
    (hpath : ∀ f ∈ done, ∀ path m, outcome f = .ok (.indexed path m) → path = f.path) :
    (r.indexed.map Prod.fst).Nodup := by
  rw [hb.indexed]
  apply (map_fst_indexed_sublist hpath).nodup
  rw [(hdone.map QueuedFile.path).nodup_iff, List.map_take]
  exact (nodup_map_path_queueOf files).sublist (List.take_sublist _ _)

/-- Without faults, every finished file is reported. -/
lemma progress_eq_reports
    (hb : Books outcome (queueOf files) workers (duplicateFailures files) taken done r)
    (hfault : ∀ f ∈ done, faultIn (outcome f) = none) :
    r.progress = reports (queueOf files).length done := by
  rw [hb.progress, List.filter_eq_self.mpr]
  intro f hf
  rw [hfault f hf]
  rfl

/-- Each file is a repetition, or it waits, or it was finished with an entry or a failure. -/
lemma filesTotal_eq_sum
    (hb : Books outcome (queueOf files) workers (duplicateFailures files) taken done r)
    (hover : r.isOver) (hfault : ∀ f ∈ done, faultIn (outcome f) = none) :
    let stats := (resultOf files.length r).stats
    stats.filesTotal = stats.filesIndexed + stats.filesUnsupported + stats.filesFailed
      + stats.filesCancelled := by
  intro stats
  have hperm := (orderFailures_spec (r.failures ++ r.waiting.map Queue.cancelled)).1
  have hkinds := countKinds_add (orderFailures (r.failures ++ r.waiting.map Queue.cancelled))
  have hcount := length_indexed_add_length_failures hfault
  have hqueue := congrArg List.length hb.queue_eq
  have hindexed := congrArg List.length hb.indexed
  have hfailures := congrArg List.length hb.failures
  have hdone := (hb.done_perm hover).length_eq
  have hall := length_queueOf_add_length_duplicateFailures files
  rw [hperm.length_eq, List.length_append, List.length_map] at hkinds
  rw [List.length_append] at hqueue hfailures
  simp only [stats, resultOf]
  omega

/-- The books of a run that is over account for every file. -/
theorem accounts_of_books
    (hb : Books outcome (queueOf files) workers (duplicateFailures files) taken done r)
    (hover : r.isOver) (hfault : ∀ f ∈ done, faultIn (outcome f) = none)
    (hpath : ∀ f ∈ queueOf files, ∀ path m, outcome f = .ok (.indexed path m) → path = f.path) :
    Accounts files outcome taken.length done (resultOf files.length r) := by
  have hdone := done_perm_take hb hover
  have hdrop := hb.taken_eq_take.2
  have hpath' : ∀ f ∈ done, ∀ path m, outcome f = .ok (.indexed path m) → path = f.path :=
    fun f hf => hpath f (List.mem_of_mem_take (hdone.mem_iff.mp hf))
  have hnodup := nodup_map_fst_indexed hb hdone hpath'
  have hlength := congrArg List.length hb.queue_eq
  rw [List.length_append] at hlength
  obtain ⟨hperm, hsorted⟩ := orderFailures_spec (r.failures ++ r.waiting.map Queue.cancelled)
  refine ⟨by omega, hdone, ?_, ?_, ?_, hsorted, ?_, ?_, ?_, rfl, filesTotal_eq_sum hb hover hfault⟩
  · exact ((files_modelOf_perm hnodup).map Prod.fst).nodup_iff.mpr hnodup
  · intro path m
    rw [resultOf, (files_modelOf_perm hnodup).mem_iff, hb.indexed, mem_indexed_iff]
    constructor
    · rintro ⟨f, hf, hout⟩
      exact ⟨f, hdone.mem_iff.mp hf, (hpath' f hf path m hout).symm, hout⟩
    · rintro ⟨f, hf, -, hout⟩
      exact ⟨f, hdone.mem_iff.mpr hf, hout⟩
  · apply hperm.trans
    rw [hb.failures, hdrop]
    exact ((hdone.filterMap _).append_left _).append_right _
  · rw [resultOf, hdrop]
    simp
  · rw [resultOf, progress_eq_reports hb hfault, map_current_reports,
      (hb.done_perm hover).length_eq]
  · rw [resultOf, progress_eq_reports hb hfault, map_path_reports]

/-- The run that a generation makes comes to its end; so does every other run, as there is a move
from each state that is not its end, and no move but an abort can be made without end. A run that is
over has a result that accounts for every file: unless the run was aborted, the files that were
finished are all of the queue. -/
theorem accounts_for_every_file (x : Indexing) (options : GenerateOptions) (byDefault : Nat)
    (files : List SourceFile)
    (hfault : ∀ f ∈ queueOf files, faultIn (x.outcome options.maxFileBytes f) = none) :
    let concurrency := resolveConcurrency byDefault options.concurrency (queueOf files).length
    let R := x.runner options.maxFileBytes
    let r₀ := x.begin concurrency files
    (∃ done, Finishes R r₀ done (runWith R (x.start concurrency) options concurrency files))
    ∧ (runWith R (x.start concurrency) options concurrency files).isOver
    ∧ ∀ done r, Finishes R r₀ done r →
        (∀ s, Step R r s → s = r.abort ∨ s.remaining < r.remaining)
        ∧ (¬ r.isOver → ∃ s, Step R r s ∧ s.remaining < r.remaining)
        ∧ (r.isOver → ∃ k g, outcomeOf files.length r = .ok g
            ∧ Accounts files (x.outcome options.maxFileBytes) k done g
            ∧ (r.aborted = false → k = (queueOf files).length)) := by
  intro concurrency R r₀
  refine ⟨?_, isOver_complete R options.abortAfter _ _ _ _, ?_⟩
  · exact reaches_iff_exists_finishes.mp (reaches_complete R options.abortAfter r₀)
  · intro done r h
    refine ⟨fun s => Step.remaining_lt, exists_step_of_not_isOver R, ?_⟩
    intro hover
    rw [show r₀ = _ from x.begin_eq concurrency files] at h
    obtain ⟨taken, hb, -⟩ := books_of_finishes (x.serves options.maxFileBytes _)
      (nodup_map_path_queueOf files) (x.keeps_start concurrency) h
    have hfault' : ∀ f ∈ done, faultIn (x.outcome options.maxFileBytes f) = none := by
      intro f hf
      apply hfault
      rw [← hb.queue_eq]
      exact List.mem_append_left _ ((hb.done_perm hover).mem_iff.mp hf)
    refine ⟨taken.length, _, outcomeOf_eq_ok hb hfault' _,
      accounts_of_books hb hover hfault' ?_, ?_⟩
    · intro f hf path m hout
      obtain ⟨file, -, rfl⟩ := List.mem_map.mp hf
      exact x.path_of_outcome hout
    · intro haborted
      -- Where no file is a fault, only an abort stops the workers.
      have hstopped : r.stopped = false := by
        rw [stopped, haborted, Bool.or_false, hb.fault, List.filterMap_eq_nil_iff.mpr hfault']
        rfl
      have hempty := hb.waiting_eq_nil (floor_resolveConcurrency_pos _ _ _) hover hstopped
      rw [← hb.queue_eq, hempty, List.append_nil]

/-- A registry with an adapter for one extension, which finds nothing in a text. -/
def plainRegistry : Registry where
  entries :=
    [(".p", { languageId := "plain"
              factory := .ok { languageId := "plain", outline := fun _ _ => .ok {} }
              builtin := false })]

/-- A file, the same path again, a file without an adapter and another file. -/
def fourFiles : List SourceFile :=
  [⟨"a.p", "x", none⟩, ⟨"./a.p", "y", none⟩, ⟨"b.txt", "", none⟩, ⟨"c.p", "", none⟩]

/-- Two workers that are stopped after one of the four files. -/
theorem accounts_for_every_file_fourFiles :
    (∀ f ∈ queueOf fourFiles,
      faultIn ((Indexing.inProcess plainRegistry).outcome Index.defaultMaxFileBytes f) = none)
    ∧ ∃ done k g,
        outcomeOf 4 (runWith (Runner.inProcess Index.defaultMaxFileBytes) plainRegistry
          { abortAfter := some 1 } 2 fourFiles) = .ok g
        ∧ Accounts fourFiles
            ((Indexing.inProcess plainRegistry).outcome Index.defaultMaxFileBytes) k done g
        ∧ k < 3 := by
  have hfault : ∀ f ∈ queueOf fourFiles,
      faultIn ((Indexing.inProcess plainRegistry).outcome Index.defaultMaxFileBytes f) = none := by
    decide +kernel
  refine ⟨hfault, ?_⟩
  obtain ⟨⟨done, hdone⟩, hover, hall⟩ := accounts_for_every_file (.inProcess plainRegistry)
    { concurrency := some 2, abortAfter := some 1 } 4 fourFiles hfault
  obtain ⟨k, g, hg, haccounts, -⟩ := (hall done _ hdone).2.2 hover
  have hrun : outcomeOf 4 (runWith (Runner.inProcess Index.defaultMaxFileBytes) plainRegistry
      { abortAfter := some 1 } 2 fourFiles) = .ok g := hg
  have hcancelled : g.cancelled = true := by
    have hsome : (outcomeOf 4 (runWith (Runner.inProcess Index.defaultMaxFileBytes) plainRegistry
        { abortAfter := some 1 } 2 fourFiles)).toOption.any Generated.cancelled := by
      decide +kernel
    rw [hrun] at hsome
    exact hsome
  exact ⟨done, k, g, hrun, haccounts, haccounts.cancelled_iff.mp hcancelled⟩

end Generation

end CallAtlas
