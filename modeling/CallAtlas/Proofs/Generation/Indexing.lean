import CallAtlas.Generation.Basic
import CallAtlas.Proofs.Keys
import CallAtlas.Proofs.Generation.Serving

/-!
# What a generation starts from

The queue holds the first file of each path; the other files have failures of their own. Files are
indexed in process or in a pool, and either way each of them has a definite outcome.
-/

namespace CallAtlas

namespace Generation

/-! ## The queue -/

/-- The path under which a file is known. -/
def normalPath (file : SourceFile) : Text := Path.normalize file.path

/-- The first file of each path, in the order in which they are given. -/
def queueOf (files : List SourceFile) : List QueuedFile :=
  (firstsBy normalPath files).map Queue.queued

/-- The failures of the files whose path another file before them has. -/
def duplicateFailures (files : List SourceFile) : List FileFailure :=
  (repeatsBy normalPath files).map fun file => Queue.repeatedPath (normalPath file)

/-- The walk that makes the queue keeps the files with fresh paths. -/
lemma firsts_eq_freshBy (met : List Text) (fs : List QueuedFile) :
    Queue.firsts met fs = freshBy QueuedFile.path met fs := by
  induction fs generalizing met with
  | nil => rfl
  | cons f rest ih =>
    rw [Queue.firsts, freshBy_cons, ih, ih]
    by_cases hf : f.path ∈ met
    · rw [if_pos (List.contains_iff_mem.mpr hf), if_pos hf]
    · rw [if_neg fun h => hf (List.contains_iff_mem.mp h), if_neg hf]

/-- The walk that makes the queue tells the other paths. -/
lemma repeats_eq_staleBy (met : List Text) (fs : List QueuedFile) :
    Queue.repeats met fs = (staleBy QueuedFile.path met fs).map QueuedFile.path := by
  induction fs generalizing met with
  | nil => rfl
  | cons f rest ih =>
    rw [Queue.repeats, staleBy_cons, ih, ih]
    by_cases hf : f.path ∈ met
    · rw [if_pos (List.contains_iff_mem.mpr hf), if_pos hf, List.map_cons]
    · rw [if_neg fun h => hf (List.contains_iff_mem.mp h), if_neg hf]

lemma ofFiles_eq_queueOf (files : List SourceFile) : Queue.ofFiles files = queueOf files := by
  rw [Queue.ofFiles, firsts_eq_freshBy]
  exact firstsBy_map QueuedFile.path Queue.queued files

lemma repeatFailures_eq_duplicateFailures (files : List SourceFile) :
    Queue.repeatFailures files = duplicateFailures files := by
  have hmap : staleBy QueuedFile.path [] (files.map Queue.queued)
      = (repeatsBy normalPath files).map Queue.queued :=
    repeatsBy_map QueuedFile.path Queue.queued files
  rw [Queue.repeatFailures, repeats_eq_staleBy, hmap, List.map_map, List.map_map,
    duplicateFailures]
  rfl

/-- No two files of the queue have the same path. -/
lemma nodup_map_path_queueOf (files : List SourceFile) :
    ((queueOf files).map QueuedFile.path).Nodup := by
  rw [queueOf, List.map_map]
  exact nodup_map_firstsBy normalPath files

/-- Every file is in the queue or has a failure of its own. -/
lemma length_queueOf_add_length_duplicateFailures (files : List SourceFile) :
    (queueOf files).length + (duplicateFailures files).length = files.length := by
  rw [queueOf, duplicateFailures, List.length_map, List.length_map]
  exact length_firstsBy_add_length_repeatsBy normalPath files

/-! ## Where files are indexed -/

/-- Where the files of a generation are indexed: in process with a registry, or by a pool of
workers that run the indexing script with the registry that they begin with. -/
inductive Indexing where
  | inProcess (registry : Registry)
  | inPool (builtins : Registry)

namespace Indexing

/-- What the runner has as its state. -/
def State : Indexing → Type
  | inProcess _ => Registry
  | inPool _ => PoolRun

/-- How files are worked on. -/
def runner (maxFileBytes : Number) : (x : Indexing) → Runner x.State
  | inProcess _ => Runner.inProcess maxFileBytes
  | inPool builtins => Runner.inPool (WorkerScript.indexingWith builtins) maxFileBytes

/-- The state of the runner before the first file. -/
def start (concurrency : Number) : (x : Indexing) → x.State
  | inProcess registry => registry
  | inPool _ => ⟨Pool.start concurrency.ceil.toNat, []⟩

/-- What becomes of a file. -/
def outcome (maxFileBytes : Number) : Indexing → QueuedFile → Except Thrown FileOutcome
  | inProcess registry => fun f => (Index.indexFile registry maxFileBytes f.file).2.1
  | inPool builtins => fun f => Pool.resultOf (WorkerScript.index builtins maxFileBytes f.file)

/-- The run of a generation before its first move. -/
def begin (x : Indexing) (concurrency : Number) (files : List SourceFile) : Run x.State :=
  Run.begin (x.start concurrency) (Queue.ofFiles files) concurrency.floor.toNat
    (Queue.repeatFailures files)

lemma begin_eq (x : Indexing) (concurrency : Number) (files : List SourceFile) :
    x.begin concurrency files
      = Run.begin (x.start concurrency) (queueOf files) concurrency.floor.toNat
          (duplicateFailures files) := by
  rw [begin, ofFiles_eq_queueOf, repeatFailures_eq_duplicateFailures]

/-- What the runner of a generation keeps true of its state. -/
def Keeps (workers : Nat) :
    (x : Indexing) → List QueuedFile → List QueuedFile → x.State → Prop
  | inProcess registry => fun _ _ r => Registry.view r = registry.view
  | inPool _ => Runner.Serving workers

/-- Every file has a definite outcome. -/
theorem serves (x : Indexing) (maxFileBytes : Number) (workers : Nat) :
    (x.runner maxFileBytes).Serves workers (x.outcome maxFileBytes) (x.Keeps workers) := by
  cases x with
  | inProcess registry =>
    have houtcome : (inProcess registry).outcome maxFileBytes
        = fun f => Index.outcomeIn registry.view maxFileBytes f.file :=
      funext fun f => (Index.indexFile_spec registry maxFileBytes f.file).2
    rw [houtcome]
    exact Runner.inProcess_serves registry.view maxFileBytes workers
  | inPool builtins =>
    have hreact : ∀ file, (WorkerScript.indexingWith builtins).react maxFileBytes file
        = .reply (WorkerScript.index builtins maxFileBytes file) := fun _ => rfl
    exact Runner.inPool_serves hreact workers

/-- The runner of a generation starts well. -/
lemma keeps_start (x : Indexing) (concurrency : Number) :
    x.Keeps concurrency.floor.toNat [] [] (x.start concurrency) := by
  cases x with
  | inProcess registry => rfl
  | inPool builtins =>
    apply (Runner.serving_start _).mono
    apply Int.toNat_le_toNat
    have hfloor := Rat.floor_le concurrency
    have hceil : concurrency ≤ concurrency.ceil := Rat.le_ceil
    exact Rat.intCast_le_intCast.mp (Rat.le_trans hfloor hceil)

variable {x : Indexing} {maxFileBytes : Number} {file : SourceFile}

/-- What becomes of a file is what some registry has for it. -/
lemma exists_outcomeIn_of_outcome {o : FileOutcome}
    (h : x.outcome maxFileBytes (Queue.queued file) = .ok o) :
    ∃ v, Index.outcomeIn v maxFileBytes file = .ok o := by
  have hin : ∃ registry : Registry, (Index.indexFile registry maxFileBytes file).2.1 = .ok o := by
    cases x with
    | inProcess registry => exact ⟨registry, h⟩
    | inPool builtins => exact ⟨builtins, Runner.resultOf_index_eq_ok_iff.mp h⟩
  obtain ⟨registry, hindexed⟩ := hin
  rw [(Index.indexFile_spec registry maxFileBytes file).2] at hindexed
  exact ⟨registry.view, hindexed⟩

/-- A file that is in the model is there under its path. -/
lemma path_of_outcome {path : Text} {m : FileModel}
    (h : x.outcome maxFileBytes (Queue.queued file) = .ok (.indexed path m)) :
    path = normalPath file := by
  obtain ⟨v, hindexed⟩ := exists_outcomeIn_of_outcome h
  exact Index.path_of_outcomeIn_eq_indexed hindexed

/-- A file fails under its path. -/
lemma path_of_failureIn {e : FileFailure}
    (h : Run.failureIn (Queue.queued file) (x.outcome maxFileBytes (Queue.queued file)) = some e) :
    e.path = normalPath file := by
  unfold Run.failureIn at h
  split at h
  · cases h
  · next hfailed =>
    obtain rfl := Option.some.inj h
    obtain ⟨v, hout⟩ := exists_outcomeIn_of_outcome hfailed
    exact (Index.of_outcomeIn_eq_failed hout).1
  · split at h
    · cases h
    · rw [← Option.some.inj h]
      rfl

/-- An entry of a file of the queue is under its path. -/
lemma path_of_outcome_queueOf (x : Indexing) (maxFileBytes : Number) (files : List SourceFile) :
    ∀ f ∈ queueOf files, ∀ path m,
      x.outcome maxFileBytes f = .ok (.indexed path m) → path = f.path := by
  intro f hf path m hout
  obtain ⟨file, -, rfl⟩ := List.mem_map.mp hf
  exact path_of_outcome hout

/-- A failure of a file of the queue is under its path. -/
lemma path_of_failureIn_queueOf (x : Indexing) (maxFileBytes : Number) (files : List SourceFile) :
    ∀ f ∈ queueOf files, ∀ e,
      Run.failureIn f (x.outcome maxFileBytes f) = some e → e.path = f.path := by
  intro f hf e he
  obtain ⟨file, -, rfl⟩ := List.mem_map.mp hf
  exact path_of_failureIn he

end Indexing

/-- A generation has at least one worker. -/
lemma floor_resolveConcurrency_pos (byDefault : Nat) (wanted : Option Number) (fileCount : Nat) :
    0 < (resolveConcurrency byDefault wanted fileCount).floor.toNat := by
  have hone : ∀ n : Number, (1 : Number) ≤ Number.atLeast 1 n := by
    intro n
    rw [Number.atLeast]
    split
    · exact Rat.le_refl
    · rename_i h
      exact Rat.not_lt.mp h
  have hfloor : (1 : Int) ≤ (resolveConcurrency byDefault wanted fileCount).floor :=
    Rat.le_floor_iff.mpr (hone _)
  omega

end Generation

end CallAtlas
