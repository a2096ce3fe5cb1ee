import CallAtlas.Proofs.Generation.Books
import CallAtlas.Proofs.Registry.View
import CallAtlas.Proofs.Workers.Tasks

/-!
# Indexing in process and in a pool

Both ways to have files indexed give every file a definite outcome. In process it is what the
registry offers that decides it, and this never changes. In a pool with at least as many workers as
a run has, every file that is handed in is at once with a worker of its own, and the worker's answer
is the outcome.
-/

namespace CallAtlas

namespace Runner

/-! ## In process -/

/-- In process, the outcome of a file is decided by what the registry offers. -/
theorem inProcess_serves (v : RegistryView) (maxFileBytes : Number) (workers : Nat) :
    (inProcess maxFileBytes).Serves workers (fun f => Index.outcomeIn v maxFileBytes f.file)
      (fun _ _ r => r.view = v) where
  start hview _ _ := hview
  finish := by
    intro taken inFlight r i f hview _
    obtain ⟨hkeeps, houtcome⟩ := Index.indexFile_spec r maxFileBytes f.file
    rw [hview] at hkeeps houtcome
    exact ⟨houtcome, hkeeps⟩

/-! ## In a pool -/

/-- The task of a file among those that were handed in. -/
def taskOf (tasks : List (Text × Except Thrown Nat)) (f : QueuedFile) : Option PoolTask :=
  match tasks.lookup f.path with
  | some (.ok n) => some ⟨n, f.file⟩
  | _ => none

lemma taskOf_eq_some {tasks : List (Text × Except Thrown Nat)} {f : QueuedFile} {t : PoolTask}
    (h : taskOf tasks f = some t) : tasks.lookup f.path = some (.ok t.id) ∧ t.file = f.file := by
  unfold taskOf at h
  split at h
  · rename_i n hlookup
    injection h with h
    rw [← h]
    exact ⟨hlookup, rfl⟩
  · cases h

/-- Another task at the end does not change the task of a file that has one. -/
lemma taskOf_append {tasks : List (Text × Except Thrown Nat)} {f : QueuedFile} {t : PoolTask}
    (h : taskOf tasks f = some t) (more : List (Text × Except Thrown Nat)) :
    taskOf (tasks ++ more) f = some t := by
  obtain ⟨hlookup, hfile⟩ := taskOf_eq_some h
  rw [taskOf, List.lookup_append, hlookup, Option.some_or, ← hfile]

/-- A pool run in which each file in flight is a task that a worker is at. -/
structure Serving (size : Nat) (taken inFlight : List QueuedFile) (p : PoolRun) : Prop where
  sound : p.pool.Sound
  size_le : size ≤ p.pool.slots.length
  opened : p.pool.refusal? = none
  queue_eq_nil : p.pool.queue = []
  path_mem : ∀ e ∈ p.tasks, e.1 ∈ taken.map QueuedFile.path
  held_perm : ((Pool.held p.pool.slots).map some).Perm (inFlight.map (taskOf p.tasks))

/-- A new pool serves. -/
lemma serving_start (size : Nat) : Serving size [] [] ⟨Pool.start size, []⟩ where
  sound := Pool.sound_start size
  size_le := by simp [Pool.start]
  opened := rfl
  queue_eq_nil := rfl
  path_mem e he := by cases he
  held_perm := by
    rw [Pool.held_start]
    exact .refl _

/-- A pool that serves many workers of a run serves fewer of them. -/
lemma Serving.mono {size size' : Nat} {taken inFlight : List QueuedFile} {p : PoolRun}
    (h : Serving size taken inFlight p) (hle : size' ≤ size) : Serving size' taken inFlight p :=
  { h with size_le := Nat.le_trans hle h.size_le }

/-- As many workers are busy as files are in flight. -/
lemma Serving.length_held {size : Nat} {taken inFlight : List QueuedFile} {p : PoolRun}
    (h : Serving size taken inFlight p) : (Pool.held p.pool.slots).length = inFlight.length := by
  have hlen := h.held_perm.length_eq
  rw [List.length_map, List.length_map] at hlen
  exact hlen

/-- A file in flight is a task that a worker is at. -/
lemma Serving.exists_task {size : Nat} {taken inFlight : List QueuedFile} {p : PoolRun}
    {f : QueuedFile} (h : Serving size taken inFlight p) (hf : f ∈ inFlight) :
    ∃ t ∈ Pool.held p.pool.slots, taskOf p.tasks f = some t := by
  have hmem : taskOf p.tasks f ∈ (Pool.held p.pool.slots).map some :=
    h.held_perm.mem_iff.mpr (List.mem_map_of_mem hf)
  obtain ⟨t, hheld, ht⟩ := List.mem_map.mp hmem
  exact ⟨t, hheld, ht.symm⟩

/-- A file that is handed in is at once with a worker if fewer files are in flight than there are
workers. -/
lemma Serving.submitTo {size : Nat} {taken inFlight : List QueuedFile} {p : PoolRun}
    {f : QueuedFile} (h : Serving size taken inFlight p)
    (hpath : f.path ∉ taken.map QueuedFile.path) (hlt : inFlight.length < size) :
    Serving size (taken ++ [f]) (inFlight ++ [f]) (Runner.submitTo p f) := by
  have hidle : (Pool.held p.pool.slots).length < p.pool.slots.length := by
    rw [h.length_held]
    exact Nat.lt_of_lt_of_le hlt h.size_le
  obtain ⟨q, hsubmit, hsound, hopen, hqueue, hlen, hheld⟩ :=
    Pool.exists_submit_of_idle h.sound h.opened h.queue_eq_nil hidle f.file
  -- The path was not handed in before, so the new task is the one that is found under it.
  have hfresh : p.tasks.lookup f.path = none := by
    rw [List.lookup_eq_none_iff]
    intro e he
    rw [bne_iff_ne]
    intro heq
    exact hpath (by rw [heq]; exact h.path_mem e he)
  rw [Runner.submitTo, hsubmit]
  refine ⟨hsound, ?_, hopen, hqueue, ?_, ?_⟩
  · rw [hlen]
    exact h.size_le
  · intro e he
    rw [List.map_append]
    rcases List.mem_append.mp he with he | he
    · exact List.mem_append_left _ (h.path_mem e he)
    · rw [List.mem_singleton.mp he]
      exact List.mem_append_right _ List.mem_cons_self
  · -- The tasks of the files that were in flight are found as before.
    have hold : inFlight.map (taskOf (p.tasks ++ [(f.path, .ok p.pool.nextTask)]))
        = inFlight.map (taskOf p.tasks) := by
      apply List.map_congr_left
      intro g hg
      obtain ⟨t, -, ht⟩ := h.exists_task hg
      rw [ht, taskOf_append ht]
    have hnew : taskOf (p.tasks ++ [(f.path, .ok p.pool.nextTask)]) f
        = some ⟨p.pool.nextTask, f.file⟩ := by
      rw [taskOf, List.lookup_append, hfresh, Option.none_or, List.lookup_cons, beq_self_eq_true]
    apply (hheld.map some).trans
    rw [List.map_append, List.map_append, hold, List.map_singleton, List.map_singleton, hnew]
    exact h.held_perm.append_right _

/-- The task of a file in flight is settled by its worker's answer, and the worker is idle again. -/
lemma Serving.awaitIn {size : Nat} {taken inFlight : List QueuedFile} {p : PoolRun} {i : Nat}
    {f : QueuedFile} {script : WorkerScript} {maxFileBytes : Number} {reply : WorkerReply}
    (h : Serving size taken inFlight p) (hf : inFlight[i]? = some f)
    (hreact : script.react maxFileBytes f.file = .reply reply) :
    (Runner.awaitIn script maxFileBytes p f).1 = Pool.resultOf reply
      ∧ Serving size taken (inFlight.eraseIdx i) (Runner.awaitIn script maxFileBytes p f).2 := by
  obtain ⟨hi, rfl⟩ := List.getElem?_eq_some_iff.mp hf
  obtain ⟨t, hheld, ht⟩ := h.exists_task (List.getElem_mem hi)
  obtain ⟨hlookup, hfile⟩ := taskOf_eq_some ht
  rw [← hfile] at hreact
  obtain ⟨q, hperform, hsound, hopen, hqueue, hlen, hresult, hperm⟩ :=
    Pool.perform_spec h.sound h.queue_eq_nil hheld hreact
  rw [Runner.awaitIn, hlookup]
  simp only [h.sound.result?_eq_none hheld, Option.isSome_none, Bool.false_eq_true, ↓reduceIte]
  rw [hperform, hresult]
  refine ⟨rfl, hsound, ?_, ?_, hqueue, h.path_mem, ?_⟩
  · rw [hlen]
    exact h.size_le
  · rw [hopen]
    exact h.opened
  · have hflight := (List.getElem_cons_eraseIdx_perm hi).map (taskOf p.tasks)
    have hall := ((hperm.map some).trans h.held_perm).trans hflight.symm
    rw [List.map_cons, List.map_cons, ht] at hall
    exact hall.cons_inv

/-- In a pool whose workers answer, the outcome of a file is what the answer stands for. -/
theorem inPool_serves {script : WorkerScript} {maxFileBytes : Number}
    {reply : SourceFile → WorkerReply}
    (hreact : ∀ file, script.react maxFileBytes file = .reply (reply file)) (size : Nat) :
    (inPool script maxFileBytes).Serves size (fun f => Pool.resultOf (reply f.file))
      (Serving size) where
  start h hpath hlt := h.submitTo hpath hlt
  finish h hf := h.awaitIn hf (hreact _)

/-- A worker's answer is an outcome just if indexing with the worker's own registry is. -/
lemma resultOf_index_eq_ok_iff {builtins : Registry} {maxFileBytes : Number} {file : SourceFile}
    {o : FileOutcome} :
    Pool.resultOf (WorkerScript.index builtins maxFileBytes file) = .ok o
      ↔ (Index.indexFile builtins maxFileBytes file).2.1 = .ok o := by
  unfold WorkerScript.index
  cases (Index.indexFile builtins maxFileBytes file).2.1 with
  | ok o' => exact Iff.rfl
  | error thrown =>
    constructor
    · intro h
      cases h
    · intro h
      cases h

end Runner

end CallAtlas
