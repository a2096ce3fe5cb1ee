import CallAtlas.Proofs.Workers.Tasks

/-!
# The history of a pool

Files are handed in and events come in any order: answers, errors and ends of workers, also of those
that were replaced, and the shutdown of the pool. What an event can do is said once, by `Effect`.
From it follows what every pool keeps: its tasks are posted in the order in which they were handed
in, none of them is lost or settled twice, no worker is idle while a task waits, and nothing waits
in a pool that has come to its end.
-/

namespace CallAtlas

/-- Does an event tell that a worker cannot go on? -/
def PoolEvent.isFailure : PoolEvent → Bool
  | .error _ _ | .exit _ _ => true
  | .message _ _ _ | .shutdown => false

/-- The result that an event gives to the task of a slot. -/
def PoolSlot.resultBy (s : PoolSlot) : PoolEvent → TaskResult
  | .message _ _ reply => Pool.resultOf reply
  | .error _ t => .error t
  | .exit _ code => .error (Pool.exitError s.index code)
  | .shutdown => .error Pool.shutDownError

namespace Pool

variable {p : Pool} {a b : List PoolSlot} {s : PoolSlot}

/-! ## What an event does -/

/-- Does an event end what the worker of a slot is at? The end of a worker is passed over while the
pool shuts down. -/
def Ends (p : Pool) (s : PoolSlot) : PoolEvent → Prop
  | .message worker task _ => worker = s.worker ∧ s.current.map PoolTask.id = some task
  | .error worker _ => worker = s.worker
  | .exit worker _ => worker = s.worker ∧ p.shuttingDown = false
  | .shutdown => False

/-- The pool with another worker in a slot. -/
def replaced (p : Pool) (a : List PoolSlot) (s : PoolSlot) (b : List PoolSlot) : Pool :=
  { p with
    slots := a ++ { worker := p.nextWorker, index := s.index } :: b
    nextWorker := p.nextWorker + 1 }

/-- What an event can make of a pool. -/
inductive Effect (p : Pool) : PoolEvent → Pool → Prop
  /-- No worker of the pool is concerned. -/
  | passedOver {e : PoolEvent} (none : ∀ s ∈ p.slots, ¬ p.Ends s e) (going : e ≠ .shutdown) :
    Effect p e p
  /-- A pool that takes no tasks any more settles those that workers are at. -/
  | closed {e : PoolEvent} {a b : List PoolSlot} {s : PoolSlot} (slots : p.slots = a ++ s :: b)
    (refuses : p.refusal?.isSome) (ends : p.Ends s e) : Effect p e (p.freed a s b (s.resultBy e))
  | answered {a b : List PoolSlot} {s : PoolSlot} {t : PoolTask} {reply : WorkerReply}
    (slots : p.slots = a ++ s :: b) (takes : p.refusal? = none) (current : s.current = some t) :
    Effect p (.message s.worker t.id reply) (processQueue (p.freed a s b (resultOf reply)))
  | exhausted {a b : List PoolSlot} {s : PoolSlot} {t : Thrown} (slots : p.slots = a ++ s :: b)
    (takes : p.refusal? = none) (exhausts : t.isResourceExhaustion = true) :
    Effect p (.error s.worker t) (rejectQueue { p.freed a s b (.error t) with fatal := some t } t)
  | replaced {e : PoolEvent} {a b : List PoolSlot} {s : PoolSlot} (slots : p.slots = a ++ s :: b)
    (takes : p.refusal? = none) (ends : p.Ends s e) (fails : e.isFailure) :
    Effect p e (processQueue ((p.freed a s b (s.resultBy e)).replaced a s b))
  | shutdown : Effect p .shutdown (rejectQueue { p with shuttingDown := true } shutDownError)

/-- The slot that a worker is found in. -/
lemma slotOf?_eq_some {worker : ℕ} (h : p.slotOf? worker = some s) :
    s.worker = worker ∧ ∃ a b, p.slots = a ++ s :: b := by
  obtain ⟨hworker, a, b, hslots, -⟩ := List.find?_eq_some_iff_append.mp h
  exact ⟨of_decide_eq_true hworker, a, b, hslots⟩

/-- A worker is in one slot at most. -/
lemma Sound.eq_of_slotOf? (h : p.Sound) {worker : ℕ} (hs : p.slotOf? worker = some s)
    {x : PoolSlot} (hx : x ∈ p.slots) (hworker : worker = x.worker) : x = s := by
  obtain ⟨rfl, a, b, hslots⟩ := slotOf?_eq_some hs
  apply List.inj_on_of_nodup_map h.workers_nodup hx _ hworker.symm
  rw [hslots]
  exact List.mem_append_right a List.mem_cons_self

lemma ne_worker_of_slotOf?_eq_none {worker : ℕ} (h : p.slotOf? worker = none) {x : PoolSlot}
    (hx : x ∈ p.slots) : worker ≠ x.worker := by
  have hne := List.find?_eq_none.mp h x hx
  exact fun heq => hne (by simpa using heq.symm)

/-- The task of a worker that cannot go on is settled. Unless the pool takes no tasks any more, the
worker is replaced or the pool comes to its end. -/
lemma failWorker_eq (h : p.Sound) (hslots : p.slots = a ++ s :: b) (t : Thrown) :
    p.failWorker s.worker t
      = if p.refusal?.isSome then p.freed a s b (.error t)
        else if t.isResourceExhaustion then
          rejectQueue { p.freed a s b (.error t) with fatal := some t } t
        else processQueue ((p.freed a s b (.error t)).replaced a s b) := by
  have hnodup := h.workers_nodup
  rw [hslots] at hnodup
  -- A slot is found by its worker, so this one alone is freed and then given to a new worker.
  have hcleared : p.setSlot s.worker { s with current := none }
      = { p with slots := a ++ { s with current := none } :: b } := by
    rw [setSlot, hslots, map_setSlot hnodup]
  have hnodup' : ((a ++ { s with current := none } :: b).map PoolSlot.worker).Nodup := by
    rw [List.map_append, List.map_cons] at hnodup ⊢
    exact hnodup
  have hfresh : { (p.freed a s b (.error t)).setSlot s.worker
        { worker := p.nextWorker, index := s.index } with nextWorker := p.nextWorker + 1 }
      = (p.freed a s b (.error t)).replaced a s b := by
    rw [setSlot, freed, map_setSlot hnodup', replaced]
  have hrest : ∀ q, q = p.freed a s b (.error t) →
      (if q.shuttingDown || q.fatal.isSome then q
        else if t.isResourceExhaustion then rejectQueue { q with fatal := some t } t
        else
          processQueue
            { q.setSlot s.worker { worker := q.nextWorker, index := s.index } with
              nextWorker := q.nextWorker + 1 })
        = if p.refusal?.isSome then p.freed a s b (.error t)
          else if t.isResourceExhaustion then
            rejectQueue { p.freed a s b (.error t) with fatal := some t } t
          else processQueue ((p.freed a s b (.error t)).replaced a s b) := by
    rintro q rfl
    rw [isSome_refusal?, ← hfresh]
    rfl
  unfold failWorker
  rw [slotOf?_eq h hslots]
  apply hrest
  rw [hcleared, freed]
  cases s.current with
  | none => simp
  | some task => rfl

/-- What becomes of a pool when the worker of a slot cannot go on. -/
lemma effect_failWorker (h : p.Sound) {e : PoolEvent} {t : Thrown}
    (hslots : p.slots = a ++ s :: b) (hends : p.Ends s e) (hfails : e.isFailure)
    (hresult : s.resultBy e = .error t)
    (hexhausts : t.isResourceExhaustion = true → e = .error s.worker t) :
    Effect p e (p.failWorker s.worker t) := by
  rw [failWorker_eq h hslots]
  cases hrefusal : p.refusal? with
  | some u =>
    rw [if_pos (by rfl), ← hresult]
    exact .closed hslots (by rw [hrefusal]; rfl) hends
  | none =>
    rw [if_neg (by simp)]
    by_cases hexhausted : t.isResourceExhaustion
    · rw [if_pos hexhausted, hexhausts hexhausted]
      exact .exhausted hslots hrefusal hexhausted
    · rw [if_neg hexhausted, ← hresult]
      exact .replaced hslots hrefusal hends hfails

/-- What becomes of a pool when a worker answers. -/
lemma effect_answer (h : p.Sound) (worker task : ℕ) (reply : WorkerReply) :
    Effect p (.message worker task reply) (p.answer worker task reply) := by
  cases hs : p.slotOf? worker with
  | none =>
    rw [answer, hs]
    exact .passedOver (fun x hx hends => ne_worker_of_slotOf?_eq_none hs hx hends.1) (by simp)
  | some s =>
    by_cases hcurrent : s.current.map PoolTask.id = some task
    · obtain ⟨t, ht, rfl⟩ := Option.map_eq_some_iff.mp hcurrent
      obtain ⟨rfl, a, b, hslots⟩ := slotOf?_eq_some hs
      rw [answer_eq h hslots ht]
      cases hrefusal : p.refusal? with
      | none => exact .answered hslots hrefusal ht
      | some u =>
        have hclosed : p.refusal?.isSome := by rw [hrefusal]; rfl
        rw [processQueue_of_isSome_refusal? (by exact hclosed)]
        exact .closed hslots hclosed ⟨rfl, hcurrent⟩
    · -- The worker is at nothing, or at another task.
      have hpassed : p.answer worker task reply = p := by
        rw [answer, hs]
        cases ht : s.current with
        | none => simp only [ht]
        | some t =>
          rw [ht, Option.map_some, Option.some_inj] at hcurrent
          simp only [ht, if_neg hcurrent]
      rw [hpassed]
      refine .passedOver (fun x hx hends => hcurrent ?_) (by simp)
      rw [← h.eq_of_slotOf? hs hx hends.1]
      exact hends.2

/-- An event does one of these things to a pool. -/
theorem effect_step (h : p.Sound) (e : PoolEvent) : Effect p e (p.step e) := by
  cases e with
  | message worker task reply => exact effect_answer h worker task reply
  | error worker t =>
    rw [step]
    cases hs : p.slotOf? worker with
    | none =>
      rw [failWorker, hs]
      exact .passedOver (fun x hx hends => ne_worker_of_slotOf?_eq_none hs hx hends) (by simp)
    | some s =>
      obtain ⟨rfl, a, b, hslots⟩ := slotOf?_eq_some hs
      exact effect_failWorker h hslots rfl rfl rfl fun _ => rfl
  | exit worker code =>
    rw [step]
    by_cases hdown : p.shuttingDown
    · rw [if_pos hdown]
      exact .passedOver (fun x _ hends => by simp [hends.2] at hdown) (by simp)
    · rw [if_neg hdown]
      cases hs : p.slotOf? worker with
      | none =>
        exact .passedOver (fun x hx hends => ne_worker_of_slotOf?_eq_none hs hx hends.1) (by simp)
      | some s =>
        obtain ⟨rfl, a, b, hslots⟩ := slotOf?_eq_some hs
        refine effect_failWorker h hslots ⟨rfl, by simpa using hdown⟩ rfl rfl fun hexhausted => ?_
        -- The end of a worker does not tell that a resource is used up.
        cases hexhausted
  | shutdown => exact .shutdown

/-! ## What a pool keeps -/

/-- While a pool takes tasks, no worker is idle as long as a task waits. -/
def Busy (p : Pool) : Prop := p.refusal? = none → p.queue ≠ [] → ∀ s ∈ p.slots, s.current.isSome

/-- A pool that refuses tasks has nothing to be busy with. -/
lemma busy_of_isSome_refusal? (h : p.refusal?.isSome) : p.Busy := fun hopen =>
  (Option.isSome_iff_ne_none.mp h hopen).elim

/-- What is true of a pool of a size that took some files: each of them is a task in one place, and
tasks are posted in the order of their numbers. -/
structure Orderly (size : ℕ) (files : List SourceFile) (p : Pool) : Prop where
  sound : p.Sound
  nextTask_eq : p.nextTask = files.length
  file_eq : ∀ t ∈ p.queue ++ held p.slots, files[t.id]? = some t.file
  posted_of_held : ∀ t ∈ held p.slots, t.id ∈ p.posted
  posted_prefix : p.posted <+: List.range p.nextTask
  posted_eq : p.refusal? = none → p.posted ++ p.queue.map PoolTask.id = List.range p.nextTask
  queue_eq_nil : p.refusal?.isSome → p.queue = []
  length_eq : p.slots.length = size

variable {size : ℕ} {files : List SourceFile}

lemma orderly_start (size : ℕ) : Orderly size [] (start size) where
  sound := sound_start size
  nextTask_eq := rfl
  file_eq t ht := by
    rw [held_start] at ht
    cases ht
  posted_of_held t ht := by
    rw [held_start] at ht
    cases ht
  posted_prefix := List.nil_prefix
  posted_eq _ := rfl
  queue_eq_nil _ := rfl
  length_eq := by rw [start, List.length_map, List.length_range]

/-- Posting the tasks that wait leaves no worker idle. -/
lemma Orderly.processQueue (h : Orderly size files p) :
    Orderly size files p.processQueue ∧ p.processQueue.Busy := by
  cases hrefusal : p.refusal? with
  | some t =>
    have hclosed : p.refusal?.isSome := by rw [hrefusal]; rfl
    rw [processQueue_of_isSome_refusal? hclosed]
    exact ⟨h, busy_of_isSome_refusal? hclosed⟩
  | none =>
    obtain ⟨now, later, hqueue, hrest, hheld, hplaces, hend⟩ :=
      postAll_spec p.slots p.posted p.queue
    have hsound := h.sound.processQueue
    have hposted := h.posted_eq hrefusal
    rw [hqueue, List.map_append, ← List.append_assoc] at hposted
    rw [processQueue_of_refusal?_eq_none hrefusal, hrest] at hsound ⊢
    have hmem : ∀ t ∈ later ++ held (postAll p.slots p.posted p.queue).1,
        t ∈ p.queue ++ held p.slots := by
      intro t ht
      rw [hqueue]
      rcases List.mem_append.mp ht with ht | ht
      · exact List.mem_append_left _ (List.mem_append_right _ ht)
      · rcases List.mem_append.mp (hheld.mem_iff.mp ht) with ht | ht
        · exact List.mem_append_right _ ht
        · exact List.mem_append_left _ (List.mem_append_left _ ht)
    -- The tasks of `now` are posted, and any of `later` is left only if no worker is idle.
    refine ⟨⟨hsound, h.nextTask_eq, fun t ht => h.file_eq t (hmem t ht), ?_, ?_,
      fun _ => hposted, fun hclosed => ?_, hplaces.length_eq.trans h.length_eq⟩, fun _ hne => ?_⟩
    · intro t ht
      rcases List.mem_append.mp (hheld.mem_iff.mp ht) with ht | ht
      · exact List.mem_append_left _ (h.posted_of_held t ht)
      · exact List.mem_append_right _ (List.mem_map_of_mem ht)
    · exact ⟨later.map PoolTask.id, hposted⟩
    · exact (Option.isSome_iff_ne_none.mp hclosed hrefusal).elim
    · exact hend.resolve_left hne

/-- A file that is taken is the last of the files. -/
lemma Orderly.enqueue (h : Orderly size files p) (hopen : p.refusal? = none) (file : SourceFile) :
    Orderly size (files ++ [file]) (p.enqueue file) where
  sound := h.sound.enqueue file
  nextTask_eq := by
    rw [Pool.enqueue, List.length_append, List.length_singleton, h.nextTask_eq]
  file_eq := by
    have hold : ∀ t ∈ p.queue ++ held p.slots, (files ++ [file])[t.id]? = some t.file := by
      intro t ht
      have hfile := h.file_eq t ht
      rw [List.getElem?_append_left (List.getElem?_eq_some_iff.mp hfile).1, hfile]
    intro t ht
    have hcases : t ∈ p.queue ∨ t = ⟨p.nextTask, file⟩ ∨ t ∈ held p.slots := by
      simpa [Pool.enqueue] using ht
    rcases hcases with hqueue | rfl | hheld
    · exact hold t (List.mem_append_left _ hqueue)
    · rw [h.nextTask_eq, List.getElem?_concat_length]
    · exact hold t (List.mem_append_right _ hheld)
  posted_of_held := h.posted_of_held
  posted_prefix := by
    rw [Pool.enqueue, List.range_succ]
    exact h.posted_prefix.trans (List.prefix_append _ _)
  posted_eq _ := by
    rw [Pool.enqueue, List.range_succ, List.map_append, ← List.append_assoc, h.posted_eq hopen]
    rfl
  queue_eq_nil hclosed := (Option.isSome_iff_ne_none.mp hclosed hopen).elim
  length_eq := h.length_eq

/-- A task that is settled leaves its slot, and nothing else changes. -/
lemma Orderly.freed (h : Orderly size files p) (hslots : p.slots = a ++ s :: b)
    (result : TaskResult) : Orderly size files (p.freed a s b result) := by
  have hmem : ∀ t ∈ held (p.freed a s b result).slots, t ∈ held p.slots := fun t ht =>
    (held_freed hslots result).mem_iff.mp (List.mem_append_right _ ht)
  exact
    { sound := h.sound.freed hslots result
      nextTask_eq := h.nextTask_eq
      file_eq := fun t ht => h.file_eq t <| (List.mem_append.mp ht).elim
        (List.mem_append_left _) fun ht => List.mem_append_right _ (hmem t ht)
      posted_of_held := fun t ht => h.posted_of_held t (hmem t ht)
      posted_prefix := h.posted_prefix
      posted_eq := h.posted_eq
      queue_eq_nil := h.queue_eq_nil
      length_eq := (length_slots_freed hslots result).trans h.length_eq }

lemma held_replaced (hslots : p.slots = a ++ s :: b) (hidle : s.current = none) :
    held (p.replaced a s b).slots = held p.slots := by
  rw [replaced, hslots, held_append, held_append, held_cons_none rfl, held_cons_none hidle]

/-- A new worker in an idle slot is one more worker. -/
lemma Sound.replaced (h : p.Sound) (hslots : p.slots = a ++ s :: b) (hidle : s.current = none) :
    (p.replaced a s b).Sound := by
  have hworkers : (p.replaced a s b).slots.map PoolSlot.worker
      = a.map PoolSlot.worker ++ p.nextWorker :: b.map PoolSlot.worker := by
    rw [Pool.replaced, List.map_append, List.map_cons]
  have hlt := h.workers_lt
  have hnodup := h.workers_nodup
  rw [hslots, List.map_append, List.map_cons] at hlt hnodup
  -- The number of the new worker is above those of all others.
  have hother : ∀ n ∈ a.map PoolSlot.worker ++ b.map PoolSlot.worker, n < p.nextWorker := by
    intro n hn
    exact hlt n (List.perm_middle.mem_iff.mpr (List.mem_cons_of_mem _ hn))
  refine ⟨?_, ?_, ?_⟩
  · rw [held_replaced hslots hidle]
    exact h.tasks_perm
  · rw [hworkers, List.perm_middle.nodup_iff, List.nodup_cons]
    refine ⟨fun hmem => Nat.lt_irrefl _ (hother _ hmem), ?_⟩
    exact (List.nodup_cons.mp (List.perm_middle.nodup_iff.mp hnodup)).2
  · intro n hn
    rw [hworkers, List.perm_middle.mem_iff, List.mem_cons] at hn
    rcases hn with rfl | hn
    · exact Nat.lt_succ_self _
    · exact Nat.lt_succ_of_lt (hother n hn)

lemma Orderly.replaced (h : Orderly size files p) (hslots : p.slots = a ++ s :: b)
    (hidle : s.current = none) : Orderly size files (p.replaced a s b) where
  sound := h.sound.replaced hslots hidle
  nextTask_eq := h.nextTask_eq
  file_eq := by
    rw [held_replaced hslots hidle]
    exact h.file_eq
  posted_of_held := by
    rw [held_replaced hslots hidle]
    exact h.posted_of_held
  posted_prefix := h.posted_prefix
  posted_eq := h.posted_eq
  queue_eq_nil := h.queue_eq_nil
  length_eq := by
    rw [← h.length_eq, hslots, Pool.replaced, List.length_append, List.length_append]
    rfl

/-- Tasks that are rejected go from the queue to those that are settled. -/
lemma Sound.rejectQueue (h : p.Sound) (t : Thrown) : (p.rejectQueue t).Sound where
  tasks_perm := by
    refine List.Perm.trans ?_ h.tasks_perm
    simp only [Pool.rejectQueue, List.map_nil, List.nil_append, List.map_append, List.map_map,
      Function.comp_def]
    rw [← List.append_assoc, List.append_assoc (p.queue.map _)]
    exact List.perm_append_comm
  workers_nodup := h.workers_nodup
  workers_lt := h.workers_lt

/-- A pool that comes to its end settles the tasks that wait. -/
lemma Orderly.rejectQueue (h : Orderly size files p) {down : Bool} {fatal : Option Thrown}
    (hclosed : ({ p with shuttingDown := down, fatal := fatal } : Pool).refusal?.isSome)
    (t : Thrown) :
    Orderly size files (rejectQueue { p with shuttingDown := down, fatal := fatal } t) where
  sound := by
    have hsound : ({ p with shuttingDown := down, fatal := fatal } : Pool).Sound :=
      ⟨h.sound.tasks_perm, h.sound.workers_nodup, h.sound.workers_lt⟩
    exact hsound.rejectQueue t
  nextTask_eq := h.nextTask_eq
  file_eq t ht := h.file_eq t (List.mem_append_right _ ht)
  posted_of_held := h.posted_of_held
  posted_prefix := h.posted_prefix
  posted_eq hopen := (Option.isSome_iff_ne_none.mp hclosed hopen).elim
  queue_eq_nil _ := rfl
  length_eq := h.length_eq

/-- Every event keeps this. -/
theorem Orderly.step (h : Orderly size files p) (hbusy : p.Busy) (e : PoolEvent) :
    Orderly size files (p.step e) ∧ (p.step e).Busy := by
  have heffect := effect_step h.sound e
  generalize p.step e = q at heffect ⊢
  cases heffect with
  | passedOver _ _ => exact ⟨h, hbusy⟩
  | closed hslots hrefuses _ => exact ⟨h.freed hslots _, busy_of_isSome_refusal? hrefuses⟩
  | answered hslots _ _ => exact (h.freed hslots _).processQueue
  | exhausted hslots _ _ =>
    exact ⟨(h.freed hslots _).rejectQueue rfl _, busy_of_isSome_refusal? rfl⟩
  | replaced hslots _ _ _ =>
    exact ((h.freed hslots _).replaced rfl rfl).processQueue
  | shutdown =>
    have hclosed : ({ p with shuttingDown := true } : Pool).refusal?.isSome := by
      rw [isSome_refusal?]
      rfl
    exact ⟨h.rejectQueue hclosed _, busy_of_isSome_refusal? hclosed⟩

/-! ## The pools that there can be -/

/-- The pools of a size that there can be, with the files that they took. A file may be handed in
and any event may happen at any moment; a pool that refuses a file stays as it is. -/
inductive History (size : ℕ) : List SourceFile → Pool → Prop
  | start : History size [] (start size)
  | submit {files : List SourceFile} {p q : Pool} {file : SourceFile}
    (before : History size files p) (takes : p.submit file = .ok q) :
    History size (files ++ [file]) q
  | event {files : List SourceFile} {p : Pool} (before : History size files p) (e : PoolEvent) :
    History size files (p.step e)

/-- A pool that takes tasks takes every file. -/
lemma History.enqueue (h : History size files p) (hopen : p.refusal? = none) (file : SourceFile) :
    History size (files ++ [file]) (p.enqueue file).processQueue :=
  h.submit (submit_eq_ok_iff.mpr ⟨hopen, rfl⟩)

/-- Every pool is in order, and its workers are busy. -/
theorem History.orderly (h : History size files p) : Orderly size files p ∧ p.Busy := by
  induction h with
  | start => exact ⟨orderly_start size, fun _ hne => (hne rfl).elim⟩
  | submit _ takes ih =>
    obtain ⟨hopen, rfl⟩ := submit_eq_ok_iff.mp takes
    exact (ih.1.enqueue hopen _).processQueue
  | event _ e ih => exact ih.1.step ih.2 e

/-! ## What is settled -/

lemma settled_processQueue (p : Pool) : p.processQueue.settled = p.settled := by
  unfold processQueue
  split <;> rfl

/-- Tasks are posted behind those that were posted before. -/
lemma posted_processQueue (p : Pool) : p.posted <+: p.processQueue.posted := by
  unfold processQueue
  split
  · exact List.prefix_refl _
  · obtain ⟨now, later, -, hrest, -⟩ := postAll_spec p.slots p.posted p.queue
    exact ⟨now.map PoolTask.id, (congrArg Prod.fst hrest).symm⟩

/-- What was settled or posted stays so. -/
lemma prefix_step (h : p.Sound) (e : PoolEvent) :
    p.settled <+: (p.step e).settled ∧ p.posted <+: (p.step e).posted := by
  have heffect := effect_step h e
  generalize p.step e = q at heffect ⊢
  cases heffect with
  | passedOver _ _ => exact ⟨List.prefix_refl _, List.prefix_refl _⟩
  | closed _ _ _ => exact ⟨List.prefix_append _ _, List.prefix_refl _⟩
  | answered _ _ _ =>
    rw [settled_processQueue]
    exact ⟨List.prefix_append _ _, posted_processQueue (p.freed _ _ _ _)⟩
  | exhausted _ _ _ =>
    exact ⟨(List.prefix_append _ _).trans (List.prefix_append _ _), List.prefix_refl _⟩
  | replaced _ _ _ _ =>
    rw [settled_processQueue]
    exact ⟨List.prefix_append _ _, posted_processQueue ((p.freed _ _ _ _).replaced _ _ _)⟩
  | shutdown => exact ⟨List.prefix_append _ _, List.prefix_refl _⟩

/-- A worker that cannot go on has its task settled and no other one, unless it tells that a shared
resource is used up. -/
lemma settled_failWorker (h : p.Sound) {worker : ℕ} (hs : p.slotOf? worker = some s) {t : Thrown}
    (ht : t.isResourceExhaustion = false) :
    (p.failWorker worker t).settled
      = p.settled ++ s.current.toList.map fun task => (task.id, .error t) := by
  obtain ⟨rfl, a, b, hslots⟩ := slotOf?_eq_some hs
  rw [failWorker_eq h hslots, if_neg (by simp [ht] : ¬ t.isResourceExhaustion = true)]
  split
  · rfl
  · rw [settled_processQueue]
    rfl

/-- What every pool does with the files that it took, whatever happens to it. -/
structure Conduct (size : ℕ) (files : List SourceFile) (p : Pool) : Prop where
  /-- Each file is one task, which waits, or is held by one slot, or was settled once. -/
  count_eq : ∀ i,
    (p.queue.map PoolTask.id).count i + ((held p.slots).map PoolTask.id).count i
      + (p.settled.map Prod.fst).count i = if i < files.length then 1 else 0
  file_eq : ∀ t ∈ p.queue ++ held p.slots, files[t.id]? = some t.file
  /-- What was settled stays settled, and what was posted stays posted. -/
  prefix_step : ∀ e, p.settled <+: (p.step e).settled ∧ p.posted <+: (p.step e).posted
  prefix_submit : ∀ file q, p.submit file = .ok q →
    q.settled = p.settled ∧ p.posted <+: q.posted
  /-- Tasks are posted in the order of their numbers. -/
  posted_eq : p.posted = List.range p.posted.length
  posted_le : p.posted.length ≤ files.length
  posted_of_held : ∀ t ∈ held p.slots, t.id ∈ p.posted
  /-- No worker is idle while a task waits. -/
  busy : p.shuttingDown = false → p.fatal = none → p.queue ≠ [] →
    ∀ s ∈ p.slots, s.current.isSome
  queue_eq_nil : p.shuttingDown = true ∨ p.fatal.isSome → p.queue = []
  length_eq : p.slots.length = size
  length_step : ∀ e, (p.step e).slots.length = size
  /-- The failure of a worker that was replaced is passed over. -/
  step_of_none : ∀ worker, p.slotOf? worker = none →
    (∀ t, p.step (.error worker t) = p) ∧ ∀ code, p.step (.exit worker code) = p
  /-- The failure of another one settles its task and no other one. -/
  settled_of_some : ∀ worker s, p.slotOf? worker = some s →
    (∀ t, t.isResourceExhaustion = false →
      (p.step (.error worker t)).settled
        = p.settled ++ s.current.toList.map fun task => (task.id, .error t))
    ∧ ∀ code, (p.step (.exit worker code)).settled
        = p.settled ++ if p.shuttingDown then []
          else s.current.toList.map fun task => (task.id, .error (exitError s.index code))

/-- Whatever files are handed in and whatever happens to the workers, in whatever order: this is
what the pool does. -/
theorem conduct_of_history {size : ℕ} {files : List SourceFile} {p : Pool}
    (h : History size files p) : Conduct size files p := by
  obtain ⟨horderly, hbusy⟩ := h.orderly
  have hsound := horderly.sound
  have hposted := horderly.posted_prefix
  rw [horderly.nextTask_eq] at hposted
  refine
    { count_eq := fun i => ?_
      file_eq := horderly.file_eq
      prefix_step := fun e => Pool.prefix_step hsound e
      prefix_submit := fun file q hq => ?_
      posted_eq := ?_
      posted_le := ?_
      posted_of_held := horderly.posted_of_held
      busy := fun hdown hfatal => hbusy (refusal?_eq_none_iff.mpr ⟨hdown, hfatal⟩)
      queue_eq_nil := fun hclosed => horderly.queue_eq_nil ?_
      length_eq := horderly.length_eq
      length_step := fun e => (horderly.step hbusy e).1.length_eq
      step_of_none := fun worker hnone => ⟨fun t => ?_, fun code => ?_⟩
      settled_of_some := fun worker s hs => ⟨fun t ht => settled_failWorker hsound hs ht,
        fun code => ?_⟩ }
  · have hcount := hsound.tasks_perm.count_eq i
    rw [List.count_append, List.count_append, horderly.nextTask_eq] at hcount
    rw [hcount, List.nodup_range.count]
    simp only [List.mem_range]
  · obtain ⟨-, rfl⟩ := submit_eq_ok_iff.mp hq
    exact ⟨settled_processQueue _, posted_processQueue (p.enqueue file)⟩
  · have htake := List.prefix_iff_eq_take.mp hposted
    rw [List.take_range, Nat.min_eq_left] at htake
    · exact htake
    · simpa using hposted.length_le
  · simpa using hposted.length_le
  · rw [isSome_refusal?, Bool.or_eq_true]
    exact hclosed
  · rw [step, failWorker, hnone]
  · rw [step]
    split
    · rfl
    · rw [hnone]
  · rw [step]
    split
    · rw [List.append_nil]
    · rw [hs]
      exact settled_failWorker hsound hs rfl

/-- Two files. -/
def twoFiles : List SourceFile := [⟨"a.p", "", none⟩, ⟨"b.p", "", none⟩]

/-- A pool whose only worker is at the first of the two files. -/
def begun : Pool :=
  (((start 1).enqueue ⟨"a.p", "", none⟩).processQueue.enqueue ⟨"b.p", "", none⟩).processQueue

lemma history_begun : History 1 twoFiles begun := by
  have hnew : History 1 [] (start 1) := .start
  exact (hnew.enqueue (by decide +kernel) ⟨"a.p", "", none⟩).enqueue (by decide +kernel)
    ⟨"b.p", "", none⟩

/-- The worker meets an error and ends, and both is told. -/
def crashed : Pool := (begun.step (.error 0 (crash "lost" none))).step (.exit 0 1)

/-- Its task is settled once, and another worker is at the second one. -/
theorem conduct_of_history_crashed :
    Conduct 1 twoFiles crashed ∧ crashed.settled.map Prod.fst = [0] ∧ crashed.posted = [0, 1]
      ∧ crashed.slots = [⟨1, 0, some ⟨1, ⟨"b.p", "", none⟩⟩⟩] := by
  refine ⟨conduct_of_history ((history_begun.event (.error 0 _)).event (.exit 0 1)), ?_⟩
  decide +kernel

end Pool

end CallAtlas
