import CallAtlas.Workers.Script
import Mathlib.Data.List.Nodup
import Mathlib.Data.List.Perm.Basic
import Mathlib.Tactic.Common

/-!
# Where the tasks of a pool are

A task that was handed in either waits, or is held by one slot, or is settled: the three together
are all numbers that were given out, each once. No two slots have the same worker. This is kept by
handing in files and by the answers of workers, and it says what a worker's answer settles.
-/

namespace CallAtlas

namespace Pool

/-- The tasks that slots are at. -/
def held (slots : List PoolSlot) : List PoolTask := slots.filterMap PoolSlot.current

lemma held_append (a b : List PoolSlot) : held (a ++ b) = held a ++ held b :=
  List.filterMap_append

lemma held_cons_some {s : PoolSlot} {t : PoolTask} (h : s.current = some t)
    (rest : List PoolSlot) : held (s :: rest) = t :: held rest :=
  List.filterMap_cons_some h

lemma held_cons_none {s : PoolSlot} (h : s.current = none) (rest : List PoolSlot) :
    held (s :: rest) = held rest :=
  List.filterMap_cons_none h

/-- Busy slots hold one task each. -/
lemma length_held_of_busy {slots : List PoolSlot} (h : ∀ s ∈ slots, s.current.isSome) :
    (held slots).length = slots.length := by
  induction slots with
  | nil => rfl
  | cons s rest ih =>
    obtain ⟨t, ht⟩ := Option.isSome_iff_exists.mp (h s List.mem_cons_self)
    rw [held_cons_some ht, List.length_cons, List.length_cons,
      ih fun x hx => h x (List.mem_cons_of_mem s hx)]

/-! ## Posting tasks -/

/-- A task goes to a slot that was idle, and all slots before it are busy; or all are busy. -/
lemma assign_cases (t : PoolTask) (slots : List PoolSlot) :
    (assign t slots = none ∧ ∀ s ∈ slots, s.current.isSome)
      ∨ ∃ a s b, slots = a ++ s :: b ∧ s.current = none
          ∧ assign t slots = some (a ++ { s with current := some t } :: b) := by
  induction slots with
  | nil => exact .inl ⟨rfl, by intro s hs; cases hs⟩
  | cons x rest ih =>
    rw [assign]
    cases hx : x.current with
    | none => exact .inr ⟨[], x, rest, rfl, hx, rfl⟩
    | some u =>
      rcases ih with ⟨hnone, hbusy⟩ | ⟨a, s, b, hrest, hs, hassign⟩
      · refine .inl ⟨by rw [hnone]; rfl, ?_⟩
        intro s hs
        rcases List.mem_cons.mp hs with rfl | hs
        · rw [hx]
          rfl
        · exact hbusy s hs
      · refine .inr ⟨x :: a, s, b, by rw [hrest]; rfl, hs, ?_⟩
        rw [hassign]
        rfl

/-- What posting keeps of the slots. -/
structure SamePlaces (slots slots' : List PoolSlot) : Prop where
  workers : slots'.map PoolSlot.worker = slots.map PoolSlot.worker
  indexes : slots'.map PoolSlot.index = slots.map PoolSlot.index

lemma SamePlaces.length_eq {slots slots' : List PoolSlot} (h : SamePlaces slots slots') :
    slots'.length = slots.length := by
  rw [← List.length_map PoolSlot.worker, h.workers, List.length_map]

/-- The first tasks that wait are posted, as many as there are idle slots. -/
theorem postAll_spec (slots : List PoolSlot) (posted : List Nat) (queue : List PoolTask) :
    ∃ now later, queue = now ++ later
      ∧ (postAll slots posted queue).2 = (posted ++ now.map PoolTask.id, later)
      ∧ (held (postAll slots posted queue).1).Perm (held slots ++ now)
      ∧ SamePlaces slots (postAll slots posted queue).1
      ∧ (later = [] ∨ ∀ s ∈ (postAll slots posted queue).1, s.current.isSome) := by
  induction queue generalizing slots posted with
  | nil =>
    exact ⟨[], [], rfl, by rw [postAll, List.map_nil, List.append_nil],
      by rw [postAll, List.append_nil], ⟨rfl, rfl⟩, .inl rfl⟩
  | cons t rest ih =>
    rw [postAll]
    rcases assign_cases t slots with ⟨hnone, hbusy⟩ | ⟨a, s, b, hslots, hs, hassign⟩
    · rw [hnone]
      exact ⟨[], t :: rest, rfl, by rw [List.map_nil, List.append_nil], by rw [List.append_nil],
        ⟨rfl, rfl⟩, .inr hbusy⟩
    · rw [hassign]
      -- The other tasks find the slots as they are once this one is posted.
      obtain ⟨now, later, hqueue, hrest, hheld, hplaces, hend⟩ :=
        ih (a ++ { s with current := some t } :: b) (posted ++ [t.id])
      refine ⟨t :: now, later, by rw [hqueue]; rfl, ?_, ?_, ⟨?_, ?_⟩, hend⟩
      · rw [hrest, List.map_cons, List.append_assoc]
        rfl
      · apply hheld.trans
        rw [hslots, held_append, held_append, held_cons_none hs, held_cons_some rfl,
          List.append_assoc, List.append_assoc]
        exact (List.perm_middle.symm).append_left (held a)
      · rw [hplaces.workers, hslots, List.map_append, List.map_append]
        rfl
      · rw [hplaces.indexes, hslots, List.map_append, List.map_append]
        rfl

/-- A pool that takes tasks is not shutting down and met no fatal error. -/
lemma refusal?_eq_none_iff {p : Pool} :
    p.refusal? = none ↔ p.shuttingDown = false ∧ p.fatal = none := by
  unfold refusal?
  cases p.fatal <;> cases p.shuttingDown <;> simp

/-- The conditions under which the queue is not worked on are those under which tasks are
refused. -/
lemma isSome_refusal? {p : Pool} :
    p.refusal?.isSome = (p.shuttingDown || p.fatal.isSome) := by
  unfold refusal?
  cases p.fatal <;> cases p.shuttingDown <;> rfl

/-- A pool that takes no tasks posts none. -/
lemma processQueue_of_isSome_refusal? {p : Pool} (h : p.refusal?.isSome) : p.processQueue = p := by
  rw [processQueue, if_pos]
  rwa [← isSome_refusal?]

/-- A pool in which nothing waits has nothing to post. -/
lemma processQueue_of_queue_eq_nil {p : Pool} (h : p.queue = []) : p.processQueue = p := by
  rw [processQueue]
  split
  · rfl
  · rw [h, postAll, ← h]

/-! ## Each task in one place -/

/-- Every task that was handed in is in one place, and every worker is in one slot. -/
structure Sound (p : Pool) : Prop where
  tasks_perm : (p.queue.map PoolTask.id ++ (held p.slots).map PoolTask.id
    ++ p.settled.map Prod.fst).Perm (List.range p.nextTask)
  workers_nodup : (p.slots.map PoolSlot.worker).Nodup
  workers_lt : ∀ n ∈ p.slots.map PoolSlot.worker, n < p.nextWorker

/-- No number of a task is in two places. -/
lemma Sound.ids_nodup {p : Pool} (h : p.Sound) :
    (p.queue.map PoolTask.id ++ (held p.slots).map PoolTask.id ++ p.settled.map Prod.fst).Nodup :=
  h.tasks_perm.nodup_iff.mpr List.nodup_range

/-- No worker of a new pool is at a task. -/
lemma held_start (size : ℕ) : held (start size).slots = [] := by
  rw [held, start, List.filterMap_map]
  exact List.filterMap_eq_nil_iff.mpr fun _ _ => rfl

/-- A new pool has no tasks, and its workers are numbered. -/
theorem sound_start (size : Nat) : (start size).Sound := by
  have hworkers : (start size).slots.map PoolSlot.worker = List.range size := by
    rw [start, List.map_map]
    exact List.map_id' _
  refine ⟨?_, ?_, ?_⟩
  · rw [held_start]
    exact .refl _
  · rw [hworkers]
    exact List.nodup_range
  · rw [hworkers]
    intro n hn
    exact List.mem_range.mp hn

/-- Posting tasks leaves each of them in one place. -/
lemma Sound.processQueue {p : Pool} (h : p.Sound) : p.processQueue.Sound := by
  unfold Pool.processQueue
  split
  · exact h
  · obtain ⟨now, later, hqueue, hrest, hheld, hplaces, -⟩ := postAll_spec p.slots p.posted p.queue
    rcases hpost : postAll p.slots p.posted p.queue with ⟨slots, posted, queue⟩
    rw [hpost] at hrest hheld hplaces
    obtain ⟨rfl, rfl⟩ := Prod.mk.inj hrest
    refine ⟨?_, by simpa only [hplaces.workers] using h.workers_nodup,
      by simpa only [hplaces.workers] using h.workers_lt⟩
    have htasks := h.tasks_perm
    rw [hqueue, List.map_append] at htasks
    -- The tasks that are posted leave the queue for the slots.
    refine List.Perm.trans ?_ htasks
    apply List.Perm.append_right
    have hids := (hheld.map PoolTask.id).append_left (queue.map PoolTask.id)
    rw [List.map_append] at hids
    apply hids.trans
    rw [← List.append_assoc]
    apply List.perm_append_comm.trans
    rw [List.append_assoc]

/-- A task with the next number that waits behind all others. -/
def enqueue (p : Pool) (file : SourceFile) : Pool :=
  { p with queue := p.queue ++ [⟨p.nextTask, file⟩], nextTask := p.nextTask + 1 }

/-- A file that is handed in becomes the last task that waits, and then tasks are posted. -/
lemma submit_eq_ok_iff {p q : Pool} {file : SourceFile} :
    p.submit file = .ok q ↔ p.refusal? = none ∧ q = (p.enqueue file).processQueue := by
  unfold submit
  cases p.refusal? with
  | none => exact ⟨fun h => ⟨rfl, (Except.ok.inj h).symm⟩, fun h => congrArg _ h.2.symm⟩
  | some t => exact ⟨nofun, fun h => nomatch h.1⟩

/-- Another task has a place of its own. -/
lemma Sound.enqueue {p : Pool} (h : p.Sound) (file : SourceFile) : (p.enqueue file).Sound := by
  refine ⟨?_, h.workers_nodup, h.workers_lt⟩
  -- The new number is the last one, and the task waits behind all others.
  rw [Pool.enqueue, List.range_succ, List.map_append]
  refine List.Perm.trans ?_ (h.tasks_perm.append_right [p.nextTask])
  simp only [List.append_assoc, List.map_cons, List.map_nil]
  refine List.Perm.append_left _ ?_
  rw [← List.append_assoc _ (p.settled.map Prod.fst)]
  exact List.perm_append_comm

/-- A pool that refuses nothing posts the tasks that wait. -/
lemma processQueue_of_refusal?_eq_none {p : Pool} (h : p.refusal? = none) :
    p.processQueue
      = { p with
          slots := (postAll p.slots p.posted p.queue).1
          posted := (postAll p.slots p.posted p.queue).2.1
          queue := (postAll p.slots p.posted p.queue).2.2 } := by
  rw [Pool.processQueue, if_neg]
  rw [← isSome_refusal?, h]
  exact Bool.false_ne_true

/-- A file that is handed in when a worker is idle and nothing waits is at once with a worker. -/
theorem exists_submit_of_idle {p : Pool} (h : p.Sound) (hopen : p.refusal? = none)
    (hqueue : p.queue = []) (hidle : (held p.slots).length < p.slots.length) (file : SourceFile) :
    ∃ q, p.submit file = .ok q ∧ q.Sound ∧ q.refusal? = none ∧ q.queue = []
      ∧ q.slots.length = p.slots.length
      ∧ (held q.slots).Perm (held p.slots ++ [⟨p.nextTask, file⟩]) := by
  obtain ⟨now, later, hsplit, hrest, hheld, hplaces, hend⟩ :=
    postAll_spec p.slots p.posted [⟨p.nextTask, file⟩]
  -- The task does not wait: if it did, all slots would be busy.
  have hlater : later = [] := by
    rcases hend with hlater | hbusy
    · exact hlater
    · have hlen := hheld.length_eq
      have hone := congrArg List.length hsplit
      rw [length_held_of_busy hbusy, hplaces.length_eq, List.length_append] at hlen
      rw [List.length_append, List.length_singleton] at hone
      exact List.length_eq_zero_iff.mp (by omega)
  rw [hlater, List.append_nil] at hsplit
  have hwaiting : p.enqueue file
      = { p with queue := [⟨p.nextTask, file⟩], nextTask := p.nextTask + 1 } := by
    rw [enqueue, hqueue, List.nil_append]
  have hsubmit : (p.enqueue file).processQueue = _ := processQueue_of_refusal?_eq_none hopen
  rw [hwaiting] at hsubmit
  refine ⟨_, submit_eq_ok_iff.mpr ⟨hopen, rfl⟩, (h.enqueue file).processQueue, ?_⟩
  rw [hwaiting]
  refine ⟨?_, ?_, ?_, ?_⟩
  · rw [hsubmit]
    exact hopen
  · rw [hsubmit]
    simp only
    rw [hrest, hlater]
  · rw [hsubmit]
    exact hplaces.length_eq
  · rw [hsubmit, hsplit]
    exact hsplit ▸ hheld

/-! ## Answers -/

/-- Only the slot of the given worker is changed. -/
lemma map_setSlot {a b : List PoolSlot} {s slot : PoolSlot}
    (hnodup : ((a ++ s :: b).map PoolSlot.worker).Nodup) :
    (a ++ s :: b).map (fun x => if x.worker = s.worker then slot else x) = a ++ slot :: b := by
  rw [List.map_append, List.map_cons, List.nodup_append, List.nodup_cons] at hnodup
  obtain ⟨-, ⟨hb, -⟩, ha⟩ := hnodup
  -- Slots of other workers are as before.
  have hsame : ∀ l : List PoolSlot, s.worker ∉ l.map PoolSlot.worker →
      l.map (fun x => if x.worker = s.worker then slot else x) = l := by
    intro l hl
    conv_rhs => rw [← List.map_id l]
    apply List.map_congr_left
    intro x hx
    have hne : x.worker ≠ s.worker := by
      intro heq
      exact hl (by rw [← heq]; exact List.mem_map_of_mem hx)
    rw [if_neg hne]
    rfl
  rw [List.map_append, List.map_cons, if_pos rfl, hsame b hb, hsame a]
  intro hmem
  exact ha _ hmem _ List.mem_cons_self rfl

/-- The worker of a slot is found there. -/
lemma slotOf?_eq {p : Pool} (h : p.Sound) {a b : List PoolSlot} {s : PoolSlot}
    (hslots : p.slots = a ++ s :: b) : p.slotOf? s.worker = some s := by
  have hnodup := h.workers_nodup
  rw [hslots, List.map_append, List.nodup_append] at hnodup
  rw [slotOf?, hslots, List.find?_append, List.find?_eq_none.mpr, Option.none_or,
    List.find?_cons_of_pos (by simp)]
  intro x hx
  simpa using hnodup.2.2 _ (List.mem_map_of_mem hx) s.worker List.mem_cons_self

/-- The pool after the task of a slot was settled, if there was one. -/
def freed (p : Pool) (a : List PoolSlot) (s : PoolSlot) (b : List PoolSlot)
    (result : TaskResult) : Pool :=
  { p with
    slots := a ++ { s with current := none } :: b
    settled := p.settled ++ s.current.toList.map fun t => (t.id, result) }

/-- The answer of a worker to its task settles this task and makes its slot idle; then tasks that
wait are posted. -/
theorem answer_eq {p : Pool} (h : p.Sound) {a b : List PoolSlot} {s : PoolSlot} {t : PoolTask}
    (hslots : p.slots = a ++ s :: b) (ht : s.current = some t) (reply : WorkerReply) :
    p.answer s.worker t.id reply = Pool.processQueue (p.freed a s b (resultOf reply)) := by
  have hnodup := h.workers_nodup
  rw [hslots] at hnodup
  rw [answer, slotOf?_eq h hslots]
  simp only [ht, ↓reduceIte]
  rw [settle, setSlot, hslots, map_setSlot hnodup, freed, ht]
  rfl

/-- The tasks after the task of a slot is taken away. -/
lemma held_freed {p : Pool} {a b : List PoolSlot} {s : PoolSlot} (hslots : p.slots = a ++ s :: b)
    (result : TaskResult) :
    (s.current.toList ++ held (p.freed a s b result).slots).Perm (held p.slots) := by
  rw [freed, hslots, held_append, held_append, held_cons_none rfl]
  cases ht : s.current with
  | none => rw [held_cons_none ht, Option.toList_none, List.nil_append]
  | some t =>
    rw [held_cons_some ht, Option.toList_some, List.singleton_append]
    exact List.perm_middle.symm

lemma length_slots_freed {p : Pool} {a b : List PoolSlot} {s : PoolSlot}
    (hslots : p.slots = a ++ s :: b) (result : TaskResult) :
    (p.freed a s b result).slots.length = p.slots.length := by
  rw [freed, hslots]
  simp only [List.length_append, List.length_cons]

/-- A task that is settled leaves each task in one place. -/
lemma Sound.freed {p : Pool} (h : p.Sound) {a b : List PoolSlot} {s : PoolSlot}
    (hslots : p.slots = a ++ s :: b) (result : TaskResult) : (p.freed a s b result).Sound := by
  have hplaces : (p.freed a s b result).slots.map PoolSlot.worker
      = p.slots.map PoolSlot.worker := by
    rw [Pool.freed, hslots, List.map_append, List.map_append]
    rfl
  refine ⟨?_, by rw [hplaces]; exact h.workers_nodup, by rw [hplaces]; exact h.workers_lt⟩
  have hheld := (held_freed hslots result).map PoolTask.id
  rw [List.map_append] at hheld
  refine List.Perm.trans ?_ h.tasks_perm
  -- The task goes from behind the settled ones to the front of those that are held.
  have hsettled : (p.freed a s b result).settled.map Prod.fst
      = p.settled.map Prod.fst ++ s.current.toList.map PoolTask.id := by
    rw [Pool.freed, List.map_append, List.map_map]
    rfl
  rw [hsettled, ← List.append_assoc]
  refine List.Perm.trans List.perm_append_comm ?_
  rw [← List.append_assoc, ← List.append_assoc]
  apply List.Perm.append_right
  refine List.Perm.trans ?_ (hheld.append_left (p.queue.map PoolTask.id))
  rw [← List.append_assoc]
  exact List.perm_append_comm.append_right _

/-- The task that a slot is at is found there. -/
lemma holder?_eq {p : Pool} {t : PoolTask} (h : p.Sound) (ht : t ∈ held p.slots) :
    ∃ a s b, p.slots = a ++ s :: b ∧ s.current = some t ∧ p.holder? t.id = some (s, t) := by
  obtain ⟨s, hs, hcurrent⟩ := List.mem_filterMap.mp ht
  obtain ⟨a, b, hslots⟩ := List.append_of_mem hs
  refine ⟨a, s, b, hslots, hcurrent, ?_⟩
  have hids : ((held p.slots).map PoolTask.id).Nodup :=
    (List.nodup_append.mp (List.nodup_append.mp h.ids_nodup).1).2.1
  rw [hslots, held_append, held_cons_some hcurrent, List.map_append, List.map_cons,
    List.nodup_append] at hids
  -- No slot before this one is at a task of this number.
  have hbefore : a.findSome? (fun s =>
      (s.current.filter fun u => u.id = t.id).map fun u => (s, u)) = none := by
    rw [List.findSome?_eq_none_iff]
    intro x hx
    cases hcur : x.current with
    | none => rfl
    | some u =>
      have hmem : u.id ∈ (held a).map PoolTask.id :=
        List.mem_map_of_mem (List.mem_filterMap.mpr ⟨x, hx, hcur⟩)
      have hne : u.id ≠ t.id := hids.2.2 _ hmem _ List.mem_cons_self
      simp [hne]
  rw [holder?, hslots, List.findSome?_append, hbefore, Option.none_or, List.findSome?_cons,
    hcurrent, Option.filter_some, if_pos (decide_eq_true rfl)]
  rfl

/-- A task that a worker is at is not settled. -/
lemma Sound.result?_eq_none {p : Pool} (h : p.Sound) {t : PoolTask} (ht : t ∈ held p.slots) :
    p.result? t.id = none := by
  have hplace : t.id ∈ p.queue.map PoolTask.id ++ (held p.slots).map PoolTask.id :=
    List.mem_append_right _ (List.mem_map_of_mem ht)
  rw [result?, List.lookup_eq_none_iff]
  intro e he
  rw [bne_iff_ne]
  exact (List.nodup_append.mp h.ids_nodup).2.2 _ hplace _ (List.mem_map_of_mem he)

/-- When nothing waits, a worker that does what its script says settles its task by its answer and
is idle then. -/
theorem perform_spec {p : Pool} {script : WorkerScript} {maxFileBytes : Number}
    {reply : WorkerReply} {t : PoolTask} (h : p.Sound) (hqueue : p.queue = [])
    (ht : t ∈ held p.slots) (hreact : script.react maxFileBytes t.file = .reply reply) :
    ∃ q, p.perform script maxFileBytes t.id = q ∧ q.Sound ∧ q.refusal? = p.refusal?
      ∧ q.queue = [] ∧ q.slots.length = p.slots.length
      ∧ q.result? t.id = some (resultOf reply) ∧ (t :: held q.slots).Perm (held p.slots) := by
  obtain ⟨a, s, b, hslots, hcurrent, hholder⟩ := holder?_eq h ht
  have hanswer := answer_eq h hslots hcurrent reply
  have hsound := (h.freed hslots (resultOf reply)).processQueue
  rw [processQueue_of_queue_eq_nil (by exact hqueue)] at hanswer hsound
  have hevent : script.eventOf maxFileBytes s t = .message s.worker t.id reply := by
    unfold WorkerScript.eventOf
    rw [hreact]
  have hperform : p.perform script maxFileBytes t.id = p.answer s.worker t.id reply := by
    rw [perform, hholder]
    simp only
    rw [hevent, step]
  rw [hperform, hanswer]
  refine ⟨_, rfl, hsound, rfl, hqueue, length_slots_freed hslots _, ?_, ?_⟩
  · have hnone := h.result?_eq_none ht
    rw [result?] at hnone
    rw [result?, freed, List.lookup_append, hnone, Option.none_or, hcurrent, Option.toList_some,
      List.map_singleton, List.lookup_cons, beq_self_eq_true]
  · have hheld := held_freed hslots (resultOf reply)
    rwa [hcurrent] at hheld

end Pool

end CallAtlas
