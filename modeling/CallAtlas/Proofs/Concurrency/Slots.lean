import CallAtlas.Concurrency.Limiter
import Mathlib.Data.List.Nodup
import Mathlib.Data.Rat.Cast.Order
import Mathlib.Tactic.Common

/-!
# The slots of a limiter

Tasks have the numbers in whose order they were handed in. A task that has a slot is running, or it
has ended and its slot is to be released. `Accounted` says that the slots in use are those of these
tasks and that the tasks that were started come before those that wait. Between any two moves no
slot is free while a task waits (`Orderly`): a slot that is released is taken at once.
-/

namespace CallAtlas

variable {α : Type}

/-! ## What happened -/

namespace LimiterEvent

/-- The task that an event starts. -/
def startedTask? : LimiterEvent α → Option ℕ
  | started task => some task
  | _ => none

/-- The task that an event settles, and its outcome. -/
def settledTask? : LimiterEvent α → Option (ℕ × Except Thrown α)
  | settled task outcome => some (task, outcome)
  | _ => none

/-- An event of which only those who wait are told: it neither starts nor settles a task. -/
def IsNotice : LimiterEvent α → Prop
  | started _ | settled _ _ => False
  | collected _ _ | drained _ => True

lemma startedTask?_of_isNotice {e : LimiterEvent α} (h : e.IsNotice) : e.startedTask? = none := by
  cases e
  case started => exact h.elim
  all_goals rfl

lemma settledTask?_of_isNotice {e : LimiterEvent α} (h : e.IsNotice) : e.settledTask? = none := by
  cases e
  case settled => exact h.elim
  all_goals rfl

end LimiterEvent

namespace Limiter

/-- The tasks that were started, the first one first. -/
def started (l : Limiter α) : List ℕ := l.history.filterMap LimiterEvent.startedTask?

/-- The tasks that were settled and their outcomes, the first one first. -/
def settled (l : Limiter α) : List (ℕ × Except Thrown α) :=
  l.history.filterMap LimiterEvent.settledTask?

/-- In a limiter of a size every task that was handed in is accounted for, and so is every slot,
where some tasks have ended with outcomes. -/
structure Accounted (most : ℕ) (tasks : List ℕ) (ends : List (ℕ × Except Thrown α))
    (l : Limiter α) : Prop where
  most_eq : l.most = most
  active_eq : l.active = l.running.length + l.releasing.length
  active_le : l.active ≤ most
  started_append_queue : l.started ++ l.queue = tasks
  increasing : tasks.Pairwise (· < ·)
  lt_next : ∀ t ∈ tasks, t < l.next
  /-- A task that was started is running or has ended. -/
  started_perm : l.started.Perm (l.running ++ ends.map Prod.fst)
  results_eq : l.results = ends
  settled_eq : l.settled = ends

/-- What is true between any two moves: no slot is free while a task waits. -/
structure Orderly (most : ℕ) (tasks : List ℕ) (ends : List (ℕ × Except Thrown α))
    (l : Limiter α) : Prop extends Accounted most tasks ends l where
  active_eq_of_queue : l.queue ≠ [] → l.active = most

/-- A number of slots, at least one, makes a limiter. -/
lemma create_natCast {most : ℕ} (h : 1 ≤ most) :
    (create (most : Number) : Except Failure (Limiter α)) = .ok { most := most } := by
  have hmost : ¬ (most : Number) < 1 := by
    rw [Rat.not_lt]
    exact_mod_cast h
  rw [create, if_neg hmost]

lemma orderly_create (most : ℕ) : Orderly most [] [] ({ most := most } : Limiter α) where
  most_eq := rfl
  active_eq := rfl
  active_le := Nat.zero_le most
  active_eq_of_queue h := (h rfl).elim
  started_append_queue := rfl
  increasing := .nil
  lt_next _ h := (List.not_mem_nil h).elim
  started_perm := .refl []
  results_eq := rfl
  settled_eq := rfl

variable {most : ℕ} {tasks : List ℕ} {ends : List (ℕ × Except Thrown α)} {l : Limiter α}

lemma hasSlot_iff (h : l.most = most) : l.hasSlot = true ↔ l.active < most := by
  rw [hasSlot, decide_eq_true_eq, h, Int.cast_natCast]
  exact Nat.cast_lt

lemma started_start (l : Limiter α) (task : ℕ) : (l.start task).started = l.started ++ [task] := by
  rw [started, start, List.filterMap_append]
  rfl

lemma settled_start (l : Limiter α) (task : ℕ) : (l.start task).settled = l.settled := by
  rw [settled, start, List.filterMap_append]
  exact List.append_nil _

namespace Accounted

/-- The number that comes next is the greatest. -/
lemma enqueue (h : Accounted most tasks ends l) :
    Accounted most (tasks ++ [l.next]) ends
      { l with next := l.next + 1, queue := l.queue ++ [l.next] } :=
  { h with
    started_append_queue := by
      rw [← h.started_append_queue, List.append_assoc]
      rfl
    increasing := by
      rw [List.pairwise_append]
      refine ⟨h.increasing, List.pairwise_singleton _ _, fun t ht n hn => ?_⟩
      rw [List.mem_singleton.mp hn]
      exact h.lt_next t ht
    lt_next := by
      intro t ht
      rcases List.mem_append.mp ht with ht | ht
      · exact Nat.lt_succ_of_lt (h.lt_next t ht)
      · rw [List.mem_singleton.mp ht]
        exact Nat.lt_succ_self _ }

/-- The task that waits first takes a free slot. -/
lemma start {task : ℕ} (h : Accounted most tasks ends { l with queue := task :: l.queue })
    (hfree : l.active < most) : Accounted most tasks ends (l.start task) where
  most_eq := h.most_eq
  active_eq := by
    have hactive : l.active = l.running.length + l.releasing.length := h.active_eq
    simp only [Limiter.start, List.length_append, List.length_singleton]
    omega
  active_le := hfree
  started_append_queue := by
    rw [started_start, List.append_assoc]
    exact h.started_append_queue
  increasing := h.increasing
  lt_next := h.lt_next
  started_perm := by
    rw [started_start]
    refine (h.started_perm.append_right [task]).trans ?_
    simp only [Limiter.start, List.append_assoc]
    exact List.perm_append_comm.append_left l.running
  results_eq := h.results_eq
  settled_eq := by
    rw [settled_start]
    exact h.settled_eq

/-- The slot of a task that ended is released. -/
lemma free (h : Accounted most tasks ends l) {task : ℕ} (hreleasing : task ∈ l.releasing) :
    Accounted most tasks ends
      { l with active := l.active - 1, releasing := l.releasing.erase task } :=
  { h with
    active_eq := by
      have hactive := h.active_eq
      have herase := List.length_erase_of_mem hreleasing
      have hpos := List.length_pos_of_mem hreleasing
      dsimp only
      omega
    active_le := (Nat.sub_le _ _).trans h.active_le }

end Accounted

lemma run_eq (l : Limiter α) :
    l.run = if l.hasSlot then { l with next := l.next + 1 }.start l.next
      else { l with next := l.next + 1, queue := l.queue ++ [l.next] } :=
  rfl

lemma next_run (l : Limiter α) : l.run.next = l.next + 1 := by
  rw [run_eq]
  split <;> rfl

namespace Orderly

/-! ## Handing in -/

/-- A number that no task has changes nothing. -/
lemma skip (h : Orderly most tasks ends l) :
    Orderly most tasks ends { l with next := l.next + 1 } :=
  { h with lt_next := fun t ht => Nat.lt_succ_of_lt (h.lt_next t ht) }

/-- A task that is handed in takes a free slot, or else the last place of the queue. -/
theorem run (h : Orderly most tasks ends l) : Orderly most (tasks ++ [l.next]) ends l.run := by
  have hqueued := h.enqueue
  have hslot := hasSlot_iff h.most_eq
  rw [run_eq]
  by_cases hfree : l.active < most
  · rw [if_pos (hslot.mpr hfree)]
    -- With a slot free nothing waits, so that the task is the first one that waits.
    have hqueue : l.queue = [] := by
      by_contra hne
      exact hfree.ne (h.active_eq_of_queue hne)
    have hfirst : l.queue ++ [l.next] = l.next :: l.queue := by rw [hqueue]; rfl
    rw [hfirst] at hqueued
    have hstarted := Accounted.start (l := { l with next := l.next + 1 }) hqueued hfree
    exact { hstarted with active_eq_of_queue := fun hne => (hne hqueue).elim }
  · rw [if_neg (mt hslot.mp hfree)]
    have hfull : l.active = most := Nat.le_antisymm h.active_le (Nat.not_lt.mp hfree)
    exact { hqueued with active_eq_of_queue := fun _ => hfull }

/-- Tasks that are handed in one after the other have the next numbers. -/
theorem runMany (h : Orderly most tasks ends l) (count : ℕ) :
    Orderly most (tasks ++ List.range' l.next count) ends (Limiter.runMany count l) := by
  induction count generalizing l tasks with
  | zero => simpa [Limiter.runMany] using h
  | succ count ih =>
    have hrest := ih h.run
    rwa [next_run, List.append_assoc, List.singleton_append, ← List.range'_succ] at hrest

/-- Notices, and what is kept for them, leave the slots as they are. -/
lemma notify (h : Orderly most tasks ends l) {notices : List (LimiterEvent α)}
    (hnotices : ∀ e ∈ notices, e.IsNotice) (waiters : List ℕ) (batches : List (ℕ × List ℕ)) :
    Orderly most tasks ends
      { l with waiters := waiters, batches := batches, history := l.history ++ notices } := by
  have hstarted : (l.history ++ notices).filterMap LimiterEvent.startedTask? = l.started := by
    rw [List.filterMap_append, List.filterMap_eq_nil_iff.mpr fun e he =>
      LimiterEvent.startedTask?_of_isNotice (hnotices e he), List.append_nil, started]
  have hsettled : (l.history ++ notices).filterMap LimiterEvent.settledTask? = l.settled := by
    rw [List.filterMap_append, List.filterMap_eq_nil_iff.mpr fun e he =>
      LimiterEvent.settledTask?_of_isNotice (hnotices e he), List.append_nil, settled]
  exact
    { h with
      started_append_queue := by
        rw [started, hstarted]
        exact h.started_append_queue
      started_perm := by
        rw [started, hstarted]
        exact h.started_perm
      settled_eq := by
        rw [settled, hsettled]
        exact h.settled_eq }

/-- Somebody who waits changes nothing. -/
theorem drain (h : Orderly most tasks ends l) : Orderly most tasks ends l.drain := by
  rw [Limiter.drain]
  dsimp only
  split
  · exact h.skip.notify (by simp [LimiterEvent.IsNotice]) l.waiters l.batches
  · exact { h.skip with }

lemma collectBatches (h : Orderly most tasks ends l) :
    Orderly most tasks ends l.collectBatches := by
  refine h.notify (fun e he => ?_) l.waiters _
  obtain ⟨b, -, hb⟩ := List.mem_filterMap.mp he
  obtain ⟨outcome, -, rfl⟩ := Option.map_eq_some_iff.mp hb
  trivial

/-- The tasks of a batch follow it. -/
theorem map (h : Orderly most tasks ends l) (count : ℕ) :
    Orderly most (tasks ++ (List.range count).map fun i => l.next + 1 + i) ends (l.map count) := by
  have hmany := h.skip.runMany count
  rw [List.range'_eq_map_range] at hmany
  have hkept := hmany.notify (List.forall_mem_nil _)
    (Limiter.runMany count { l with next := l.next + 1 }).waiters
    ((Limiter.runMany count { l with next := l.next + 1 }).batches ++
      [(l.next, (List.range count).map fun i => l.next + 1 + i)])
  rw [List.append_nil] at hkept
  exact hkept.collectBatches

/-! ## Ending -/

/-- A running task that ends keeps its slot. -/
theorem finish (h : Orderly most tasks ends l) {task : ℕ} (hrunning : task ∈ l.running)
    (outcome : Except Thrown α) :
    Orderly most tasks (ends ++ [(task, outcome)])
      { l with
        running := l.running.erase task
        releasing := l.releasing ++ [task]
        results := l.results ++ [(task, outcome)]
        history := l.history ++ [.settled task outcome] } := by
  have hstarted : (l.history ++ [LimiterEvent.settled task outcome]).filterMap
      LimiterEvent.startedTask? = l.started := by
    rw [List.filterMap_append]
    exact List.append_nil _
  have hperm : (l.running ++ ends.map Prod.fst).Perm
      (l.running.erase task ++ (ends ++ [(task, outcome)]).map Prod.fst) := by
    rw [List.map_append, ← List.append_assoc]
    refine ((List.perm_cons_erase hrunning).append_right _).trans ?_
    rw [List.cons_append]
    exact (List.perm_append_singleton _ _).symm
  exact
    { h with
      active_eq := by
        have hactive := h.active_eq
        have herase := List.length_erase_of_mem hrunning
        have hpos := List.length_pos_of_mem hrunning
        simp only [List.length_append, List.length_singleton]
        omega
      started_append_queue := by
        rw [started, hstarted]
        exact h.started_append_queue
      started_perm := by
        rw [started, hstarted]
        exact h.started_perm.trans hperm
      results_eq := by rw [h.results_eq]
      settled_eq := by
        rw [settled, List.filterMap_append]
        exact congrArg (· ++ [(task, outcome)]) h.settled_eq }

theorem settle (h : Orderly most tasks ends l) {task : ℕ} (hrunning : task ∈ l.running)
    (outcome : Except Thrown α) :
    Orderly most tasks (ends ++ [(task, outcome)]) (l.settle task outcome) := by
  rw [Limiter.settle, if_pos (List.contains_iff_mem.mpr hrunning)]
  exact (h.finish hrunning outcome).collectBatches

/-- The slot of a task that ended goes to the task that waits first, if there is one. -/
theorem release (h : Orderly most tasks ends l) {task : ℕ} (hreleasing : task ∈ l.releasing) :
    Orderly most tasks ends (l.release task) := by
  have hfreed := h.free hreleasing
  rw [Limiter.release, if_pos (List.contains_iff_mem.mpr hreleasing), advance]
  dsimp only
  split
  · next first rest hqueue =>
    -- While tasks wait all slots are taken, so only the one that was freed is free.
    have hfull : l.active = most := h.active_eq_of_queue (by simp [hqueue])
    have hpos : 0 < l.active := by
      rw [h.active_eq]
      exact Nat.add_pos_right _ (List.length_pos_of_mem hreleasing)
    have hless : l.active - 1 < most := by omega
    rw [hqueue] at hfreed
    exact
      { hfreed.start hless with
        active_eq_of_queue := fun _ => by
          simp only [Limiter.start]
          omega }
  · next hqueue =>
    have hreleased : Orderly most tasks ends
        { l with active := l.active - 1, releasing := l.releasing.erase task } :=
      { hfreed with active_eq_of_queue := fun hne => (hne hqueue).elim }
    split
    · exact hreleased.notify (by simp [LimiterEvent.IsNotice]) [] l.batches
    · exact hreleased

/-! ## Every task once -/

lemma nodup (h : Orderly most tasks ends l) : tasks.Nodup :=
  h.increasing.imp fun hlt => hlt.ne

/-- No task ends twice. -/
lemma nodup_ends (h : Orderly most tasks ends l) : (ends.map Prod.fst).Nodup := by
  have htasks := h.nodup
  rw [← h.started_append_queue] at htasks
  exact (h.started_perm.nodup_iff.mp htasks.of_append_left).of_append_right

/-- When no task has a slot, none waits, and each was started and has ended. -/
theorem at_rest (h : Orderly most tasks ends l) (hmost : 1 ≤ most) (hrunning : l.running = [])
    (hreleasing : l.releasing = []) :
    l.queue = [] ∧ l.started = tasks ∧ (ends.map Prod.fst).Perm tasks := by
  have hidle : l.active = 0 := by rw [h.active_eq, hrunning, hreleasing]; rfl
  have hqueue : l.queue = [] := by
    by_contra hne
    have hfull := h.active_eq_of_queue hne
    omega
  have hstarted : l.started = tasks := by
    rw [← h.started_append_queue, hqueue, List.append_nil]
  have hperm := h.started_perm
  rw [hrunning, hstarted] at hperm
  exact ⟨hqueue, hstarted, hperm.symm⟩

end Orderly

end Limiter

end CallAtlas
