import CallAtlas.Proofs.Workers.History

/-!
# The end of a pool

A pool that is shut down settles the tasks that wait. The tasks that workers are at are left to the
workers: they are settled if their workers still answer or meet an error. The end of a worker
settles nothing any more, so a task whose worker just ends is never settled.
-/

namespace CallAtlas

/-- Is an event the answer of a worker to a task, or an error in it? -/
def PoolEvent.Brings (worker task : ℕ) : PoolEvent → Prop
  | .message w t _ => w = worker ∧ t = task
  | .error w _ => w = worker
  | .exit _ _ | .shutdown => False

namespace Pool

/-- Is a worker at a task? -/
def At (p : Pool) (worker task : ℕ) : Prop :=
  ∃ s ∈ p.slots, s.worker = worker ∧ s.current.map PoolTask.id = some task

variable {p : Pool} {a b : List PoolSlot} {s : PoolSlot} {size : ℕ} {files : List SourceFile}
  {worker task : ℕ}

/-- The tasks that slots hold are those that workers are at. -/
lemma mem_held_iff : task ∈ (held p.slots).map PoolTask.id ↔ ∃ worker, p.At worker task := by
  constructor
  · intro h
    obtain ⟨t, ht, rfl⟩ := List.mem_map.mp h
    obtain ⟨s, hs, hcurrent⟩ := List.mem_filterMap.mp ht
    exact ⟨s.worker, s, hs, rfl, by rw [hcurrent, Option.map_some]⟩
  · rintro ⟨-, s, hs, -, hcurrent⟩
    obtain ⟨t, ht, rfl⟩ := Option.map_eq_some_iff.mp hcurrent
    exact List.mem_map_of_mem (List.mem_filterMap.mpr ⟨s, hs, ht⟩)

/-! ## A pool that shuts down -/

/-- While a pool shuts down, its workers end what they are at by an answer or an error only. -/
lemma ends_iff_brings (hdown : p.shuttingDown = true) (hs : s.current.map PoolTask.id = some task)
    (e : PoolEvent) : p.Ends s e ↔ e.Brings s.worker task := by
  cases e with
  | message w t reply => simp only [Ends, PoolEvent.Brings, hs, Option.some_inj, eq_comm]
  | error w t => rfl
  | exit w code => simp [Ends, PoolEvent.Brings, hdown]
  | shutdown => rfl

/-- The workers of other slots than a given one are other workers. -/
lemma Sound.worker_ne (h : p.Sound) (hslots : p.slots = a ++ s :: b) {x : PoolSlot}
    (hx : x ∈ a ++ b) : x.worker ≠ s.worker := by
  have hnodup := h.workers_nodup
  rw [hslots, (List.perm_middle.map PoolSlot.worker).nodup_iff, List.map_cons] at hnodup
  intro heq
  exact (List.nodup_cons.mp hnodup).1 (heq ▸ List.mem_map_of_mem hx)

/-- A slot that was freed has its worker at nothing; the others are as before. -/
lemma at_freed (h : p.Sound) (hslots : p.slots = a ++ s :: b) (result : TaskResult) :
    (p.freed a s b result).At worker task ↔ p.At worker task ∧ s.worker ≠ worker := by
  have hmem : ∀ {y : PoolSlot} {x : PoolSlot}, x ∈ a ++ y :: b ↔ x = y ∨ x ∈ a ++ b := fun {_ _} =>
    List.perm_middle.mem_iff.trans List.mem_cons
  constructor
  · rintro ⟨x, hx, rfl, hcurrent⟩
    rcases hmem.mp hx with rfl | hx
    · cases hcurrent
    · refine ⟨⟨x, ?_, rfl, hcurrent⟩, (h.worker_ne hslots hx).symm⟩
      rw [hslots]
      exact hmem.mpr (.inr hx)
  · rintro ⟨⟨x, hx, rfl, hcurrent⟩, hne⟩
    rw [hslots] at hx
    rcases hmem.mp hx with rfl | hx
    · exact (hne rfl).elim
    · exact ⟨x, hmem.mpr (.inr hx), rfl, hcurrent⟩

/-- A pool that shuts down takes no tasks. -/
lemma isSome_refusal?_of_shuttingDown (hdown : p.shuttingDown = true) : p.refusal?.isSome := by
  rw [isSome_refusal?, hdown]
  rfl

/-- While a pool shuts down, a worker stays at its task until it answers or meets an error. -/
lemma at_step_iff (h : p.Sound) (hdown : p.shuttingDown = true) (e : PoolEvent) :
    (p.step e).shuttingDown = true ∧ ∀ worker task,
      (p.step e).At worker task ↔ p.At worker task ∧ ¬ e.Brings worker task := by
  have hrefuses : p.refusal? ≠ none :=
    Option.isSome_iff_ne_none.mp (isSome_refusal?_of_shuttingDown hdown)
  have heffect := effect_step h e
  generalize p.step e = q at heffect ⊢
  cases heffect with
  | passedOver hnone _ =>
    refine ⟨hdown, fun worker task => ⟨fun hat => ⟨hat, ?_⟩, And.left⟩⟩
    obtain ⟨s, hs, rfl, hcurrent⟩ := hat
    rw [← ends_iff_brings hdown hcurrent]
    exact hnone s hs
  | @closed _ a b s hslots _ hends =>
    refine ⟨hdown, fun worker task =>
      (at_freed h hslots _).trans (and_congr_right fun hat => not_congr ?_)⟩
    obtain ⟨x, hx, rfl, hcurrent⟩ := hat
    rw [← ends_iff_brings hdown hcurrent]
    constructor
    · intro hworker
      have hxs : x = s := h.eq_of_slotOf? (slotOf?_eq h hslots) hx hworker
      rwa [hxs]
    · intro hends'
      -- One event is about one worker.
      cases e with
      | message w t reply => exact hends.1.symm.trans hends'.1
      | error w t => exact hends.symm.trans hends'
      | exit w code => exact hends.1.symm.trans hends'.1
      | shutdown => exact hends.elim
  | answered _ hopen _ => exact (hrefuses hopen).elim
  | exhausted _ hopen _ => exact (hrefuses hopen).elim
  | replaced _ hopen _ _ => exact (hrefuses hopen).elim
  | shutdown => exact ⟨rfl, fun worker task => ⟨fun hat => ⟨hat, id⟩, And.left⟩⟩

/-- What holds of a pool that shuts down after any events: it is in order, and its workers are at
the tasks that they have neither answered nor lost by an error. -/
lemma orderly_foldl_step (h : Orderly size files p) (hdown : p.shuttingDown = true)
    (later : List PoolEvent) :
    Orderly size files (later.foldl step p) ∧ (later.foldl step p).shuttingDown = true
      ∧ ∀ worker task, (later.foldl step p).At worker task
          ↔ p.At worker task ∧ ∀ e ∈ later, ¬ e.Brings worker task := by
  induction later generalizing p with
  | nil => exact ⟨h, hdown, fun worker task => ⟨fun hat => ⟨hat, nofun⟩, And.left⟩⟩
  | cons e rest ih =>
    have hbusy := busy_of_isSome_refusal? (isSome_refusal?_of_shuttingDown hdown)
    obtain ⟨hstill, hstep⟩ := at_step_iff h.sound hdown e
    obtain ⟨horderly, hend, hat⟩ := ih (h.step hbusy e).1 hstill
    refine ⟨horderly, hend, fun worker task => ?_⟩
    rw [List.foldl_cons, hat, hstep, List.forall_mem_cons, and_assoc]

/-- From the moment at which a pool is shut down, no file is taken, and a task that was taken before
is settled just if the worker that was at it, if there was one, still answers it or meets an error.
No end of a worker settles it. -/
theorem settled_after_shutdown {size : ℕ} {files : List SourceFile} {p : Pool}
    (h : History size files p) (later : List PoolEvent) :
    (∀ file q, (later.foldl step (p.step .shutdown)).submit file ≠ .ok q)
    ∧ ∀ task < files.length,
        task ∈ (later.foldl step (p.step .shutdown)).settled.map Prod.fst
          ↔ ∀ worker, p.At worker task → ∃ e ∈ later, e.Brings worker task := by
  obtain ⟨horderly, hbusy⟩ := h.orderly
  obtain ⟨hend, hdown, hat⟩ := orderly_foldl_step (horderly.step hbusy .shutdown).1 rfl later
  have hrefuses := isSome_refusal?_of_shuttingDown hdown
  constructor
  · intro file q hq
    exact Option.isSome_iff_ne_none.mp hrefuses (submit_eq_ok_iff.mp hq).1
  · intro task htask
    -- Nothing waits, so what is not settled is held by a slot.
    have hnodup := hend.sound.ids_nodup
    have hall := hend.sound.tasks_perm.mem_iff (a := task)
    rw [hend.queue_eq_nil hrefuses, List.map_nil, List.nil_append, hend.nextTask_eq,
      List.mem_range, List.mem_append] at hall
    rw [hend.queue_eq_nil hrefuses, List.map_nil, List.nil_append] at hnodup
    have hsettled : task ∈ (later.foldl step (p.step .shutdown)).settled.map Prod.fst
        ↔ task ∉ (held (later.foldl step (p.step .shutdown)).slots).map PoolTask.id :=
      ⟨fun hin hheld => List.disjoint_of_nodup_append hnodup hheld hin,
        (hall.mpr htask).resolve_left⟩
    rw [hsettled, mem_held_iff, not_exists]
    apply forall_congr'
    intro worker
    rw [hat, not_and, not_forall]
    simp only [not_forall, not_not, exists_prop]
    rfl

/-- A pool with one worker and two tasks, whose worker ends after the shutdown: the task that waits
is settled, the other one is not. -/
theorem settled_after_shutdown_begun :
    1 ∈ (([.exit 0 1] : List PoolEvent).foldl step (begun.step .shutdown)).settled.map Prod.fst
      ∧ 0 ∉ (([.exit 0 1] : List PoolEvent).foldl step
          (begun.step .shutdown)).settled.map Prod.fst := by
  obtain ⟨-, hsettled⟩ := settled_after_shutdown history_begun [.exit 0 1]
  have hslots : begun.slots = [⟨0, 0, some ⟨0, ⟨"a.p", "", none⟩⟩⟩] := by decide +kernel
  constructor
  · rw [hsettled 1 (by decide)]
    rintro worker ⟨s, hs, -, hcurrent⟩
    rw [hslots, List.mem_singleton] at hs
    rw [hs] at hcurrent
    cases hcurrent
  · rw [hsettled 0 (by decide)]
    intro hall
    obtain ⟨e, he, hbrings⟩ := hall 0 ⟨_, by rw [hslots]; exact List.mem_singleton_self _, rfl, rfl⟩
    rw [List.mem_singleton] at he
    rw [he] at hbrings
    exact hbrings

/-- A pool is shut down while its only worker is at a task, and the worker ends: the task is never
settled, neither by an outcome nor by an error. -/
theorem unsettled_after_exit :
    History 1 twoFiles begun ∧ begun.slots.map PoolSlot.worker = [0]
      ∧ ((begun.step .shutdown).step (.exit 0 1)).result? 0 = none :=
  ⟨history_begun, by decide +kernel, rfl⟩

end Pool

end CallAtlas
