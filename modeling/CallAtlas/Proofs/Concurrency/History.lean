import CallAtlas.Proofs.Concurrency.Batches

/-!
# The history of a limiter

Tasks and batches are handed in, tasks end, slots are released and somebody asks to be told when the
limiter is drained, in any order. `Conduct` says what holds after every such history: how many tasks
are active, in which order they were started, what became of them and what was told about the
batches. Tasks that end and slots that are released bring every history to rest after a number of
moves that is known beforehand (`remaining`).
-/

namespace CallAtlas.Limiter

variable {α : Type}

/-- What was handed in, and its number: a task, or a batch of so many tasks. -/
inductive Call where
  | run (task : ℕ)
  | map (batch count : ℕ)

namespace Call

/-- The tasks that were handed in. Those of a batch follow it. -/
def tasks : Call → List ℕ
  | run task => [task]
  | map batch count => (List.range count).map fun i => batch + 1 + i

/-- The batch that was handed in, with its tasks. -/
def batch? : Call → Option (ℕ × List ℕ)
  | run _ => none
  | map batch count => some (batch, (map batch count).tasks)

end Call

/-- What can become of a new limiter. Listed are what was handed in and what the tasks that have
ended amount to, both in their order. Any running task may end next, and any slot of a task that has
ended may be released next. -/
inductive History (most : ℕ) : List Call → List (ℕ × Except Thrown α) → Limiter α → Prop
  | create {l : Limiter α} (h : create (most : Number) = .ok l) : History most [] [] l
  | run {calls : List Call} {ends : List (ℕ × Except Thrown α)} {l : Limiter α}
    (h : History most calls ends l) : History most (calls ++ [.run l.next]) ends l.run
  | map {calls : List Call} {ends : List (ℕ × Except Thrown α)} {l : Limiter α}
    (h : History most calls ends l) (count : ℕ) :
    History most (calls ++ [.map l.next count]) ends (l.map count)
  | drain {calls : List Call} {ends : List (ℕ × Except Thrown α)} {l : Limiter α}
    (h : History most calls ends l) : History most calls ends l.drain
  | finish {calls : List Call} {ends : List (ℕ × Except Thrown α)} {l : Limiter α}
    (h : History most calls ends l) {task : ℕ} (running : task ∈ l.running)
    (outcome : Except Thrown α) :
    History most calls (ends ++ [(task, outcome)]) (l.settle task outcome)
  | release {calls : List Call} {ends : List (ℕ × Except Thrown α)} {l : Limiter α}
    (h : History most calls ends l) {task : ℕ} (releasing : task ∈ l.releasing) :
    History most calls ends (l.release task)

/-- Tasks end and slots are released, in so many moves and while nothing is handed in. -/
inductive Unwinds (l : Limiter α) : ℕ → List (ℕ × Except Thrown α) → Limiter α → Prop
  | none : Unwinds l 0 [] l
  | finish {moves : ℕ} {ends : List (ℕ × Except Thrown α)} {l' : Limiter α}
    (h : Unwinds l moves ends l') {task : ℕ} (running : task ∈ l'.running)
    (outcome : Except Thrown α) :
    Unwinds l (moves + 1) (ends ++ [(task, outcome)]) (l'.settle task outcome)
  | release {moves : ℕ} {ends : List (ℕ × Except Thrown α)} {l' : Limiter α}
    (h : Unwinds l moves ends l') {task : ℕ} (releasing : task ∈ l'.releasing) :
    Unwinds l (moves + 1) ends (l'.release task)

/-- The number of moves that are left: a task that waits or runs ends, and its slot is released. -/
def remaining (l : Limiter α) : ℕ :=
  2 * (l.queue.length + l.running.length) + l.releasing.length

variable {most : ℕ} {calls : List Call} {ends : List (ℕ × Except Thrown α)} {l : Limiter α}

/-! ## What every move keeps -/

theorem History.orderly (h : History most calls ends l) (hmost : 1 ≤ most) :
    Orderly most (calls.flatMap Call.tasks) ends l := by
  induction h with
  | create h =>
    rw [create_natCast hmost] at h
    cases h
    exact orderly_create most
  | run _ ih =>
    rw [List.flatMap_append]
    exact ih.run
  | map _ count ih =>
    rw [List.flatMap_append, List.flatMap_singleton]
    exact ih.map count
  | drain _ ih => exact ih.drain
  | finish _ hrunning outcome ih => exact ih.settle hrunning outcome
  | release _ hreleasing ih => exact ih.release hreleasing

theorem History.collecting (h : History most calls ends l) (hmost : 1 ≤ most) :
    Collecting (calls.filterMap Call.batch?) l := by
  induction h with
  | create h =>
    rw [create_natCast hmost] at h
    cases h
    exact collecting_create most
  | run _ ih =>
    rw [List.filterMap_append]
    exact (List.append_nil _).symm ▸ ih.keep (keepsBatches_run _)
  | map _ count ih =>
    rw [List.filterMap_append]
    exact ih.map count
  | drain _ ih => exact ih.keep (keepsBatches_drain _)
  | finish h hrunning outcome ih =>
    rw [settle, if_pos (List.contains_iff_mem.mpr hrunning)]
    -- As no task ends twice, the new end contradicts none of those before it.
    have hafter := (h.orderly hmost).finish hrunning outcome
    refine (ih.toCollectable.finish ?_ _ _).collect
    rw [(h.orderly hmost).results_eq]
    exact hafter.nodup_ends
  | release _ _ ih => exact ih.keep (keepsBatches_release _ _)

/-! ## Coming to rest -/

lemma remaining_settle {task : ℕ} (hrunning : task ∈ l.running) (outcome : Except Thrown α) :
    (l.settle task outcome).remaining + 1 = l.remaining := by
  have herase := List.length_erase_of_mem hrunning
  have hpos := List.length_pos_of_mem hrunning
  rw [settle, if_pos (List.contains_iff_mem.mpr hrunning)]
  simp only [remaining, collectBatches, List.length_append, List.length_singleton]
  omega

lemma remaining_release {task : ℕ} (hreleasing : task ∈ l.releasing) :
    (l.release task).remaining + 1 = l.remaining := by
  have herase := List.length_erase_of_mem hreleasing
  have hpos := List.length_pos_of_mem hreleasing
  rw [release, if_pos (List.contains_iff_mem.mpr hreleasing), advance]
  dsimp only
  split
  · next first rest hqueue =>
    simp only [remaining, start, hqueue, List.length_append, List.length_cons, List.length_nil]
    omega
  · split <;> simp only [remaining] <;> omega

lemma History.unwind {moves : ℕ} {more : List (ℕ × Except Thrown α)} {l' : Limiter α}
    (h : History most calls ends l) (hmoves : Unwinds l moves more l') :
    History most calls (ends ++ more) l' ∧ moves + l'.remaining = l.remaining := by
  induction hmoves with
  | none => exact ⟨(List.append_nil ends).symm ▸ h, Nat.zero_add _⟩
  | finish _ hrunning outcome ih =>
    obtain ⟨hhistory, hcount⟩ := ih
    have hless := remaining_settle hrunning outcome
    refine ⟨?_, by omega⟩
    rw [← List.append_assoc]
    exact hhistory.finish hrunning outcome
  | release _ hreleasing ih =>
    obtain ⟨hhistory, hcount⟩ := ih
    have hless := remaining_release hreleasing
    exact ⟨hhistory.release hreleasing, by omega⟩

/-! ## Conduct -/

/-- What holds of a limiter after a history. -/
structure Conduct (most : ℕ) (calls : List Call) (ends : List (ℕ × Except Thrown α))
    (l : Limiter α) : Prop where
  /-- The slots in use are those of the tasks that run and of those that have ended and whose slots
  are not yet released. -/
  active_eq : l.active = l.running.length + l.releasing.length
  active_le : l.active ≤ most
  /-- Tasks wait only if no slot is free. -/
  active_eq_of_queue : l.queue ≠ [] → l.active = most
  /-- No two tasks are the same. -/
  nodup : (calls.flatMap Call.tasks).Nodup
  /-- Tasks are started in the order in which they were handed in. -/
  started_append_queue : l.started ++ l.queue = calls.flatMap Call.tasks
  /-- The tasks that were started are those that run and those that have ended. -/
  started_perm : l.started.Perm (l.running ++ ends.map Prod.fst)
  /-- A task is settled with what it amounts to. -/
  settled_eq : l.settled = ends
  /-- As soon as it is known what a batch amounts to, it has been told, and once. -/
  collected_eq_singleton : ∀ {batch count : ℕ}, .map batch count ∈ calls →
    ∀ {outcome : Except Thrown (List α)},
      IsOutcome ends (Call.map batch count).tasks outcome → l.collected batch = [outcome]
  /-- Before that nothing has been told. -/
  collected_eq_nil : ∀ {batch count : ℕ}, .map batch count ∈ calls →
    (∀ outcome, ¬ IsOutcome ends (Call.map batch count).tasks outcome) → l.collected batch = []
  /-- While tasks are left, one of them can end or a slot can be released. -/
  can_move : l.remaining ≠ 0 → l.running ≠ [] ∨ l.releasing ≠ []
  /-- Such a move leaves one move less. -/
  unwinds : ∀ {moves : ℕ} {more : List (ℕ × Except Thrown α)} {l' : Limiter α},
    Unwinds l moves more l' →
      History most calls (ends ++ more) l' ∧ moves + l'.remaining = l.remaining
  /-- When no move is left each task was started and is settled. -/
  at_rest : l.remaining = 0 →
    l.started = calls.flatMap Call.tasks ∧ (l.settled.map Prod.fst).Perm (calls.flatMap Call.tasks)

lemma mem_batches {batch count : ℕ} (h : .map batch count ∈ calls) :
    (batch, (Call.map batch count).tasks) ∈ calls.filterMap Call.batch? :=
  List.mem_filterMap.mpr ⟨_, h, rfl⟩

/-- A limiter can be created with one slot or more, and after every history it starts each task once
and in turn, never too many at once, and tells of each task and each batch what it amounts to. -/
theorem limiter_conduct (hmost : 1 ≤ most) :
    (∃ l : Limiter α, create (most : Number) = .ok l) ∧
      ∀ {calls : List Call} {ends : List (ℕ × Except Thrown α)} {l : Limiter α},
        History most calls ends l → Conduct most calls ends l := by
  refine ⟨⟨_, create_natCast hmost⟩, fun {calls ends l} h => ?_⟩
  have hslots := h.orderly hmost
  have hbatches := h.collecting hmost
  have hnodup : (l.results.map Prod.fst).Nodup := hslots.results_eq ▸ hslots.nodup_ends
  have hrest := hslots.at_rest hmost
  exact
    { active_eq := hslots.active_eq
      active_le := hslots.active_le
      active_eq_of_queue := hslots.active_eq_of_queue
      nodup := hslots.nodup
      started_append_queue := hslots.started_append_queue
      started_perm := hslots.started_perm
      settled_eq := hslots.settled_eq
      collected_eq_singleton := fun hcall _ houtcome => by
        rw [hbatches.collected_eq (mem_batches hcall),
          (collect?_eq_some_iff hnodup).mpr (hslots.results_eq ▸ houtcome)]
        rfl
      collected_eq_nil := fun {batch count} hcall hnone => by
        have hunknown : l.collect? (Call.map batch count).tasks = none := by
          refine Option.eq_none_iff_forall_ne_some.mpr fun outcome hsome => hnone outcome ?_
          exact hslots.results_eq ▸ (collect?_eq_some_iff hnodup).mp hsome
        rw [hbatches.collected_eq (mem_batches hcall), hunknown]
        rfl
      can_move := fun hremaining => by
        by_contra hidle
        obtain ⟨hrunning, hreleasing⟩ := not_or.mp hidle
        rw [not_not] at hrunning hreleasing
        have hqueue := (hrest hrunning hreleasing).1
        rw [remaining, hqueue, hrunning, hreleasing] at hremaining
        exact hremaining rfl
      unwinds := h.unwind
      at_rest := fun hremaining => by
        rw [remaining] at hremaining
        have hrunning : l.running = [] := List.eq_nil_of_length_eq_zero (by omega)
        have hreleasing : l.releasing = [] := List.eq_nil_of_length_eq_zero (by omega)
        obtain ⟨-, hstarted, hperm⟩ := hrest hrunning hreleasing
        rw [hslots.settled_eq]
        exact ⟨hstarted, hperm⟩ }

/-- A batch of three tasks and one more task in two slots. The second task of the batch ends first;
the last task is handed in before its slot is released, and fails. -/
def overtaken : Limiter ℕ :=
  { most := 2 : Limiter ℕ }.map 3 |>.settle 2 (.ok 20) |>.run |>.release 2 |>.settle 3 (.ok 30)
    |>.release 3 |>.settle 4 (.error (.value .null)) |>.settle 1 (.ok 10)

lemma history_overtaken :
    History 2 [.map 0 3, .run 4]
      [(2, .ok 20), (3, .ok 30), (4, .error (.value .null)), (1, .ok 10)] overtaken := by
  have hcreate : History 2 [] [] { most := 2 : Limiter ℕ } := .create (create_natCast (by decide))
  have hbatch := hcreate.map 3
  have hrun := (hbatch.finish (show 2 ∈ _ by decide +kernel) (.ok 20)).run
  have hthird := (hrun.release (show 2 ∈ _ by decide +kernel)).finish
    (show 3 ∈ _ by decide +kernel) (.ok 30)
  have hfailed := (hthird.release (show 3 ∈ _ by decide +kernel)).finish
    (show 4 ∈ _ by decide +kernel) (.error (.value .null))
  exact hfailed.finish (show 1 ∈ _ by decide +kernel) (.ok 10)

theorem limiter_conduct_overtaken :
    1 ≤ 2 ∧
      History 2 [.map 0 3, .run 4]
        [(2, .ok 20), (3, .ok 30), (4, .error (.value .null)), (1, .ok 10)] overtaken ∧
      Conduct 2 [.map 0 3, .run 4]
        [(2, .ok 20), (3, .ok 30), (4, .error (.value .null)), (1, .ok 10)] overtaken ∧
      overtaken.started = [1, 2, 3, 4] ∧ overtaken.collected 0 = [.ok [10, 20, 30]] ∧
      overtaken.remaining = 2 :=
  ⟨by decide, history_overtaken, (limiter_conduct (by decide)).2 history_overtaken,
    by decide +kernel, rfl, by decide +kernel⟩

end CallAtlas.Limiter
