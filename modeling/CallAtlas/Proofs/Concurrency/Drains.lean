import CallAtlas.Proofs.Concurrency.History
import Mathlib.Tactic.IntervalCases

/-!
# Waiting for a limiter to be drained

Somebody who asks to be told when a limiter is drained is told at the first moment at which no task
is active and none waits. That is the moment of asking itself, or the one at which the slot of the
last task is released (`Effect`). No other move leads to such a moment, so that nobody waits at one
(`Attended`), and nobody is told at another.
-/

namespace CallAtlas

variable {α : Type}

/-- The one whom an event tells that the limiter is drained. -/
def LimiterEvent.drainedWaiter? : LimiterEvent α → Option ℕ
  | drained waiter => some waiter
  | _ => none

namespace Limiter

/-- Those who were told that the limiter is drained, the first one first. -/
def told (l : Limiter α) : List ℕ := l.history.filterMap LimiterEvent.drainedWaiter?

/-- No task is active and none waits. -/
def IsIdle (l : Limiter α) : Prop := l.active = 0 ∧ l.queue = []

instance (l : Limiter α) : Decidable l.IsIdle := inferInstanceAs (Decidable (_ ∧ _))

/-- What can happen to a limiter next: a task or a batch is handed in, somebody asks to be told when
it is drained, a running task ends, or the slot of a task that has ended is released. -/
inductive Move (l : Limiter α) : Limiter α → Prop
  | run : Move l l.run
  | map (count : ℕ) : Move l (l.map count)
  | drain : Move l l.drain
  | finish {task : ℕ} (running : task ∈ l.running) (outcome : Except Thrown α) :
    Move l (l.settle task outcome)
  | release {task : ℕ} (releasing : task ∈ l.releasing) : Move l (l.release task)

variable {l l' : Limiter α}

/-- Every history goes on with every move. -/
lemma History.move {most : ℕ} {calls : List Call} {ends : List (ℕ × Except Thrown α)}
    (h : History most calls ends l) (hmove : Move l l') :
    ∃ calls' ends', History most calls' ends' l' := by
  cases hmove with
  | run => exact ⟨_, _, h.run⟩
  | map count => exact ⟨_, _, h.map count⟩
  | drain => exact ⟨_, _, h.drain⟩
  | finish hrunning outcome => exact ⟨_, _, h.finish hrunning outcome⟩
  | release hreleasing => exact ⟨_, _, h.release hreleasing⟩

/-- A limiter is idle when nothing is left to be done. -/
lemma History.isIdle_iff {most : ℕ} (hmost : 1 ≤ most) {calls : List Call}
    {ends : List (ℕ × Except Thrown α)} (h : History most calls ends l) :
    l.IsIdle ↔ l.remaining = 0 := by
  have hactive := (h.orderly hmost).active_eq
  rw [IsIdle, remaining, hactive, ← List.length_eq_zero_iff]
  omega

/-! ## What a move does to those who wait -/

/-- Events of another kind tell nobody. -/
lemma filterMap_drainedWaiter?_append {events more : List (LimiterEvent α)}
    (hmore : ∀ e ∈ more, e.drainedWaiter? = none) :
    (events ++ more).filterMap LimiterEvent.drainedWaiter? =
      events.filterMap LimiterEvent.drainedWaiter? := by
  rw [List.filterMap_append, List.filterMap_eq_nil_iff.mpr hmore, List.append_nil]

/-- Nobody is told, nobody waits who did not wait before, and the limiter is idle only if it was. -/
structure Quiet (l l' : Limiter α) : Prop where
  told_eq : l'.told = l.told
  waiters_eq : l'.waiters = l.waiters
  next_le : l.next ≤ l'.next
  isIdle : l'.IsIdle → l.IsIdle

namespace Quiet

lemma refl (l : Limiter α) : Quiet l l := ⟨rfl, rfl, Nat.le_refl _, id⟩

lemma trans {l'' : Limiter α} (h : Quiet l l') (h' : Quiet l' l'') : Quiet l l'' where
  told_eq := h'.told_eq.trans h.told_eq
  waiters_eq := h'.waiters_eq.trans h.waiters_eq
  next_le := h.next_le.trans h'.next_le
  isIdle := h.isIdle ∘ h'.isIdle

end Quiet

lemma told_start (l : Limiter α) (task : ℕ) : (l.start task).told = l.told :=
  filterMap_drainedWaiter?_append (by simp [LimiterEvent.drainedWaiter?])

/-- A task that is started is active. -/
lemma not_isIdle_start (l : Limiter α) (task : ℕ) : ¬(l.start task).IsIdle :=
  fun h => Nat.succ_ne_zero _ h.1

lemma quiet_run (l : Limiter α) : Quiet l l.run := by
  rw [run_eq]
  split
  · exact
      { told_eq := told_start _ _
        waiters_eq := rfl
        next_le := Nat.le_succ _
        isIdle := fun h => (not_isIdle_start _ _ h).elim }
  · -- The task waits now.
    exact
      { told_eq := rfl
        waiters_eq := rfl
        next_le := Nat.le_succ _
        isIdle := fun h => (List.append_ne_nil_of_right_ne_nil _ (List.cons_ne_nil _ _) h.2).elim }

lemma quiet_runMany (l : Limiter α) (count : ℕ) : Quiet l (runMany count l) := by
  induction count generalizing l with
  | zero => exact .refl l
  | succ count ih => exact (quiet_run l).trans (ih l.run)

lemma quiet_collectBatches (l : Limiter α) : Quiet l l.collectBatches where
  told_eq := by
    refine filterMap_drainedWaiter?_append fun e he => ?_
    obtain ⟨b, -, hb⟩ := List.mem_filterMap.mp he
    obtain ⟨outcome, -, rfl⟩ := Option.map_eq_some_iff.mp hb
    rfl
  waiters_eq := rfl
  next_le := Nat.le_refl _
  isIdle := id

lemma quiet_map (l : Limiter α) (count : ℕ) : Quiet l (l.map count) := by
  have hskip : Quiet l { l with next := l.next + 1 } :=
    { Quiet.refl l with next_le := Nat.le_succ _ }
  have hmany := hskip.trans (quiet_runMany _ count)
  unfold Limiter.map
  refine Quiet.trans ?_ (quiet_collectBatches _)
  exact { hmany with }

lemma quiet_settle (l : Limiter α) (task : ℕ) (outcome : Except Thrown α) :
    Quiet l (l.settle task outcome) := by
  rw [settle]
  split
  · refine Quiet.trans ?_ (quiet_collectBatches _)
    exact
      { Quiet.refl l with
        told_eq := filterMap_drainedWaiter?_append (by simp [LimiterEvent.drainedWaiter?]) }
  · exact .refl l

/-- What a move can do to those who wait. -/
inductive Effect (l l' : Limiter α) : Prop
  | quiet (h : Quiet l l')
  /-- Somebody asks while the limiter is idle and is told at once. -/
  | answered (was_idle : l.IsIdle) (is_idle : l'.IsIdle) (told_eq : l'.told = l.told ++ [l.next])
    (waiters_eq : l'.waiters = l.waiters) (next_eq : l'.next = l.next + 1)
  /-- Somebody asks while the limiter is busy and waits. -/
  | waits (is_busy : ¬l'.IsIdle) (told_eq : l'.told = l.told)
    (waiters_eq : l'.waiters = l.waiters ++ [l.next]) (next_eq : l'.next = l.next + 1)
  /-- The last slot is released, and all who wait are told. -/
  | drained (is_idle : l'.IsIdle) (told_eq : l'.told = l.told ++ l.waiters)
    (waiters_eq : l'.waiters = []) (next_eq : l'.next = l.next)

/-- Asking makes a limiter neither idle nor busy. -/
lemma isIdle_drain : l.drain.IsIdle ↔ l.IsIdle := by
  unfold drain
  dsimp only
  split <;> rfl

lemma drain_of_isIdle (h : l.IsIdle) :
    l.drain = { l with next := l.next + 1, history := l.history ++ [.drained l.next] } :=
  if_pos h

lemma drain_of_not_isIdle (h : ¬l.IsIdle) :
    l.drain = { l with next := l.next + 1, waiters := l.waiters ++ [l.next] } :=
  if_neg h

lemma effect_drain (l : Limiter α) : Effect l l.drain := by
  by_cases hidle : l.IsIdle
  · refine .answered hidle (isIdle_drain.mpr hidle) ?_ ?_ ?_ <;> rw [drain_of_isIdle hidle]
    rw [told, List.filterMap_append]
    rfl
  · refine .waits (mt isIdle_drain.mp hidle) ?_ ?_ ?_ <;> rw [drain_of_not_isIdle hidle]
    rfl

/-- Where the slot of a task is released, the next task takes it, or the slots of others are still
in use, or it was the last one. -/
lemma effect_release {task : ℕ} (hreleasing : task ∈ l.releasing) :
    Effect l (l.release task) := by
  rw [release, if_pos (List.contains_iff_mem.mpr hreleasing), advance]
  dsimp only
  split
  · next first rest hqueue =>
    exact .quiet
      { told_eq := told_start _ _
        waiters_eq := rfl
        next_le := Nat.le_refl _
        isIdle := fun h => (not_isIdle_start _ _ h).elim }
  · next hqueue =>
    split
    · next hactive =>
      refine .drained ⟨hactive, hqueue⟩ ?_ rfl rfl
      rw [told, List.filterMap_append, List.filterMap_map]
      exact congrArg (l.told ++ ·) (List.filterMap_some)
    · next hactive =>
      exact .quiet
        { told_eq := rfl
          waiters_eq := rfl
          next_le := Nat.le_refl _
          isIdle := fun h => (hactive h.1).elim }

theorem Move.effect (h : Move l l') : Effect l l' := by
  cases h with
  | run => exact .quiet (quiet_run l)
  | map count => exact .quiet (quiet_map l count)
  | drain => exact effect_drain l
  | finish _ outcome => exact .quiet (quiet_settle l _ outcome)
  | release hreleasing => exact effect_release hreleasing

/-! ## Nobody waits while the limiter is idle -/

/-- Those who have asked: the ones who were told, and the ones who wait. -/
def askers (l : Limiter α) : List ℕ := l.told ++ l.waiters

/-- What is true between any two moves of those who have asked: nobody is told twice or is told and
waits, and nobody waits while the limiter is idle. -/
structure Attended (l : Limiter α) : Prop where
  nodup : l.askers.Nodup
  lt_next : ∀ w ∈ l.askers, w < l.next
  waiters_eq_nil : l.IsIdle → l.waiters = []

lemma attended_create (most : Number) : Attended ({ most } : Limiter α) where
  nodup := .nil
  lt_next _ h := (List.not_mem_nil h).elim
  waiters_eq_nil _ := rfl

/-- Those who are told are told once. -/
lemma Attended.nodup_told (h : Attended l) : l.told.Nodup := h.nodup.of_append_left

namespace Move

/-- Nobody is untold. -/
lemma told_prefix_told (h : Move l l') : l.told <+: l'.told := by
  cases h.effect with
  | quiet hquiet => exact hquiet.told_eq ▸ List.prefix_rfl
  | answered _ _ htold => exact htold ▸ List.prefix_append _ _
  | waits _ htold => exact htold ▸ List.prefix_rfl
  | drained _ htold => exact htold ▸ List.prefix_append _ _

/-- Somebody is told only if the limiter is idle then. -/
lemma told_eq_of_not_isIdle (h : Move l l') (hbusy : ¬l'.IsIdle) : l'.told = l.told := by
  cases h.effect with
  | quiet hquiet => exact hquiet.told_eq
  | answered _ hidle => exact (hbusy hidle).elim
  | waits _ htold => exact htold
  | drained hidle => exact (hbusy hidle).elim

/-- Those who have asked go on being told or waiting, and at most one asks, whose number is new. -/
lemma askers_eq (h : Move l l') (hattended : Attended l) :
    l'.askers = l.askers ∧ l.next ≤ l'.next
      ∨ l'.askers = l.askers ++ [l.next] ∧ l'.next = l.next + 1 := by
  unfold askers
  cases h.effect with
  | quiet hquiet => exact .inl ⟨by rw [hquiet.told_eq, hquiet.waiters_eq], hquiet.next_le⟩
  | answered was_idle _ htold hwaiters hnext =>
    -- As nobody waits at such a moment, the one who is told comes last.
    have hnone := hattended.waiters_eq_nil was_idle
    exact .inr ⟨by rw [htold, hwaiters, hnone, List.append_nil, List.append_nil], hnext⟩
  | waits _ htold hwaiters hnext =>
    exact .inr ⟨by rw [htold, hwaiters, List.append_assoc], hnext⟩
  | drained _ htold hwaiters hnext =>
    exact .inl ⟨by rw [htold, hwaiters, List.append_nil], hnext.ge⟩

/-- At a moment at which the limiter is idle all who wait have been told. -/
lemma waiters_eq_nil (h : Move l l') (hattended : Attended l) (hidle : l'.IsIdle) :
    l'.waiters = [] := by
  cases h.effect with
  | quiet hquiet => rw [hquiet.waiters_eq, hattended.waiters_eq_nil (hquiet.isIdle hidle)]
  | answered was_idle _ _ hwaiters => rw [hwaiters, hattended.waiters_eq_nil was_idle]
  | waits hbusy => exact (hbusy hidle).elim
  | drained _ _ hwaiters => exact hwaiters

theorem attended (h : Move l l') (hattended : Attended l) : Attended l' := by
  refine ⟨?_, ?_, h.waiters_eq_nil hattended⟩
  · rcases h.askers_eq hattended with ⟨haskers, -⟩ | ⟨haskers, -⟩
    · exact haskers ▸ hattended.nodup
    · rw [haskers]
      refine hattended.nodup.append (List.nodup_singleton _) fun w hw hnext => ?_
      exact (hattended.lt_next w hw).ne (List.mem_singleton.mp hnext)
  · intro w hw
    rcases h.askers_eq hattended with ⟨haskers, hnext⟩ | ⟨haskers, hnext⟩
    · exact (hattended.lt_next w (haskers ▸ hw)).trans_le hnext
    · rw [haskers] at hw
      rcases List.mem_append.mp hw with hw | hw
      · have hlt := hattended.lt_next w hw
        omega
      · have heq := List.mem_singleton.mp hw
        omega

/-- Who has asked has asked. -/
lemma mem_askers (h : Move l l') (hattended : Attended l) {w : ℕ} (hw : w ∈ l.askers) :
    w ∈ l'.askers := by
  rcases h.askers_eq hattended with ⟨haskers, -⟩ | ⟨haskers, -⟩
  · exact haskers ▸ hw
  · exact haskers ▸ List.mem_append_left _ hw

end Move

/-- The number that comes next is that of the one who asks. -/
lemma next_mem_askers_drain (l : Limiter α) : l.next ∈ l.drain.askers := by
  by_cases hidle : l.IsIdle
  · rw [drain_of_isIdle hidle, askers, told, List.filterMap_append]
    simp [LimiterEvent.drainedWaiter?]
  · rw [drain_of_not_isIdle hidle, askers]
    simp

theorem History.attended {most : ℕ} {calls : List Call} {ends : List (ℕ × Except Thrown α)}
    (h : History most calls ends l) : Attended l := by
  induction h with
  | create h =>
    unfold Limiter.create at h
    split at h
    · cases h
    · cases h
      exact attended_create most
  | run _ ih => exact Move.run.attended ih
  | map _ count ih => exact (Move.map count).attended ih
  | drain _ ih => exact Move.drain.attended ih
  | finish _ hrunning outcome ih => exact (Move.finish hrunning outcome).attended ih
  | release _ hreleasing ih => exact (Move.release hreleasing).attended ih

/-! ## The first idle moment -/

section Moments

variable {moment : ℕ → Limiter α} {n : ℕ}

lemma exists_history_moment {most : ℕ} {calls : List Call} {ends : List (ℕ × Except Thrown α)}
    (hfirst : History most calls ends (moment 0))
    (hmoves : ∀ i < n, Move (moment i) (moment (i + 1))) {i : ℕ} (hi : i ≤ n) :
    ∃ calls' ends', History most calls' ends' (moment i) := by
  induction i with
  | zero => exact ⟨_, _, hfirst⟩
  | succ i ih =>
    obtain ⟨_, _, hhistory⟩ := ih (by omega)
    exact hhistory.move (hmoves i hi)

lemma mem_told_moment (hmoves : ∀ i < n, Move (moment i) (moment (i + 1))) {i j w : ℕ}
    (hij : i ≤ j) (hj : j ≤ n) (hw : w ∈ (moment i).told) : w ∈ (moment j).told := by
  induction j, hij using Nat.le_induction with
  | base => exact hw
  | succ j _ ih => exact (hmoves j hj).told_prefix_told.subset (ih (by omega))

lemma mem_askers_moment (hattended : ∀ i ≤ n, Attended (moment i))
    (hmoves : ∀ i < n, Move (moment i) (moment (i + 1))) {i w : ℕ} (hi : i ≤ n)
    (hw : w ∈ (moment 0).askers) : w ∈ (moment i).askers := by
  induction i with
  | zero => exact hw
  | succ i ih => exact (hmoves i hi).mem_askers (hattended i (by omega)) (ih (by omega))

/-- One who asks is told at the first moment at which the limiter is idle. -/
lemma mem_told_moment_iff (hattended : ∀ i ≤ n, Attended (moment i))
    (hmoves : ∀ i < n, Move (moment i) (moment (i + 1))) {w : ℕ} (hw : w ∈ (moment 0).askers)
    (hbusy : ¬(moment 0).IsIdle → w ∉ (moment 0).told) {i : ℕ} (hi : i ≤ n) :
    w ∈ (moment i).told ↔ ∃ j ≤ i, (moment j).IsIdle := by
  constructor
  · intro htold
    induction i with
    | zero => exact ⟨0, le_rfl, by_contra fun hnot => hbusy hnot htold⟩
    | succ i ih =>
      by_cases hidle : (moment (i + 1)).IsIdle
      · exact ⟨i + 1, le_rfl, hidle⟩
      · -- The move led to a busy moment, so whoever is told by now was told before.
        rw [(hmoves i hi).told_eq_of_not_isIdle hidle] at htold
        obtain ⟨j, hj, hidle⟩ := ih (by omega) htold
        exact ⟨j, by omega, hidle⟩
  · rintro ⟨j, hj, hidle⟩
    -- Nobody waits at an idle moment, so whoever has asked has been told by then.
    have hasked := mem_askers_moment hattended hmoves (hj.trans hi) hw
    rw [askers, (hattended j (hj.trans hi)).waiters_eq_nil hidle, List.append_nil] at hasked
    exact mem_told_moment hmoves hj hi hasked

end Moments

/-- Somebody who asks, after any history, to be told when the limiter is drained is told once, and
has been told by a moment exactly if the limiter was idle at that moment or at one before, from the
asking on. It is idle when nothing that was handed in is left to be done. -/
theorem told_iff_idle {most : ℕ} (hmost : 1 ≤ most) {calls : List Call}
    {ends : List (ℕ × Except Thrown α)} (h : History most calls ends l) {moment : ℕ → Limiter α}
    (hasked : moment 0 = l.drain) {n : ℕ} (hmoves : ∀ i < n, Move (moment i) (moment (i + 1))) :
    ∀ i ≤ n, (l.next ∈ (moment i).told ↔ ∃ j ≤ i, (moment j).IsIdle)
      ∧ (moment i).told.Nodup ∧ ((moment i).IsIdle ↔ (moment i).remaining = 0) := by
  have hhistory : ∀ i ≤ n, ∃ calls' ends', History most calls' ends' (moment i) :=
    fun i hi => exists_history_moment (hasked ▸ h.drain) hmoves hi
  have hattended : ∀ i ≤ n, Attended (moment i) := by
    intro i hi
    obtain ⟨_, _, hi⟩ := hhistory i hi
    exact hi.attended
  have hmem : l.next ∈ (moment 0).askers := hasked ▸ next_mem_askers_drain l
  have hbusy : ¬(moment 0).IsIdle → l.next ∉ (moment 0).told := by
    rw [hasked]
    intro hbusy htold
    rw [Move.drain.told_eq_of_not_isIdle hbusy] at htold
    -- The number is not one of those that were there before.
    exact Nat.lt_irrefl _ (h.attended.lt_next _ (List.mem_append_left _ htold))
  intro i hi
  obtain ⟨_, _, hi'⟩ := hhistory i hi
  exact ⟨mem_told_moment_iff hattended hmoves hmem hbusy hi, (hattended i hi).nodup_told,
    hi'.isIdle_iff hmost⟩

/-- Two tasks in one slot. -/
def crowded : Limiter ℕ := ({ most := 1 } : Limiter ℕ).run.run

lemma history_crowded : History 1 [.run 0, .run 1] [] crowded :=
  (History.create (create_natCast (by decide))).run.run

/-- The first task fails, somebody else asks when its slot is released, and the second task ends. -/
def crowdedMove : ℕ → Limiter ℕ → Limiter ℕ
  | 0, l => l.settle 0 (.error (.value .null))
  | 1, l => l.release 0
  | 2, l => l.drain
  | 3, l => l.settle 1 (.ok 10)
  | _, l => l.release 1

/-- The moments from the first asking on. -/
def crowdedMoment : ℕ → Limiter ℕ
  | 0 => crowded.drain
  | i + 1 => crowdedMove i (crowdedMoment i)

lemma move_crowdedMoment : ∀ i < 5, Move (crowdedMoment i) (crowdedMoment (i + 1)) := by
  have hfails : Move (crowdedMoment 0) (crowdedMove 0 (crowdedMoment 0)) :=
    .finish (by decide +kernel) _
  have hstarts : Move (crowdedMoment 1) (crowdedMove 1 (crowdedMoment 1)) :=
    .release (by decide +kernel)
  have hasks : Move (crowdedMoment 2) (crowdedMove 2 (crowdedMoment 2)) := .drain
  have hends : Move (crowdedMoment 3) (crowdedMove 3 (crowdedMoment 3)) :=
    .finish (by decide +kernel) _
  have hrests : Move (crowdedMoment 4) (crowdedMove 4 (crowdedMoment 4)) :=
    .release (by decide +kernel)
  intro i hi
  interval_cases i
  · exact hfails
  · exact hstarts
  · exact hasks
  · exact hends
  · exact hrests

/-- Both are told when the slot of the second task is released, and the first one is not told when
that of the failed task is. -/
theorem told_iff_idle_crowded :
    1 ≤ 1 ∧ History 1 [.run 0, .run 1] [] crowded ∧ crowdedMoment 0 = crowded.drain
      ∧ (∀ i < 5, Move (crowdedMoment i) (crowdedMoment (i + 1)))
      ∧ 2 ∉ (crowdedMoment 4).told ∧ 2 ∈ (crowdedMoment 5).told
      ∧ (crowdedMoment 5).told = [2, 3] := by
  have htold := told_iff_idle (by decide) history_crowded rfl move_crowdedMoment
  refine ⟨by decide, history_crowded, rfl, move_crowdedMoment, ?_, ?_, by decide +kernel⟩
  · exact mt (htold 4 (by decide)).1.mp (by decide +kernel)
  · exact (htold 5 (by decide)).1.mpr ⟨5, le_rfl, by decide +kernel⟩

end Limiter

end CallAtlas
