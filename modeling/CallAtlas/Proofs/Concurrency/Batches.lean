import CallAtlas.Proofs.Concurrency.Slots
import CallAtlas.Proofs.Keys
import Mathlib.Data.List.Forall2

/-!
# The batches of a limiter

What a batch amounts to depends on what became of its tasks and not on when: the results stand in
the order of the tasks. Only which failure is told depends on the order of the ends. As more tasks
end, what a batch amounts to does not change (`IsOutcome.append`), so that it can be told once and
the batch be forgotten. `Collecting` says so of the batches that were handed in.
-/

namespace CallAtlas

variable {α : Type}

/-- What the event tells about a batch. -/
def LimiterEvent.collectedOf? (batch : ℕ) : LimiterEvent α → Option (Except Thrown (List α))
  | collected b outcome => if b = batch then some outcome else none
  | _ => none

namespace Limiter

/-- What was told about a batch. -/
def collected (l : Limiter α) (batch : ℕ) : List (Except Thrown (List α)) :=
  l.history.filterMap (LimiterEvent.collectedOf? batch)

/-! ## What a batch amounts to -/

/-- What tasks amount to when some have ended: a result for each of them, in the order of the tasks,
or what the first of them to fail has thrown. -/
def IsOutcome (ends : List (ℕ × Except Thrown α)) (tasks : List ℕ) :
    Except Thrown (List α) → Prop
  | .ok values => List.Forall₂ (fun task value => (task, .ok value) ∈ ends) tasks values
  | .error thrown =>
    ∃ task ∈ tasks, ∃ before after, ends = before ++ (task, .error thrown) :: after ∧
      ∀ r ∈ before, r.1 ∈ tasks → r.2.isOk

/-- Ends that come later change nothing. -/
lemma IsOutcome.append {ends : List (ℕ × Except Thrown α)} {tasks : List ℕ}
    {outcome : Except Thrown (List α)} (h : IsOutcome ends tasks outcome)
    (more : List (ℕ × Except Thrown α)) : IsOutcome (ends ++ more) tasks outcome := by
  cases outcome with
  | ok values =>
    exact List.Forall₂.imp (fun _ _ hmem => List.mem_append_left more hmem) h
  | error thrown =>
    obtain ⟨task, htask, before, after, rfl, hbefore⟩ := h
    exact ⟨task, htask, before, after ++ more, by rw [List.append_assoc]; rfl, hbefore⟩

lemma resultsOf_eq_some_iff {results : List (ℕ × Except Thrown α)}
    (hnodup : (results.map Prod.fst).Nodup) {tasks : List ℕ} {values : List α} :
    resultsOf results tasks = some values ↔
      List.Forall₂ (fun task value => (task, .ok value) ∈ results) tasks values := by
  induction tasks generalizing values with
  | nil => simp [resultsOf, eq_comm]
  | cons task tasks ih =>
    rw [resultsOf, List.forall₂_cons_left_iff]
    constructor
    · intro h
      split at h
      · next value hvalue =>
        obtain ⟨rest, hrest, rfl⟩ := Option.map_eq_some_iff.mp h
        exact ⟨value, rest, mem_of_lookup_eq_some hvalue, ih.mp hrest, rfl⟩
      · cases h
    · rintro ⟨value, rest, hvalue, hrest, rfl⟩
      rw [(lookup_eq_some_iff_mem hnodup).mpr hvalue, ih.mpr hrest]
      rfl

/-- The failure that is looked for is that of the first task to fail. -/
lemma isOutcome_error_iff {results : List (ℕ × Except Thrown α)} {tasks : List ℕ}
    {thrown : Thrown} :
    IsOutcome results tasks (.error thrown) ↔
      ∃ task, (results.find? fun r => tasks.contains r.1 && !r.2.isOk) =
        some (task, .error thrown) := by
  constructor
  · rintro ⟨task, htask, before, after, hresults, hbefore⟩
    refine ⟨task, List.find?_eq_some_iff_append.mpr ⟨?_, before, after, hresults, ?_⟩⟩
    · simpa [Except.isOk, Except.toBool] using htask
    · intro r hr
      cases hmem : tasks.contains r.1 with
      | false => rfl
      | true => simp [hbefore r hr (by simpa using hmem)]
  · rintro ⟨task, hfind⟩
    obtain ⟨hfailed, before, after, hresults, hbefore⟩ := List.find?_eq_some_iff_append.mp hfind
    refine ⟨task, by simpa [Except.isOk, Except.toBool] using hfailed, before, after, hresults, ?_⟩
    intro r hr hmem
    simpa [hmem] using hbefore r hr

/-- Where each task has a result none has failed. -/
lemma find?_eq_none_of_isOutcome {results : List (ℕ × Except Thrown α)}
    (hnodup : (results.map Prod.fst).Nodup) {tasks : List ℕ} {values : List α}
    (h : IsOutcome results tasks (.ok values)) :
    (results.find? fun r => tasks.contains r.1 && !r.2.isOk) = none := by
  refine List.find?_eq_none.mpr fun r hr hfailed => ?_
  obtain ⟨hmem, hnot⟩ := Bool.and_eq_true_iff.mp hfailed
  obtain ⟨i, hi, htask⟩ := List.getElem_of_mem (List.contains_iff_mem.mp hmem)
  have hi' : i < values.length := h.length_eq ▸ hi
  have hresult : (tasks[i], .ok values[i]) ∈ results := h.get hi hi'
  rw [htask] at hresult
  rw [eq_of_mem_of_nodup hnodup hr hresult] at hnot
  cases hnot

/-- What is found out about tasks is what they amount to. -/
theorem collect?_eq_some_iff {l : Limiter α} (hnodup : (l.results.map Prod.fst).Nodup)
    {tasks : List ℕ} {outcome : Except Thrown (List α)} :
    l.collect? tasks = some outcome ↔ IsOutcome l.results tasks outcome := by
  rw [collect?]
  cases outcome with
  | error thrown =>
    rw [isOutcome_error_iff]
    split
    · next task failure hfind => rw [hfind]; simp
    · next hnone =>
      constructor
      · simp
      · rintro ⟨task, hfind⟩
        exact (hnone task thrown hfind).elim
  | ok values =>
    split
    · next task failure hfind =>
      constructor
      · simp
      · intro h
        rw [find?_eq_none_of_isOutcome hnodup h] at hfind
        cases hfind
    · rw [Option.map_eq_some_iff]
      simpa [IsOutcome] using resultsOf_eq_some_iff hnodup

/-! ## Telling what batches amount to -/

/-- Nothing that concerns batches has changed. -/
structure KeepsBatches (l l' : Limiter α) : Prop where
  results_eq : l'.results = l.results
  batches_eq : l'.batches = l.batches
  next_le : l.next ≤ l'.next
  collected_eq : ∀ n, l'.collected n = l.collected n

namespace KeepsBatches

variable {l l' l'' : Limiter α}

lemma refl (l : Limiter α) : KeepsBatches l l where
  results_eq := rfl
  batches_eq := rfl
  next_le := Nat.le_refl _
  collected_eq _ := rfl

lemma trans (h : KeepsBatches l l') (h' : KeepsBatches l' l'') : KeepsBatches l l'' where
  results_eq := h'.results_eq.trans h.results_eq
  batches_eq := h'.batches_eq.trans h.batches_eq
  next_le := h.next_le.trans h'.next_le
  collected_eq n := (h'.collected_eq n).trans (h.collected_eq n)

end KeepsBatches

/-- Other events tell nothing about a batch. -/
lemma filterMap_collectedOf?_append {events more : List (LimiterEvent α)} {n : ℕ}
    (hmore : ∀ e ∈ more, e.collectedOf? n = none) :
    (events ++ more).filterMap (LimiterEvent.collectedOf? n) =
      events.filterMap (LimiterEvent.collectedOf? n) := by
  rw [List.filterMap_append, List.filterMap_eq_nil_iff.mpr hmore, List.append_nil]

lemma keepsBatches_start (l : Limiter α) (task : ℕ) : KeepsBatches l (l.start task) where
  results_eq := rfl
  batches_eq := rfl
  next_le := Nat.le_refl _
  collected_eq n := filterMap_collectedOf?_append (by simp [LimiterEvent.collectedOf?])

lemma keepsBatches_run (l : Limiter α) : KeepsBatches l l.run := by
  have hskip : KeepsBatches l { l with next := l.next + 1 } :=
    { KeepsBatches.refl l with next_le := Nat.le_succ _ }
  rw [run_eq]
  split
  · exact hskip.trans (keepsBatches_start _ _)
  · exact { hskip with }

lemma keepsBatches_runMany (l : Limiter α) (count : ℕ) : KeepsBatches l (runMany count l) := by
  induction count generalizing l with
  | zero => exact .refl l
  | succ count ih => exact (keepsBatches_run l).trans (ih l.run)

lemma keepsBatches_release (l : Limiter α) (task : ℕ) : KeepsBatches l (l.release task) := by
  rw [release]
  split
  · rw [advance]
    split
    · next first rest hqueue =>
      exact { keepsBatches_start _ first with }
    · split
      · exact
          { KeepsBatches.refl l with
            collected_eq := fun n =>
              filterMap_collectedOf?_append (by simp [LimiterEvent.collectedOf?]) }
      · exact { KeepsBatches.refl l with }
  · exact .refl l

lemma keepsBatches_drain (l : Limiter α) : KeepsBatches l l.drain := by
  rw [drain]
  dsimp only
  split
  · exact
      { results_eq := rfl
        batches_eq := rfl
        next_le := Nat.le_succ _
        collected_eq := fun n =>
          filterMap_collectedOf?_append (by simp [LimiterEvent.collectedOf?]) }
  · exact { KeepsBatches.refl l with next_le := Nat.le_succ _ }

/-- What is true of the batches that were handed in: those that are kept were not told about, and
the others were told about once. -/
structure Collectable (handed : List (ℕ × List ℕ)) (l : Limiter α) : Prop where
  nodup : (handed.map Prod.fst).Nodup
  lt_next : ∀ b ∈ handed, b.1 < l.next
  sublist : l.batches.Sublist handed
  collected_eq_nil : ∀ b ∈ l.batches, l.collected b.1 = []
  collected_eq_singleton : ∀ b ∈ handed, b ∉ l.batches →
    ∃ outcome, l.collect? b.2 = some outcome ∧ l.collected b.1 = [outcome]
  collected_of_le : ∀ n, l.next ≤ n → l.collected n = []

/-- What is true of them between any two moves: of those that are kept nothing is known. -/
structure Collecting (handed : List (ℕ × List ℕ)) (l : Limiter α) : Prop
    extends Collectable handed l where
  undecided : ∀ b ∈ l.batches, l.collect? b.2 = none

variable {handed : List (ℕ × List ℕ)} {l l' : Limiter α}

lemma collect?_congr (h : l'.results = l.results) (tasks : List ℕ) :
    l'.collect? tasks = l.collect? tasks := by
  rw [collect?, collect?, h]

lemma collecting_create (most : Number) : Collecting [] ({ most } : Limiter α) where
  nodup := .nil
  lt_next _ h := (List.not_mem_nil h).elim
  sublist := .slnil
  collected_eq_nil _ h := (List.not_mem_nil h).elim
  collected_eq_singleton _ h := (List.not_mem_nil h).elim
  collected_of_le _ _ := rfl
  undecided _ h := (List.not_mem_nil h).elim

/-- The events of batches that are collected, read back. -/
lemma collected_collectBatches (l : Limiter α) (n : ℕ) :
    l.collectBatches.collected n = l.collected n ++
      l.batches.filterMap fun b => if b.1 = n then l.collect? b.2 else none := by
  rw [collected, collectBatches, List.filterMap_append, List.filterMap_filterMap, ← collected]
  congr 1
  apply List.filterMap_congr
  intro b _
  cases l.collect? b.2 <;> simp [LimiterEvent.collectedOf?]

/-- Of batches with different numbers only one has a given number. -/
lemma filterMap_of_nodup {β : Type} {f : List ℕ → Option β} {bs : List (ℕ × List ℕ)}
    (hnodup : (bs.map Prod.fst).Nodup) {b : ℕ × List ℕ} (hb : b ∈ bs) :
    (bs.filterMap fun c => if c.1 = b.1 then f c.2 else none) = (f b.2).toList := by
  induction bs with
  | nil => cases hb
  | cons c bs ih =>
    obtain ⟨hc, hnodup⟩ := List.nodup_cons.mp hnodup
    rcases List.mem_cons.mp hb with rfl | hb
    · have hrest : (bs.filterMap fun c => if c.1 = b.1 then f c.2 else none) = [] := by
        refine List.filterMap_eq_nil_iff.mpr fun d hd => if_neg fun heq => hc ?_
        exact List.mem_map.mpr ⟨d, hd, heq⟩
      cases hf : f b.2 <;> simp [hf, hrest]
    · have hne : c.1 ≠ b.1 := fun heq => hc (heq ▸ List.mem_map_of_mem hb)
      rw [List.filterMap_cons, if_neg hne]
      exact ih hnodup hb

/-- The batches of which nothing is known are kept. -/
lemma mem_batches_collectBatches {b : ℕ × List ℕ} :
    b ∈ l.collectBatches.batches ↔ b ∈ l.batches ∧ l.collect? b.2 = none := by
  rw [collectBatches]
  simp

/-- What is known of a batch that was kept is told now. -/
lemma Collectable.collected_of_mem (h : Collectable handed l) {b : ℕ × List ℕ}
    (hb : b ∈ l.batches) : l.collectBatches.collected b.1 = (l.collect? b.2).toList := by
  have hnodup : (l.batches.map Prod.fst).Nodup := h.nodup.sublist (h.sublist.map Prod.fst)
  rw [collected_collectBatches, h.collected_eq_nil b hb, List.nil_append,
    filterMap_of_nodup hnodup hb]

/-- Of all other batches nothing more is told. -/
lemma collected_of_notMem {n : ℕ} (hn : n ∉ l.batches.map Prod.fst) :
    l.collectBatches.collected n = l.collected n := by
  have hnone : (l.batches.filterMap fun b => if b.1 = n then l.collect? b.2 else none) = [] :=
    List.filterMap_eq_nil_iff.mpr fun b hb =>
      if_neg fun heq => hn (List.mem_map.mpr ⟨b, hb, heq⟩)
  rw [collected_collectBatches, hnone, List.append_nil]

/-- A batch that was handed in is kept under its number alone. -/
lemma Collectable.notMem_map_fst (h : Collectable handed l) {b : ℕ × List ℕ} (hb : b ∈ handed)
    (hgone : b ∉ l.batches) : b.1 ∉ l.batches.map Prod.fst := by
  intro hn
  obtain ⟨c, hc, heq⟩ := List.mem_map.mp hn
  exact hgone (List.inj_on_of_nodup_map h.nodup (h.sublist.subset hc) hb heq ▸ hc)

/-- A batch of which something is known is told about once and forgotten. -/
theorem Collectable.collect (h : Collectable handed l) : Collecting handed l.collectBatches where
  nodup := h.nodup
  lt_next := h.lt_next
  sublist := List.filter_sublist.trans h.sublist
  collected_eq_nil b hb := by
    obtain ⟨hb, hnone⟩ := mem_batches_collectBatches.mp hb
    rw [h.collected_of_mem hb, hnone]
    rfl
  collected_eq_singleton b hb hgone := by
    by_cases hmem : b ∈ l.batches
    · obtain ⟨outcome, hsome⟩ := Option.ne_none_iff_exists'.mp fun hnone =>
        hgone (mem_batches_collectBatches.mpr ⟨hmem, hnone⟩)
      refine ⟨outcome, hsome, ?_⟩
      rw [h.collected_of_mem hmem, hsome]
      rfl
    · obtain ⟨outcome, hsome, hcollected⟩ := h.collected_eq_singleton b hb hmem
      refine ⟨outcome, hsome, ?_⟩
      rw [collected_of_notMem (h.notMem_map_fst hb hmem), hcollected]
  collected_of_le n hn := by
    have hlater : n ∉ l.batches.map Prod.fst := by
      intro hmem
      obtain ⟨b, hb, rfl⟩ := List.mem_map.mp hmem
      exact Nat.not_lt.mpr hn (h.lt_next b (h.sublist.subset hb))
    rw [collected_of_notMem hlater, h.collected_of_le n hn]
  undecided b hb := (mem_batches_collectBatches.mp hb).2

/-- A new batch is kept until it is looked at. -/
lemma Collectable.handIn (h : Collectable handed l) {batch : ℕ} (hlt : batch < l.next)
    (hnew : ∀ b ∈ handed, b.1 ≠ batch) (hnone : l.collected batch = []) (tasks : List ℕ) :
    Collectable (handed ++ [(batch, tasks)])
      { l with batches := l.batches ++ [(batch, tasks)] } where
  nodup := by
    rw [List.map_append]
    refine h.nodup.append (List.nodup_singleton batch) ?_
    rintro n hn hbatch
    obtain ⟨b, hb, rfl⟩ := List.mem_map.mp hn
    exact hnew b hb (List.mem_singleton.mp hbatch)
  lt_next b hb := by
    rcases List.mem_append.mp hb with hb | hb
    · exact h.lt_next b hb
    · rw [List.mem_singleton.mp hb]
      exact hlt
  sublist := h.sublist.append_right [(batch, tasks)]
  collected_eq_nil b hb := by
    rcases List.mem_append.mp hb with hb | hb
    · exact h.collected_eq_nil b hb
    · rw [List.mem_singleton.mp hb]
      exact hnone
  collected_eq_singleton b hb hgone := by
    obtain ⟨hgone, hne⟩ := not_or.mp (mt List.mem_append.mpr hgone)
    rcases List.mem_append.mp hb with hb | hb
    · exact h.collected_eq_singleton b hb hgone
    · exact (hne hb).elim
  collected_of_le := h.collected_of_le

/-- One more task that has ended leaves what is known of the batches as it is. -/
lemma Collectable.finish (h : Collectable handed l) {task : ℕ} {outcome : Except Thrown α}
    (hnodup : ((l.results ++ [(task, outcome)]).map Prod.fst).Nodup) (running releasing : List ℕ) :
    Collectable handed
      { l with
        running := running
        releasing := releasing
        results := l.results ++ [(task, outcome)]
        history := l.history ++ [.settled task outcome] } := by
  have hcollected : ∀ n, (l.history ++ [LimiterEvent.settled task outcome]).filterMap
      (LimiterEvent.collectedOf? n) = l.collected n := fun n =>
    filterMap_collectedOf?_append (by simp [LimiterEvent.collectedOf?])
  have hbefore : (l.results.map Prod.fst).Nodup := by
    rw [List.map_append] at hnodup
    exact hnodup.of_append_left
  exact
    { h with
      collected_eq_nil := fun b hb => (hcollected b.1).trans (h.collected_eq_nil b hb)
      collected_eq_singleton := fun b hb hgone => by
        obtain ⟨known, hsome, heq⟩ := h.collected_eq_singleton b hb hgone
        refine ⟨known, (collect?_eq_some_iff hnodup).mpr ?_, (hcollected b.1).trans heq⟩
        exact ((collect?_eq_some_iff hbefore).mp hsome).append _
      collected_of_le := fun n hn => (hcollected n).trans (h.collected_of_le n hn) }

namespace Collecting

lemma keep (h : Collecting handed l) (hkeep : KeepsBatches l l') : Collecting handed l' where
  nodup := h.nodup
  lt_next b hb := (h.lt_next b hb).trans_le hkeep.next_le
  sublist := hkeep.batches_eq ▸ h.sublist
  collected_eq_nil b hb := by
    rw [hkeep.collected_eq]
    exact h.collected_eq_nil b (hkeep.batches_eq ▸ hb)
  collected_eq_singleton b hb hgone := by
    rw [hkeep.collected_eq, collect?_congr hkeep.results_eq]
    exact h.collected_eq_singleton b hb (hkeep.batches_eq ▸ hgone)
  collected_of_le n hn := by
    rw [hkeep.collected_eq]
    exact h.collected_of_le n (hkeep.next_le.trans hn)
  undecided b hb := by
    rw [collect?_congr hkeep.results_eq]
    exact h.undecided b (hkeep.batches_eq ▸ hb)

/-- What was told about a batch is what is known about it. -/
theorem collected_eq (h : Collecting handed l) {b : ℕ × List ℕ} (hb : b ∈ handed) :
    l.collected b.1 = (l.collect? b.2).toList := by
  by_cases hmem : b ∈ l.batches
  · rw [h.collected_eq_nil b hmem, h.undecided b hmem]
    rfl
  · obtain ⟨outcome, hsome, hcollected⟩ := h.collected_eq_singleton b hb hmem
    rw [hcollected, hsome]
    rfl

/-- The tasks of a batch follow it. -/
theorem map (h : Collecting handed l) (count : ℕ) :
    Collecting (handed ++ [(l.next, (List.range count).map fun i => l.next + 1 + i)])
      (l.map count) := by
  have hskip : KeepsBatches l { l with next := l.next + 1 } :=
    { KeepsBatches.refl l with next_le := Nat.le_succ _ }
  have hmany := keepsBatches_runMany { l with next := l.next + 1 } count
  have hkeep := hskip.trans hmany
  exact ((h.keep hkeep).toCollectable.handIn hmany.next_le
    (fun b hb => (h.lt_next b hb).ne)
    ((hkeep.collected_eq _).trans (h.collected_of_le _ (Nat.le_refl _))) _).collect

end Collecting

end Limiter

end CallAtlas
