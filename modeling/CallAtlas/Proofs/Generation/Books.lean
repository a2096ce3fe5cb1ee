import CallAtlas.Proofs.Generation.Moves
import Mathlib.Data.List.Nodup
import Mathlib.Data.List.Perm.Basic

/-!
# The books of a run

Which files a run has taken, which of them are finished and what it has written down of them. The
runner comes in through `Runner.Serves`: what it says of a file depends on the file alone. Then all
that a run has recorded is a function of the files that are finished, in the order in which they
were finished; no order of moves makes a difference beyond this.
-/

namespace CallAtlas

/-- A runner that has a definite outcome for every file, as long as it is given files of different
paths and no more than `workers` of them at once. `Inv taken inFlight` is what it keeps true of its
state. -/
structure Runner.Serves {ρ : Type} (R : Runner ρ) (workers : Nat)
    (outcome : QueuedFile → Except Thrown FileOutcome)
    (Inv : List QueuedFile → List QueuedFile → ρ → Prop) : Prop where
  start : ∀ {taken inFlight : List QueuedFile} {x : ρ} {f : QueuedFile}, Inv taken inFlight x →
    f.path ∉ taken.map QueuedFile.path → inFlight.length < workers →
    Inv (taken ++ [f]) (inFlight ++ [f]) (R.start x f)
  finish : ∀ {taken inFlight : List QueuedFile} {x : ρ} {i : Nat} {f : QueuedFile},
    Inv taken inFlight x → inFlight[i]? = some f →
    (R.finish x f).1 = outcome f ∧ Inv taken (inFlight.eraseIdx i) (R.finish x f).2.1

namespace Run

variable {ρ : Type} {R : Runner ρ} {workers : Nat}
  {outcome : QueuedFile → Except Thrown FileOutcome}
  {Inv : List QueuedFile → List QueuedFile → ρ → Prop} {queue : List QueuedFile}
  {repeated : List FileFailure}

/-- The reports on files that were finished one after the other. -/
def reports (total : Nat) (done : List QueuedFile) : List Progress :=
  (done.zipIdx 1).map fun p => ⟨p.2, total, p.1.path⟩

lemma reports_append_singleton (total : Nat) (done : List QueuedFile) (f : QueuedFile) :
    reports total (done ++ [f]) = reports total done ++ [⟨done.length + 1, total, f.path⟩] := by
  rw [reports, reports, List.zipIdx_append, List.map_append, Nat.add_comm]
  rfl

lemma length_reports (total : Nat) (done : List QueuedFile) :
    (reports total done).length = done.length := by
  rw [reports, List.length_map, List.length_zipIdx]

/-- The reports count from one on. -/
lemma map_current_reports (total : Nat) (done : List QueuedFile) :
    (reports total done).map Progress.current = List.range' 1 done.length := by
  rw [reports, List.map_map]
  exact List.zipIdx_map_snd 1 done

lemma map_path_reports (total : Nat) (done : List QueuedFile) :
    (reports total done).map Progress.path = done.map QueuedFile.path := by
  rw [reports, List.map_map]
  conv_rhs => rw [← List.zipIdx_map_fst 1 done, List.map_map]
  rfl

/-- What is true of a run over a queue that has taken some files and finished some of these. -/
structure Books (outcome : QueuedFile → Except Thrown FileOutcome) (queue : List QueuedFile)
    (workers : Nat) (repeated : List FileFailure) (taken done : List QueuedFile) (r : Run ρ) :
    Prop where
  queue_eq : taken ++ r.waiting = queue
  taken_perm : (done ++ r.inFlight).Perm taken
  total : r.total = queue.length
  indexed : r.indexed = done.filterMap fun f => indexedIn (outcome f)
  failures : r.failures = repeated ++ done.filterMap fun f => failureIn f (outcome f)
  fault : r.fault = (done.filterMap fun f => faultIn (outcome f)).getLast?
  progress : r.progress
    = reports queue.length (done.filter fun f => (faultIn (outcome f)).isNone)
  ready_le : r.ready + r.inFlight.length ≤ workers
  /-- Workers do not stop while there is work for them. -/
  le_ready : r.stopped = false → r.waiting ≠ [] → workers ≤ r.ready + r.inFlight.length

/-- The books before the first move. -/
lemma books_begin (outcome : QueuedFile → Except Thrown FileOutcome) (runner : ρ)
    (queue : List QueuedFile) (workers : Nat) (repeated : List FileFailure) :
    Books outcome queue workers repeated [] [] (begin runner queue workers repeated) where
  queue_eq := rfl
  taken_perm := .refl _
  total := rfl
  indexed := rfl
  failures := (List.append_nil _).symm
  fault := rfl
  progress := rfl
  ready_le := Nat.le_refl _
  le_ready _ _ := Nat.le_refl _

/-- The books after a worker has taken a file. -/
lemma Books.taken_of_cons {taken done : List QueuedFile} {r : Run ρ} {f : QueuedFile}
    {rest : List QueuedFile} (hb : Books outcome queue workers repeated taken done r)
    (hready : 0 < r.ready) (hwaiting : r.waiting = f :: rest) (runner : ρ) :
    Books outcome queue workers repeated (taken ++ [f]) done
      { r with
        ready := r.ready - 1
        waiting := rest
        inFlight := r.inFlight ++ [f]
        runner } where
  queue_eq := by
    rw [List.append_assoc, List.singleton_append, ← hwaiting]
    exact hb.queue_eq
  taken_perm := by
    rw [← List.append_assoc]
    exact hb.taken_perm.append_right [f]
  total := hb.total
  indexed := hb.indexed
  failures := hb.failures
  fault := hb.fault
  progress := hb.progress
  ready_le := by
    have hle := hb.ready_le
    simp only [List.length_append, List.length_singleton]
    omega
  le_ready hs _ := by
    have hle := hb.le_ready hs (by rw [hwaiting]; exact List.cons_ne_nil f rest)
    simp only [List.length_append, List.length_singleton]
    omega

/-- The books after a worker has stopped because there was nothing for it. -/
lemma Books.stops {taken done : List QueuedFile} {r : Run ρ}
    (hb : Books outcome queue workers repeated taken done r)
    (hnone : r.stopped = true ∨ r.waiting = []) :
    Books outcome queue workers repeated taken done { r with ready := r.ready - 1 } where
  queue_eq := hb.queue_eq
  taken_perm := hb.taken_perm
  total := hb.total
  indexed := hb.indexed
  failures := hb.failures
  fault := hb.fault
  progress := hb.progress
  ready_le := by
    have hle := hb.ready_le
    simp only
    omega
  le_ready hs hw := by
    rcases hnone with hstopped | hempty
    · rw [show r.stopped = false from hs] at hstopped
      cases hstopped
    · exact absurd hempty hw

/-- A list with an element taken out of its second part. -/
private lemma perm_append_eraseIdx (done : List QueuedFile) {inFlight : List QueuedFile} {i : Nat}
    {f : QueuedFile} (h : inFlight[i]? = some f) :
    (done ++ [f] ++ inFlight.eraseIdx i).Perm (done ++ inFlight) := by
  rw [List.append_assoc, List.singleton_append]
  obtain ⟨hi, rfl⟩ := List.getElem?_eq_some_iff.mp h
  exact (List.getElem_cons_eraseIdx_perm hi).append_left done

/-- A file more adds what is found of it. -/
private lemma filterMap_append_singleton {β : Type} (found : QueuedFile → Option β)
    (done : List QueuedFile) (f : QueuedFile) :
    (done ++ [f]).filterMap found = done.filterMap found ++ (found f).toList := by
  rw [List.filterMap_append]
  cases h : found f with
  | none =>
    rw [List.filterMap_cons_none h]
    rfl
  | some e =>
    rw [List.filterMap_cons_some h]
    rfl

section

variable {taken done : List QueuedFile} {r : Run ρ} {i : Nat} {f : QueuedFile}

/-- The books after a file has raised a fault: it leaves no entry and no failure, is not reported,
and its worker stops. -/
lemma Books.faulted (hb : Books outcome queue workers repeated taken done r)
    (hf : r.inFlight[i]? = some f) {thrown : Thrown} (ho : faultIn (outcome f) = some thrown)
    (runner : ρ) (log : List LogEntry) :
    Books outcome queue workers repeated taken (done ++ [f])
      { r with runner, inFlight := r.inFlight.eraseIdx i, log, fault := some thrown } where
  queue_eq := hb.queue_eq
  taken_perm := (perm_append_eraseIdx done hf).trans hb.taken_perm
  total := hb.total
  indexed := by
    rw [filterMap_append_singleton, (indexedIn_failureIn_of_faultIn f ho).1, ← hb.indexed]
    exact (List.append_nil _).symm
  failures := by
    rw [filterMap_append_singleton, (indexedIn_failureIn_of_faultIn f ho).2, ← List.append_assoc,
      ← hb.failures]
    exact (List.append_nil _).symm
  fault := by
    rw [filterMap_append_singleton, ho]
    exact List.getLast?_concat.symm
  progress := by
    rw [List.filter_append, List.filter_singleton, ho]
    simpa using hb.progress
  ready_le := by
    have hle := hb.ready_le
    have hlen := List.length_eraseIdx_of_lt (List.getElem?_eq_some_iff.mp hf).1
    simp only
    omega
  le_ready hs := by cases hs

/-- The books after a file was finished without a fault: what it adds is written down, and its
worker is ready again. -/
lemma Books.advanced (hb : Books outcome queue workers repeated taken done r)
    (hf : r.inFlight[i]? = some f) (ho : faultIn (outcome f) = none) (runner : ρ)
    (log : List LogEntry) :
    Books outcome queue workers repeated taken (done ++ [f])
      (advance
        { r with
          runner
          inFlight := r.inFlight.eraseIdx i
          log
          indexed := r.indexed ++ (indexedIn (outcome f)).toList
          failures := r.failures ++ (failureIn f (outcome f)).toList } f.path) where
  queue_eq := hb.queue_eq
  taken_perm := (perm_append_eraseIdx done hf).trans hb.taken_perm
  total := hb.total
  indexed := by
    rw [advance, filterMap_append_singleton, ← hb.indexed]
  failures := by
    rw [advance, filterMap_append_singleton, ← List.append_assoc, ← hb.failures]
  fault := by
    rw [advance, filterMap_append_singleton, ho, Option.toList_none, List.append_nil]
    exact hb.fault
  progress := by
    -- The number in a report is the number of the reports before it, and one more.
    have hprogress := hb.progress
    have hcount := congrArg List.length hprogress
    rw [length_reports] at hcount
    rw [List.filter_append, List.filter_singleton, ho]
    simp only [advance, Option.isNone_none]
    rw [cond_true, reports_append_singleton, ← hprogress, hcount, hb.total]
  ready_le := by
    have hle := hb.ready_le
    have hi : i < r.inFlight.length := (List.getElem?_eq_some_iff.mp hf).1
    have hlen := List.length_eraseIdx_of_lt hi
    simp only [advance]
    omega
  le_ready hs hw := by
    have hge := hb.le_ready hs hw
    have hlen := List.length_eraseIdx_of_lt (List.getElem?_eq_some_iff.mp hf).1
    simp only [advance]
    omega

/-- The books after a file is finished. -/
lemma Books.finished (hb : Books outcome queue workers repeated taken done r)
    (hf : r.inFlight[i]? = some f) (runner : ρ) (log : List LogEntry) :
    Books outcome queue workers repeated taken (done ++ [f])
      (record { r with runner, inFlight := r.inFlight.eraseIdx i, log } f (outcome f)) := by
  rw [record_eq]
  cases ho : faultIn (outcome f) with
  | some thrown => exact hb.faulted hf ho runner log
  | none => exact hb.advanced hf ho runner log

end

/-- An abort changes nothing that was written down. -/
lemma Books.aborted {taken done : List QueuedFile} {r : Run ρ}
    (hb : Books outcome queue workers repeated taken done r) :
    Books outcome queue workers repeated taken done r.abort where
  queue_eq := hb.queue_eq
  taken_perm := hb.taken_perm
  total := hb.total
  indexed := hb.indexed
  failures := hb.failures
  fault := hb.fault
  progress := hb.progress
  ready_le := hb.ready_le
  le_ready hs := by
    simp only [stopped, abort, Bool.or_true] at hs
    cases hs

/-- The path of the file that waits first was not taken before. -/
lemma Books.path_notMem {taken done : List QueuedFile} {r : Run ρ} {f : QueuedFile}
    {rest : List QueuedFile} (hb : Books outcome queue workers repeated taken done r)
    (hnodup : (queue.map QueuedFile.path).Nodup) (hwaiting : r.waiting = f :: rest) :
    f.path ∉ taken.map QueuedFile.path := by
  rw [← hb.queue_eq, hwaiting, List.map_append] at hnodup
  intro hmem
  exact List.disjoint_of_nodup_append hnodup hmem (List.mem_map_of_mem List.mem_cons_self)

/-- A worker that takes a file, or stops, keeps the books. -/
lemma Books.take (hR : R.Serves workers outcome Inv)
    (hnodup : (queue.map QueuedFile.path).Nodup) {taken done : List QueuedFile} {r : Run ρ}
    (hb : Books outcome queue workers repeated taken done r) (hinv : Inv taken r.inFlight r.runner)
    (hready : 0 < r.ready) :
    ∃ taken', Books outcome queue workers repeated taken' done (r.take R)
      ∧ Inv taken' (r.take R).inFlight (r.take R).runner := by
  rcases take_cases R r with ⟨hnone, htake⟩ | ⟨f, rest, hstopped, hwaiting, htake⟩
  · rw [htake]
    exact ⟨taken, hb.stops hnone, hinv⟩
  · rw [htake]
    have hle := hb.ready_le
    refine ⟨taken ++ [f], hb.taken_of_cons hready hwaiting _, ?_⟩
    exact hR.start hinv (hb.path_notMem hnodup hwaiting) (by omega)

/-- A file that is finished keeps the books. -/
lemma Books.finishAt (hR : R.Serves workers outcome Inv) {taken done : List QueuedFile} {r : Run ρ}
    {i : Nat} {f : QueuedFile} (hb : Books outcome queue workers repeated taken done r)
    (hinv : Inv taken r.inFlight r.runner) (hf : r.inFlight[i]? = some f) :
    Books outcome queue workers repeated taken (done ++ [f]) (r.finishAt R i)
      ∧ Inv taken (r.finishAt R i).inFlight (r.finishAt R i).runner := by
  obtain ⟨hout, hinv'⟩ := hR.finish hinv hf
  rw [finishAt_eq R hf, hout]
  refine ⟨hb.finished hf _ _, ?_⟩
  rw [record_eq]
  cases faultIn (outcome f) with
  | some thrown => exact hinv'
  | none => exact hinv'

/-- Every run keeps the books. -/
theorem books_of_finishes (hR : R.Serves workers outcome Inv)
    (hnodup : (queue.map QueuedFile.path).Nodup) {runner : ρ} (hinv : Inv [] [] runner)
    {done : List QueuedFile} {r : Run ρ}
    (h : Finishes R (begin runner queue workers repeated) done r) :
    ∃ taken, Books outcome queue workers repeated taken done r
      ∧ Inv taken r.inFlight r.runner := by
  -- What the runner keeps goes along, as it tells what finishing a file gives.
  induction h with
  | refl => exact ⟨[], books_begin outcome runner queue workers repeated, hinv⟩
  | take _ hready ih =>
    obtain ⟨taken, hb, hi⟩ := ih
    exact hb.take hR hnodup hi hready
  | finish _ hf ih =>
    obtain ⟨taken, hb, hi⟩ := ih
    exact ⟨taken, hb.finishAt hR hi hf⟩
  | abort _ ih =>
    obtain ⟨taken, hb, hi⟩ := ih
    exact ⟨taken, hb.aborted, hi⟩

/-! ## The books of a run that is over -/

/-- When a run is over, all files that were taken are finished. -/
lemma Books.done_perm {taken done : List QueuedFile} {r : Run ρ}
    (hb : Books outcome queue workers repeated taken done r) (hover : r.isOver) :
    done.Perm taken := by
  have hperm := hb.taken_perm
  rw [hover.2, List.append_nil] at hperm
  exact hperm

/-- Files are left over only by an abort or a fault. -/
lemma Books.waiting_eq_nil {taken done : List QueuedFile} {r : Run ρ}
    (hb : Books outcome queue workers repeated taken done r) (hworkers : 0 < workers)
    (hover : r.isOver) (hstopped : r.stopped = false) : r.waiting = [] := by
  -- While files wait, all workers are ready or busy, but none of these is.
  by_contra hne
  have hle := hb.le_ready hstopped hne
  rw [hover.1, hover.2, List.length_nil] at hle
  omega

/-- Where no file of the queue is a fault, a run that is over met none. -/
lemma Books.fault_eq_none {taken done : List QueuedFile} {r : Run ρ}
    (hb : Books outcome queue workers repeated taken done r) (hover : r.isOver)
    (hfree : ∀ f ∈ queue, faultIn (outcome f) = none) :
    r.fault = none ∧ ∀ f ∈ done, faultIn (outcome f) = none := by
  have hdone : ∀ f ∈ done, faultIn (outcome f) = none := by
    intro f hf
    apply hfree
    rw [← hb.queue_eq]
    exact List.mem_append_left _ ((hb.done_perm hover).mem_iff.mp hf)
  rw [hb.fault, List.filterMap_eq_nil_iff.mpr hdone]
  exact ⟨rfl, hdone⟩

/-- It has finished the whole queue unless it was aborted. -/
lemma Books.done_perm_queue {taken done : List QueuedFile} {r : Run ρ}
    (hb : Books outcome queue workers repeated taken done r) (hworkers : 0 < workers)
    (hover : r.isOver) (hfree : ∀ f ∈ queue, faultIn (outcome f) = none)
    (haborted : r.aborted = false) : r.waiting = [] ∧ done.Perm queue := by
  have hstopped : r.stopped = false := by
    rw [stopped, (hb.fault_eq_none hover hfree).1, haborted]
    rfl
  have hwaiting := hb.waiting_eq_nil hworkers hover hstopped
  refine ⟨hwaiting, ?_⟩
  rw [← hb.queue_eq, hwaiting, List.append_nil]
  exact hb.done_perm hover

/-- What was taken is the beginning of the queue, and the rest of it waits. -/
lemma Books.taken_eq_take {taken done : List QueuedFile} {r : Run ρ}
    (hb : Books outcome queue workers repeated taken done r) :
    taken = queue.take taken.length ∧ r.waiting = queue.drop taken.length := by
  rw [← hb.queue_eq, List.take_left, List.drop_left]
  exact ⟨rfl, rfl⟩

end Run

end CallAtlas
