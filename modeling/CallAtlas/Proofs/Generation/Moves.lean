import CallAtlas.Generation.Run
import Mathlib.Data.List.Basic
import Mathlib.Tactic.Common

/-!
# The moves of a run

What a run does when a worker takes a file and when a file is finished, said once for each move.
Files that wait, files that are worked on and workers that are ready are worth 3, 2 and 1: every
move but an abort brings their sum down. Hence every schedule ends, and it ends only when all
workers have stopped.
-/

namespace CallAtlas

namespace Run

variable {ρ : Type}

/-! ## What the end of a file changes -/

/-- The entry that a finished file adds to the model. -/
def indexedIn : Except Thrown FileOutcome → Option (Text × FileModel)
  | .ok (.indexed path file) => some (path, file)
  | _ => none

lemma indexedIn_eq_some_iff {o : Except Thrown FileOutcome} {e : Text × FileModel} :
    indexedIn o = some e ↔ o = .ok (.indexed e.1 e.2) := by
  rcases o with thrown | ⟨path, file⟩ | failure
  · constructor <;> intro h <;> cases h
  · constructor
    · intro h
      cases h
      rfl
    · intro h
      cases h
      rfl
  · constructor <;> intro h <;> cases h

/-- The failure that a finished file adds. -/
def failureIn (f : QueuedFile) : Except Thrown FileOutcome → Option FileFailure
  | .ok (.indexed _ _) => none
  | .ok (.failed failure) => some failure
  | .error thrown => if thrown.isResourceExhaustion then none else some (workerFailure f thrown)

/-- What a file threw if a shared resource is used up. -/
def faultIn : Except Thrown FileOutcome → Option Thrown
  | .ok _ => none
  | .error thrown => if thrown.isResourceExhaustion then some thrown else none

/-- A file that raises a fault adds neither an entry nor a failure. -/
lemma indexedIn_failureIn_of_faultIn (f : QueuedFile) {o : Except Thrown FileOutcome}
    {thrown : Thrown} (h : faultIn o = some thrown) :
    indexedIn o = none ∧ failureIn f o = none := by
  rcases o with t | ⟨path, file⟩ | failure
  · rw [faultIn] at h
    split at h
    · next hexhausted => exact ⟨rfl, if_pos hexhausted⟩
    · cases h
  · cases h
  · cases h

/-- A finished file adds to the model or to the failures, and its worker goes on; or it raises a
fault, and its worker stops. -/
lemma record_eq (r : Run ρ) (f : QueuedFile) (o : Except Thrown FileOutcome) :
    record r f o
      = match faultIn o with
        | some thrown => { r with fault := some thrown }
        | none =>
          advance
            { r with
              indexed := r.indexed ++ (indexedIn o).toList
              failures := r.failures ++ (failureIn f o).toList } f.path := by
  rcases o with thrown | ⟨path, file⟩ | failure
  · by_cases h : thrown.isResourceExhaustion
    · simp only [record, faultIn, h, ↓reduceIte]
    · simp only [record, faultIn, failureIn, indexedIn, h, Bool.false_eq_true, ↓reduceIte,
        Option.toList_none, Option.toList_some, List.append_nil]
  · simp only [record, faultIn, failureIn, indexedIn, Option.toList_none, Option.toList_some,
      List.append_nil]
  · simp only [record, faultIn, failureIn, indexedIn, Option.toList_none, Option.toList_some,
      List.append_nil]

/-- A file that raises no fault is an entry of the model or a failure, not both. -/
lemma length_indexedIn_add_length_failureIn {f : QueuedFile} {o : Except Thrown FileOutcome}
    (h : faultIn o = none) :
    (indexedIn o).toList.length + (failureIn f o).toList.length = 1 := by
  rcases o with thrown | ⟨path, file⟩ | failure
  · by_cases ht : thrown.isResourceExhaustion
    · simp only [faultIn, ht, ↓reduceIte] at h
      cases h
    · simp only [indexedIn, failureIn, ht, Bool.false_eq_true, ↓reduceIte, Option.toList_none,
        Option.toList_some, List.length_nil, List.length_singleton]
  · rfl
  · rfl

/-! ## One move -/

/-- A worker that takes no file stops; any other one takes the first file that waits. -/
lemma take_cases (R : Runner ρ) (r : Run ρ) :
    (r.stopped = true ∨ r.waiting = []) ∧ r.take R = { r with ready := r.ready - 1 }
      ∨ ∃ f rest, r.stopped = false ∧ r.waiting = f :: rest
          ∧ r.take R
              = { r with
                  ready := r.ready - 1
                  waiting := rest
                  inFlight := r.inFlight ++ [f]
                  runner := R.start r.runner f } := by
  unfold take
  by_cases hs : r.stopped
  · exact .inl ⟨.inl hs, if_pos hs⟩
  · rw [if_neg hs]
    cases hw : r.waiting with
    | nil => exact .inl ⟨.inr rfl, rfl⟩
    | cons f rest => exact .inr ⟨f, rest, by simpa using hs, rfl, rfl⟩

/-- The file at a position is finished with what the runner says of it. -/
lemma finishAt_eq (R : Runner ρ) {r : Run ρ} {i : Nat} {f : QueuedFile}
    (h : r.inFlight[i]? = some f) :
    r.finishAt R i
      = record
          { r with
            runner := (R.finish r.runner f).2.1
            inFlight := r.inFlight.eraseIdx i
            log := r.log ++ (R.finish r.runner f).2.2 } f (R.finish r.runner f).1 := by
  rw [finishAt, h]

/-! ## Every schedule ends -/

/-- How much is left to do. -/
def remaining (r : Run ρ) : Nat := 3 * r.waiting.length + 2 * r.inFlight.length + r.ready

/-- A worker that takes a file, or stops, leaves less to do. -/
lemma remaining_take_lt (R : Runner ρ) {r : Run ρ} (hready : 0 < r.ready) :
    (r.take R).remaining < r.remaining := by
  rcases take_cases R r with ⟨-, htake⟩ | ⟨f, rest, -, hwaiting, htake⟩
  · rw [htake]
    simp only [remaining]
    omega
  · rw [htake]
    simp only [remaining, hwaiting, List.length_cons, List.length_append, List.length_nil]
    omega

/-- What is recorded of a file makes at most one worker ready. -/
lemma remaining_record_le (r : Run ρ) (f : QueuedFile) (o : Except Thrown FileOutcome) :
    (record r f o).remaining ≤ r.remaining + 1 := by
  rw [record_eq]
  cases faultIn o with
  | none => simp only [advance, remaining]; omega
  | some thrown => simp only [remaining]; omega

/-- A file that is finished leaves less to do. -/
lemma remaining_finishAt_lt (R : Runner ρ) {r : Run ρ} {i : Nat} (hi : i < r.inFlight.length) :
    (r.finishAt R i).remaining < r.remaining := by
  rw [finishAt_eq R (List.getElem?_eq_getElem hi)]
  apply Nat.lt_of_le_of_lt (remaining_record_le _ _ _)
  have hlen := List.length_eraseIdx_of_lt hi
  simp only [remaining]
  omega

/-- Every move but an abort leaves less to do. -/
theorem Step.remaining_lt {R : Runner ρ} {r s : Run ρ} (h : Step R r s) :
    s = r.abort ∨ s.remaining < r.remaining := by
  cases h with
  | take hready => exact .inr (remaining_take_lt R hready)
  | finish i hi => exact .inr (remaining_finishAt_lt R hi)
  | abort => exact .inl rfl

/-- A worker that takes a file, or stops, is not ready any more. -/
lemma ready_take (R : Runner ρ) (r : Run ρ) : (r.take R).ready = r.ready - 1 := by
  rcases take_cases R r with ⟨-, htake⟩ | ⟨f, rest, -, -, htake⟩ <;> rw [htake]

/-- As long as a worker has not stopped there is a move that leaves less to do. -/
theorem exists_step_of_not_isOver (R : Runner ρ) {r : Run ρ} (h : ¬ r.isOver) :
    ∃ s, Step R r s ∧ s.remaining < r.remaining := by
  by_cases hready : 0 < r.ready
  · exact ⟨_, .take hready, remaining_take_lt R hready⟩
  · have hflight : 0 < r.inFlight.length := by
      apply List.length_pos_iff.mpr
      intro hnil
      exact h ⟨by omega, hnil⟩
    exact ⟨_, .finish 0 hflight, remaining_finishAt_lt R hflight⟩

/-! ## The files that are finished on the way -/

/-- The states that a run can come to by moves in which the given files are finished, one after the
other. -/
inductive Finishes (R : Runner ρ) (r : Run ρ) : List QueuedFile → Run ρ → Prop
  | refl : Finishes R r [] r
  | take {done : List QueuedFile} {s : Run ρ} (first : Finishes R r done s) (ready : 0 < s.ready) :
    Finishes R r done (s.take R)
  | finish {done : List QueuedFile} {s : Run ρ} {i : Nat} {f : QueuedFile}
    (first : Finishes R r done s) (inFlight : s.inFlight[i]? = some f) :
    Finishes R r (done ++ [f]) (s.finishAt R i)
  | abort {done : List QueuedFile} {s : Run ρ} (first : Finishes R r done s) :
    Finishes R r done s.abort

/-- In every run some files are finished, and nothing else is asked of a run. -/
theorem reaches_iff_exists_finishes {R : Runner ρ} {r s : Run ρ} :
    Reaches R r s ↔ ∃ done, Finishes R r done s := by
  constructor
  · intro h
    induction h with
    | refl => exact ⟨[], .refl⟩
    | step _ last ih =>
      obtain ⟨done, hfirst⟩ := ih
      cases last with
      | take hready => exact ⟨done, hfirst.take hready⟩
      | finish i hi => exact ⟨done ++ [_], hfirst.finish (List.getElem?_eq_getElem hi)⟩
      | abort => exact ⟨done, hfirst.abort⟩
  · rintro ⟨done, h⟩
    induction h with
    | refl => exact .refl
    | take _ hready ih => exact ih.step (.take hready)
    | finish _ hf ih => exact ih.step (.finish _ (List.getElem?_eq_some_iff.mp hf).1)
    | abort _ ih => exact ih.step .abort

/-! ## The run that is made -/

lemma Reaches.trans {R : Runner ρ} {r s t : Run ρ} (h₁ : Reaches R r s) (h₂ : Reaches R s t) :
    Reaches R r t := by
  induction h₂ with
  | refl => exact h₁
  | step _ last ih => exact ih.step last

/-- Ready workers that take a file one after the other make moves. -/
lemma reaches_takeAll (R : Runner ρ) (n : Nat) {r : Run ρ} (hn : n ≤ r.ready) :
    Reaches R r (takeAll R n r) := by
  induction n generalizing r with
  | zero => exact .refl
  | succ n ih =>
    have hready := ready_take R r
    have hfirst : Reaches R r (r.take R) := Reaches.refl.step (.take (by omega))
    exact hfirst.trans (ih (by omega))

/-- An abort that is asked for is a move. -/
lemma reaches_abortAt (R : Runner ρ) (count : Option Nat) (r : Run ρ) :
    Reaches R r (abortAt count r) := by
  rw [abortAt]
  split
  · exact Reaches.refl.step .abort
  · exact .refl

/-- Finishing the file at a position is a move, or nothing happens. -/
lemma reaches_finishAt (R : Runner ρ) (r : Run ρ) (i : Nat) : Reaches R r (r.finishAt R i) := by
  by_cases hi : i < r.inFlight.length
  · exact Reaches.refl.step (.finish i hi)
  · rw [finishAt, List.getElem?_eq_none (by omega)]
    exact .refl

/-- The rounds of a run are moves. -/
lemma reaches_rounds (R : Runner ρ) (abortAfter : Option Nat) (n : Nat) (r : Run ρ) :
    Reaches R r (rounds R abortAfter n r) := by
  induction n generalizing r with
  | zero => exact reaches_takeAll R r.ready (Nat.le_refl _)
  | succ n ih =>
    have htake : Reaches R r (takeAll R r.ready r) := reaches_takeAll R r.ready (Nat.le_refl _)
    have hfinish := reaches_finishAt R (takeAll R r.ready r) 0
    exact ((htake.trans hfinish).trans (reaches_abortAt R abortAfter _)).trans (ih _)

/-- The run that is made is one of the runs that can be made. -/
theorem reaches_complete (R : Runner ρ) (abortAfter : Option Nat) (r : Run ρ) :
    Reaches R r (r.complete R abortAfter) :=
  (reaches_abortAt R abortAfter r).trans (reaches_rounds R abortAfter _ _)

/-- Workers that take files do not change how many files are unfinished. -/
lemma length_take (R : Runner ρ) (r : Run ρ) :
    (r.take R).waiting.length + (r.take R).inFlight.length
      = r.waiting.length + r.inFlight.length := by
  rcases take_cases R r with ⟨-, htake⟩ | ⟨f, rest, -, hwaiting, htake⟩
  · rw [htake]
  · rw [htake]
    simp only [hwaiting, List.length_append, List.length_cons, List.length_nil]
    omega

/-- When all ready workers have taken a file or stopped, none is ready. -/
lemma takeAll_spec (R : Runner ρ) (n : Nat) (r : Run ρ) :
    (takeAll R n r).ready = r.ready - n
      ∧ (takeAll R n r).waiting.length + (takeAll R n r).inFlight.length
          = r.waiting.length + r.inFlight.length := by
  induction n generalizing r with
  | zero => exact ⟨rfl, rfl⟩
  | succ n ih =>
    obtain ⟨hr, hl⟩ := ih (r.take R)
    rw [takeAll, hr, hl, length_take, ready_take]
    exact ⟨by omega, rfl⟩

lemma isOver_abortAt {count : Option Nat} {r : Run ρ} : (abortAt count r).isOver ↔ r.isOver := by
  rw [abortAt]
  split <;> exact Iff.rfl

/-- A run that is over stays as it is, but for an abort. -/
lemma isOver_rounds_of_isOver (R : Runner ρ) (abortAfter : Option Nat) (n : Nat) {r : Run ρ}
    (h : r.isOver) : (rounds R abortAfter n r).isOver := by
  induction n generalizing r with
  | zero => rw [rounds, h.1]; exact h
  | succ n ih =>
    rw [rounds, h.1]
    apply ih
    rw [isOver_abortAt, takeAll, finishAt, h.2]
    exact h

/-- As many rounds as there are unfinished files bring a run to its end. -/
lemma isOver_rounds (R : Runner ρ) (abortAfter : Option Nat) (n : Nat) {r : Run ρ}
    (hn : r.waiting.length + r.inFlight.length ≤ n) : (rounds R abortAfter n r).isOver := by
  induction n generalizing r with
  | zero =>
    obtain ⟨hready, hlen⟩ := takeAll_spec R r.ready r
    exact ⟨by rw [rounds, hready]; omega, List.length_eq_zero_iff.mp (by rw [rounds]; omega)⟩
  | succ n ih =>
    obtain ⟨hready, hlen⟩ := takeAll_spec R r.ready r
    rw [rounds]
    generalize takeAll R r.ready r = s at hready hlen
    -- With nothing in flight the run is over, whatever still waits.
    cases hflight : s.inFlight with
    | nil =>
      apply isOver_rounds_of_isOver
      rw [isOver_abortAt, finishAt, hflight]
      exact ⟨by simpa using hready, hflight⟩
    | cons f rest =>
      apply ih
      have hsame : ∀ t : Run ρ, (abortAt abortAfter t).waiting = t.waiting
          ∧ (abortAt abortAfter t).inFlight = t.inFlight := by
        intro t
        rw [abortAt]
        split <;> exact ⟨rfl, rfl⟩
      have hfinish : (s.finishAt R 0).waiting = s.waiting ∧ (s.finishAt R 0).inFlight = rest := by
        rw [finishAt_eq R (f := f) (by rw [hflight]; rfl), record_eq, hflight]
        cases faultIn (R.finish s.runner f).1 <;> exact ⟨rfl, rfl⟩
      rw [(hsame _).1, (hsame _).2, hfinish.1, hfinish.2]
      rw [hflight, List.length_cons] at hlen
      omega

/-- The run that is made over a queue comes to its end. -/
theorem isOver_complete (R : Runner ρ) (abortAfter : Option Nat) (runner : ρ)
    (queue : List QueuedFile) (workers : Nat) (failures : List FileFailure) :
    ((begin runner queue workers failures).complete R abortAfter).isOver := by
  apply isOver_rounds
  rw [abortAt]
  split <;> exact Nat.le_refl _

end Run

end CallAtlas
