import Mathlib.Data.List.Basic
import Mathlib.Data.List.Perm.Basic
import Mathlib.Data.List.Flatten
import Mathlib.Tactic.Common

/-!
# Walks

A walk visits elements one after the other. Some elements wait; the first one of them is visited,
and what stands right below it then waits too: behind all others in a walk level by level, and
before all others in a walk in depth.
-/

namespace CallAtlas

variable {α β : Type} {below : α → List α} {waiting visited : List α}

/-- The walk level by level: what stands below an element waits behind all that waits already. -/
inductive BreadthFirst (below : α → List α) : (waiting visited : List α) → Prop
  | nil : BreadthFirst below [] []
  | cons {a : α} {waiting visited : List α}
    (rest : BreadthFirst below (waiting ++ below a) visited) :
    BreadthFirst below (a :: waiting) (a :: visited)

/-- The walk in depth: what stands below an element waits before all that waits already. -/
inductive DepthFirst (below : α → List α) : (waiting visited : List α) → Prop
  | nil : DepthFirst below [] []
  | cons {a : α} {waiting visited : List α} (rest : DepthFirst below (below a ++ waiting) visited) :
    DepthFirst below (a :: waiting) (a :: visited)

namespace BreadthFirst

/-- A walk level by level over other elements that stand below each other in the same way. -/
lemma map {below' : β → List β} {f : α → β} (h : BreadthFirst below waiting visited)
    (hbelow : ∀ a ∈ visited, below' (f a) = (below a).map f) :
    BreadthFirst below' (waiting.map f) (visited.map f) := by
  induction h with
  | nil => exact .nil
  | cons _ ih =>
    obtain ⟨hfirst, hrest⟩ := List.forall_mem_cons.mp hbelow
    apply cons
    rw [hfirst, ← List.map_append]
    exact ih hrest

/-- A walk level by level visits what the elements that wait give, if each of them gives itself and
what those below it give. -/
lemma flatMap_perm {f : α → List α} (h : BreadthFirst below waiting visited)
    (hf : ∀ a ∈ visited, f a = a :: (below a).flatMap f) : (waiting.flatMap f).Perm visited := by
  induction h with
  | nil => exact .refl []
  | @cons a waiting visited _ ih =>
    obtain ⟨hfirst, hrest⟩ := List.forall_mem_cons.mp hf
    rw [List.flatMap_cons, hfirst, List.cons_append]
    apply List.Perm.cons
    refine List.Perm.trans ?_ (ih hrest)
    rw [List.flatMap_append]
    exact List.perm_append_comm

end BreadthFirst

/-- An element stands below the nearest one of those before it that are not as deep as it. -/
def HasNearest (below : α → List α) (depth : α → ℕ) (before : List α) (a : α) : Prop :=
  ∃ earlier parent between, before = earlier ++ parent :: between
    ∧ a ∈ below parent ∧ ∀ b ∈ between, depth a ≤ depth b

namespace DepthFirst

/-- In a walk in depth every element that is visited stands below the nearest one before it that is
not as deep, as long as this is so for all that wait. -/
theorem hasNearest {depth : α → ℕ} (h : DepthFirst below waiting visited)
    (hbelow : ∀ a ∈ visited, ∀ b ∈ below a, depth b = depth a + 1)
    (hwaiting : waiting.Pairwise fun a b => depth b ≤ depth a) {earlier : List α}
    (hnearest : ∀ a ∈ waiting, HasNearest below depth earlier a) {before after : List α} {a : α}
    (hvisited : visited = before ++ a :: after) :
    HasNearest below depth (earlier ++ before) a := by
  induction h generalizing earlier before with
  | nil => simp at hvisited
  | @cons x waiting visited _ ih =>
    cases before with
    | nil =>
      obtain rfl := List.head_eq_of_cons_eq hvisited
      rw [List.append_nil]
      exact hnearest x List.mem_cons_self
    | cons y before =>
      obtain ⟨rfl, hrest⟩ := List.cons.inj hvisited
      obtain ⟨hfirst, hsorted⟩ := List.pairwise_cons.mp hwaiting
      have hdeeper := hbelow x List.mem_cons_self
      rw [List.append_cons]
      -- The element that is visited now joins those before, and what is below it waits in front.
      apply ih (fun a ha => hbelow a (List.mem_cons_of_mem x ha)) _ _ hrest
      · rw [List.pairwise_append]
        refine ⟨?_, hsorted, fun a ha b hb => ?_⟩
        · apply List.pairwise_of_forall_mem_list
          intro a ha b hb
          exact Nat.le_of_eq ((hdeeper b hb).trans (hdeeper a ha).symm)
        · have := hfirst b hb
          rw [hdeeper a ha]
          omega
      · intro b hb
        rcases List.mem_append.mp hb with hb | hb
        · exact ⟨earlier, x, [], rfl, hb, fun _ h => (List.not_mem_nil h).elim⟩
        · -- What was visited now is at least as deep as all that still waits.
          obtain ⟨first, parent, between, rfl, hparent, hbetween⟩ :=
            hnearest b (List.mem_cons_of_mem x hb)
          refine ⟨first, parent, between ++ [x], by simp, hparent, fun c hc => ?_⟩
          rcases List.mem_append.mp hc with hc | hc
          · exact hbetween c hc
          · rw [List.mem_singleton.mp hc]
            exact hfirst b hb

end DepthFirst

end CallAtlas
