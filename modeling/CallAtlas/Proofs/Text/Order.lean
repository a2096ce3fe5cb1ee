import CallAtlas.Proofs.Keys
import CallAtlas.Text.Basic
import Mathlib.Tactic.Common

/-!
# Lists with texts as keys

Texts are ordered by their code units. The order is total, so that sorting by a text gives the
elements in order, and elements with the same text keep their places.
-/

namespace CallAtlas

/-- Sorting is stable: it leaves elements in their order if none of them is before another one. -/
theorem filter_mergeSort {α : Type} {le : α → α → Bool}
    (htrans : ∀ a b c, le a b = true → le b c = true → le a c = true)
    (htotal : ∀ a b, (le a b || le b a) = true) {p : α → Bool}
    (hp : ∀ a b, p a = true → p b = true → le a b = true) (xs : List α) :
    (xs.mergeSort le).filter p = xs.filter p := by
  have hequal : (xs.filter p).Pairwise fun a b => le a b = true := by
    apply List.pairwise_of_forall_mem_list
    intro a ha b hb
    exact hp a b (List.mem_filter.mp ha).2 (List.mem_filter.mp hb).2
  -- Both lists are the same as soon as one is a part of the other and they have the same length.
  have hsub : (xs.filter p).Sublist (xs.mergeSort le) :=
    List.sublist_mergeSort htrans htotal hequal List.filter_sublist
  have hboth := hsub.filter p
  rw [List.filter_filter] at hboth
  simp only [Bool.and_self] at hboth
  have hperm := (List.mergeSort_perm xs le).filter p
  exact (hboth.eq_of_length hperm.length_eq.symm).symm

/-- Where elements that are not before one another have the same key and no two keys are the same,
sorting forgets in which order the elements came. -/
theorem mergeSort_eq_of_perm {α κ : Type} {le : α → α → Bool}
    (htrans : ∀ a b c, le a b = true → le b c = true → le a c = true)
    (htotal : ∀ a b, (le a b || le b a) = true) {key : α → κ}
    (hkey : ∀ a b, le a b = true → le b a = true → key a = key b) {xs ys : List α}
    (hnodup : (xs.map key).Nodup) (h : xs.Perm ys) : xs.mergeSort le = ys.mergeSort le := by
  have hsort : (xs.mergeSort le).Perm (ys.mergeSort le) :=
    (List.mergeSort_perm xs le).trans (h.trans (List.mergeSort_perm ys le).symm)
  apply hsort.eq_of_pairwise _ (List.pairwise_mergeSort htrans htotal xs)
    (List.pairwise_mergeSort htrans htotal ys)
  intro a b ha hb hab hba
  exact List.inj_on_of_nodup_map hnodup (List.mem_mergeSort.mp ha)
    (h.mem_iff.mpr (List.mem_mergeSort.mp hb)) (hkey a b hab hba)

namespace Text

/-- A text that the other one is not before comes first in the order, or is equal. -/
lemma not_before_eq (a b : Text) : (!before b a) = decide (a ≤ b) := by
  rw [before, ← decide_not]
  exact decide_eq_decide.mpr List.not_lt

lemma not_before_trans {a b c : Text} (hab : (!before b a) = true) (hbc : (!before c b) = true) :
    (!before c a) = true := by
  rw [not_before_eq, decide_eq_true_eq] at hab hbc ⊢
  exact List.le_trans hab hbc

lemma not_before_total (a b : Text) : ((!before b a) || (!before a b)) = true := by
  rw [not_before_eq, not_before_eq, Bool.or_eq_true, decide_eq_true_eq, decide_eq_true_eq]
  exact List.le_total a b

lemma lt_of_le_of_ne {a b : Text} (hle : a ≤ b) (hne : a ≠ b) : a < b := by
  by_contra hlt
  exact hne (List.le_antisymm hle hlt)

/-- Elements sorted by a text are in order. -/
theorem pairwise_mergeSort_key {α : Type} (key : α → Text) (xs : List α) :
    (xs.mergeSort fun a b => !before (key b) (key a)).Pairwise fun a b => key a ≤ key b := by
  have hsorted : (xs.mergeSort fun a b => !before (key b) (key a)).Pairwise fun a b =>
      (!before (key b) (key a)) = true := by
    apply List.pairwise_mergeSort
    · exact fun _ _ _ => not_before_trans
    · exact fun a b => not_before_total (key a) (key b)
  apply hsorted.imp
  intro a b h
  rw [not_before_eq, decide_eq_true_eq] at h
  exact h

/-- Sorted texts are in order. -/
lemma pairwise_sort (ts : List Text) : (sort ts).Pairwise (· ≤ ·) := pairwise_mergeSort_key id ts

lemma sort_perm (ts : List Text) : (sort ts).Perm ts := List.mergeSort_perm ts _

/-- Elements that are in order under different texts are in strict order. -/
lemma pairwise_lt_of_nodup {α : Type} {key : α → Text} {xs : List α}
    (h : xs.Pairwise fun a b => key a ≤ key b) (hnodup : (xs.map key).Nodup) :
    xs.Pairwise fun a b => key a < key b :=
  h.imp₂ (fun _ _ => lt_of_le_of_ne) (List.pairwise_map.mp hnodup)

/-- Texts that are in order are left as they are. -/
lemma sort_of_pairwise {ts : List Text} (h : ts.Pairwise (· ≤ ·)) : sort ts = ts := by
  apply List.mergeSort_of_pairwise
  apply h.imp
  intro a b hab
  rw [not_before_eq, decide_eq_true_eq]
  exact hab

/-- Sorting forgets in which order the texts came, also where some of them are equal. -/
theorem sort_eq_of_perm {ts us : List Text} (h : ts.Perm us) : sort ts = sort us := by
  apply ((sort_perm ts).trans (h.trans (sort_perm us).symm)).eq_of_pairwise _ (pairwise_sort ts)
    (pairwise_sort us)
  intro a b _ _ hab hba
  exact List.le_antisymm hab hba

/-- Lists that are in order are the same if they hold the same elements, each under a text of its
own. -/
theorem eq_of_perm_of_pairwise_key {α : Type} (key : α → Text) {xs ys : List α}
    (hnodup : (xs.map key).Nodup) (h : xs.Perm ys) (hxs : xs.Pairwise fun a b => key a ≤ key b)
    (hys : ys.Pairwise fun a b => key a ≤ key b) : xs = ys := by
  apply h.eq_of_pairwise _ hxs hys
  intro a b ha hb hab hba
  exact List.inj_on_of_nodup_map hnodup ha (h.mem_iff.mpr hb) (List.le_antisymm hab hba)

/-- Elements under different texts are sorted the same way in whatever order they come. -/
theorem mergeSort_key_eq_of_perm {α : Type} (key : α → Text) {xs ys : List α}
    (hnodup : (xs.map key).Nodup) (h : xs.Perm ys) :
    (xs.mergeSort fun a b => !before (key b) (key a))
      = ys.mergeSort fun a b => !before (key b) (key a) := by
  apply mergeSort_eq_of_perm _ _ _ hnodup h
  · exact fun _ _ _ => not_before_trans
  · exact fun a b => not_before_total (key a) (key b)
  · intro a b hab hba
    rw [not_before_eq, decide_eq_true_eq] at hab hba
    exact List.le_antisymm hab hba

section

variable {α : Type} {key : α → Text} {xs ys : List α}

lemma mem_of_filter_key_eq (h : ∀ k, (xs.filter fun a => key a = k) = ys.filter fun a => key a = k)
    {a : α} (ha : a ∈ xs) : a ∈ ys := by
  have hin : a ∈ xs.filter fun b => key b = key a := List.mem_filter.mpr ⟨ha, decide_eq_true rfl⟩
  rw [h] at hin
  exact (List.mem_filter.mp hin).1

/-- The first element of a list that is in order has the least text. -/
lemma key_head_le {a : α} (h : (a :: xs).Pairwise fun a b => key a ≤ key b) {b : α}
    (hb : b ∈ a :: xs) : key a ≤ key b := by
  rcases List.mem_cons.mp hb with rfl | hb
  · exact List.le_refl _
  · exact (List.pairwise_cons.mp h).1 b hb

/-- Without a first element that both have, two lists have the same elements of each text. -/
lemma filter_key_tail_eq {a : α}
    (h : ∀ k, ((a :: xs).filter fun b => key b = k) = (a :: ys).filter fun b => key b = k)
    (k : Text) : (xs.filter fun b => key b = k) = ys.filter fun b => key b = k := by
  have hboth := h k
  by_cases hk : key a = k
  · rw [List.filter_cons_of_pos (by simpa using hk), List.filter_cons_of_pos (by simpa using hk)]
      at hboth
    exact (List.cons.inj hboth).2
  · rw [List.filter_cons_of_neg (by simpa using hk), List.filter_cons_of_neg (by simpa using hk)]
      at hboth
    exact hboth

end

/-- Lists that are in order are the same if they hold the same elements of each text in the same
order. -/
theorem eq_of_pairwise_key {α : Type} (key : α → Text) {xs ys : List α}
    (hxs : xs.Pairwise fun a b => key a ≤ key b) (hys : ys.Pairwise fun a b => key a ≤ key b)
    (h : ∀ k, (xs.filter fun a => key a = k) = ys.filter fun a => key a = k) : xs = ys := by
  induction xs generalizing ys with
  | nil =>
    symm
    apply List.eq_nil_iff_forall_not_mem.mpr
    intro b hb
    cases mem_of_filter_key_eq (fun k => (h k).symm) hb
  | cons a xs ih =>
    cases ys with
    | nil => cases mem_of_filter_key_eq h List.mem_cons_self
    | cons b ys =>
      -- Each of the two first elements is in the other list, so neither is behind the other one.
      have hba : key b ≤ key a := key_head_le hys (mem_of_filter_key_eq h List.mem_cons_self)
      have hab : key a ≤ key b :=
        key_head_le hxs (mem_of_filter_key_eq (fun k => (h k).symm) List.mem_cons_self)
      have hkey : key a = key b := List.le_antisymm hab hba
      have hfirst := h (key a)
      rw [List.filter_cons_of_pos (by simp), List.filter_cons_of_pos (by simpa using hkey.symm)]
        at hfirst
      obtain rfl := (List.cons.inj hfirst).1
      rw [ih (List.pairwise_cons.mp hxs).2 (List.pairwise_cons.mp hys).2 (filter_key_tail_eq h)]

/-- Sorting by a text leaves the elements of one text in their order. -/
theorem filter_mergeSort_key {α : Type} (key : α → Text) (xs : List α) (k : Text) :
    ((xs.mergeSort fun a b => !before (key b) (key a)).filter fun a => key a = k)
      = xs.filter fun a => key a = k := by
  apply filter_mergeSort
  · exact fun _ _ _ => not_before_trans
  · exact fun a b => not_before_total (key a) (key b)
  · intro a b ha hb
    rw [not_before_eq, decide_eq_true_eq, of_decide_eq_true ha, of_decide_eq_true hb]
    exact List.le_refl _

end Text

end CallAtlas
