import Mathlib.Data.List.Basic
import Mathlib.Data.List.Nodup
import Mathlib.Data.List.Perm.Basic
import Mathlib.Tactic.Common

/-!
# Lists with keys

Where no key is there twice, what a lookup by a key finds is what is there, and the keys share the
elements of a list out.

What a queue takes and what a caller lists are the elements whose key no element before them has.
`firstsBy` and `repeatsBy` say this by looking at all that stands before an element. The
functions of the library walk a list once and carry the keys that they have met; `freshBy_cons` and
`staleBy_cons` are the steps of such a walk.
-/

namespace CallAtlas

/-! ## Lookups -/

section Lookup

variable {κ β : Type} [BEq κ] [LawfulBEq κ] {l : List (κ × β)} {k : κ} {b : β}

/-- What a lookup finds is there. -/
lemma mem_of_lookup_eq_some (h : l.lookup k = some b) : (k, b) ∈ l := by
  obtain ⟨before, after, rfl, -⟩ := List.lookup_eq_some_iff.mp h
  exact List.mem_append_right before List.mem_cons_self

omit [BEq κ] [LawfulBEq κ] in
/-- Two elements under the same key are the same if no key is there twice. -/
lemma eq_of_mem_of_nodup {c : β} (hl : (l.map Prod.fst).Nodup) (hb : (k, b) ∈ l)
    (hc : (k, c) ∈ l) : b = c :=
  congrArg Prod.snd (List.inj_on_of_nodup_map hl hb hc rfl)

/-- If no key is there twice, a lookup finds exactly what is there. -/
lemma lookup_eq_some_iff_mem (hl : (l.map Prod.fst).Nodup) :
    l.lookup k = some b ↔ (k, b) ∈ l := by
  constructor
  · exact mem_of_lookup_eq_some
  · intro hb
    cases hlookup : l.lookup k with
    | none =>
      have hne : (k != k) = true := List.lookup_eq_none_iff.mp hlookup (k, b) hb
      rw [bne_self_eq_false] at hne
      cases hne
    | some c => rw [eq_of_mem_of_nodup hl (mem_of_lookup_eq_some hlookup) hb]

end Lookup

/-! ## Sharing out -/

/-- Elements are shared out by their keys, and none is lost. -/
theorem perm_flatMap_filter {α κ : Type} [BEq κ] [LawfulBEq κ] {key : α → κ} {keys : List κ}
    (hnodup : keys.Nodup) {xs : List α} (hkeys : ∀ x ∈ xs, key x ∈ keys) :
    (keys.flatMap fun k => xs.filter fun x => key x == k).Perm xs := by
  induction keys generalizing xs with
  | nil =>
    rw [List.eq_nil_iff_forall_not_mem.mpr fun x hx => List.not_mem_nil (hkeys x hx)]
    rfl
  | cons k keys ih =>
    obtain ⟨hk, hnodup⟩ := List.nodup_cons.mp hnodup
    -- The other keys share out the elements that do not have the first one.
    have hothers : (keys.flatMap fun j => xs.filter fun x => key x == j)
        = keys.flatMap fun j => (xs.filter fun x => !(key x == k)).filter fun x => key x == j := by
      apply List.flatMap_congr
      intro j hj
      rw [List.filter_filter]
      apply List.filter_congr
      intro x _
      cases hkey : key x == j with
      | false => rfl
      | true =>
        have hne : (key x == k) = false :=
          beq_false_of_ne fun heq => hk (heq ▸ eq_of_beq hkey ▸ hj)
        rw [hne]
        rfl
    rw [List.flatMap_cons, hothers]
    refine (List.Perm.append_left _ (ih hnodup ?_)).trans (List.filter_append_perm _ xs)
    intro x hx
    obtain ⟨hmem, hne⟩ := List.mem_filter.mp hx
    rcases List.mem_cons.mp (hkeys x hmem) with heq | hin
    · rw [heq, beq_self_eq_true] at hne
      cases hne
    · exact hin

/-- What one element gives is found again among all that is given, by a test that what the others
give does not pass. -/
theorem filter_flatMap_eq {α β : Type} {f : α → List β} {test : β → Bool} {as : List α}
    (hnodup : as.Nodup) {a : α} (ha : a ∈ as) (hself : ∀ x ∈ f a, test x = true)
    (hothers : ∀ b ∈ as, b ≠ a → ∀ x ∈ f b, test x = false) :
    (as.flatMap f).filter test = f a := by
  induction as with
  | nil => cases ha
  | cons b as ih =>
    obtain ⟨hnew, hnodup⟩ := List.nodup_cons.mp hnodup
    rw [List.flatMap_cons, List.filter_append]
    rcases List.mem_cons.mp ha with rfl | hrest
    · have hnone : (as.flatMap f).filter test = [] := by
        rw [List.filter_eq_nil_iff]
        intro x hx
        obtain ⟨c, hc, hx⟩ := List.mem_flatMap.mp hx
        have hne : c ≠ a := fun heq => hnew (heq ▸ hc)
        rw [hothers c (List.mem_cons_of_mem a hc) hne x hx]
        exact Bool.false_ne_true
      rw [List.filter_eq_self.mpr hself, hnone, List.append_nil]
    · have hne : b ≠ a := fun heq => hnew (heq ▸ hrest)
      have hnone : (f b).filter test = [] := by
        rw [List.filter_eq_nil_iff]
        intro x hx
        rw [hothers b List.mem_cons_self hne x hx]
        exact Bool.false_ne_true
      rw [hnone, List.nil_append,
        ih hnodup hrest fun c hc => hothers c (List.mem_cons_of_mem b hc)]

/-! ## First occurrences -/

variable {α β : Type} [DecidableEq β]

/-- The elements whose key is not among given keys, and that no element before them has. -/
def freshBy (key : α → β) (seen : List β) (xs : List α) : List α :=
  (xs.zipIdx.filter fun p => key p.1 ∉ seen ++ (xs.take p.2).map key).map Prod.fst

/-- The elements whose key is among given keys, or that an element before them has. -/
def staleBy (key : α → β) (seen : List β) (xs : List α) : List α :=
  (xs.zipIdx.filter fun p => key p.1 ∈ seen ++ (xs.take p.2).map key).map Prod.fst

/-- The elements whose key no element before them has. -/
def firstsBy (key : α → β) (xs : List α) : List α := freshBy key [] xs

/-- The elements whose key an element before them has. -/
def repeatsBy (key : α → β) (xs : List α) : List α := staleBy key [] xs

/-! ## Walking a list with the keys met so far -/

omit [DecidableEq β] in
/-- A test of elements by their keys and the keys before them, one element further. -/
private theorem filter_zipIdx_cons (key : α → β) (test : β → List β → Bool) (seen : List β) (x : α)
    (xs : List α) :
    ((x :: xs).zipIdx.filter fun p =>
        test (key p.1) (seen ++ ((x :: xs).take p.2).map key)).map Prod.fst
      = (if test (key x) seen then [x] else [])
        ++ (xs.zipIdx.filter fun p =>
            test (key p.1) (seen ++ key x :: (xs.take p.2).map key)).map Prod.fst := by
  have htail : ((xs.zipIdx.map (Prod.map id (· + 1))).filter fun p =>
        test (key p.1) (seen ++ ((x :: xs).take p.2).map key)).map Prod.fst
      = (xs.zipIdx.filter fun p =>
          test (key p.1) (seen ++ key x :: (xs.take p.2).map key)).map Prod.fst := by
    rw [List.filter_map, List.map_map]
    rfl
  rw [List.zipIdx_cons', List.filter_cons]
  simp only [List.take_zero, List.map_nil, List.append_nil]
  split
  · rw [List.map_cons, htail]
    rfl
  · rw [htail]
    rfl

omit [DecidableEq β] in
/-- A key that is noted behind given ones may as well be noted before them. -/
private theorem mem_append_cons (k : β) (key : β) (seen keys : List β) :
    key ∈ seen ++ k :: keys ↔ key ∈ (k :: seen) ++ keys := by
  simp only [List.mem_append, List.mem_cons]
  tauto

omit [DecidableEq β] in
/-- A key that is among given ones need not be noted again. -/
private theorem mem_append_cons_of_mem {k : β} {seen : List β} (hk : k ∈ seen) (key : β)
    (keys : List β) : key ∈ seen ++ k :: keys ↔ key ∈ seen ++ keys := by
  simp only [List.mem_append, List.mem_cons]
  constructor
  · rintro (h | rfl | h)
    exacts [.inl h, .inl hk, .inr h]
  · tauto

@[simp]
theorem freshBy_nil (key : α → β) (seen : List β) : freshBy key seen [] = [] := rfl

@[simp]
theorem staleBy_nil (key : α → β) (seen : List β) : staleBy key seen [] = [] := rfl

/-- A fresh element stays and its key is noted. -/
theorem freshBy_cons (key : α → β) (seen : List β) (x : α) (xs : List α) :
    freshBy key seen (x :: xs)
      = if key x ∈ seen then freshBy key seen xs else x :: freshBy key (key x :: seen) xs := by
  have hstep := filter_zipIdx_cons key (fun k ks => decide (k ∉ ks)) seen x xs
  rw [freshBy, hstep]
  by_cases hx : key x ∈ seen
  · simp only [hx, not_true_eq_false, decide_false, Bool.false_eq_true, ↓reduceIte,
      mem_append_cons_of_mem hx, List.nil_append, freshBy]
  · simp only [hx, not_false_eq_true, decide_true, ↓reduceIte, mem_append_cons, freshBy,
      List.singleton_append]

/-- A repeated element stays; the key of any other one is noted. -/
theorem staleBy_cons (key : α → β) (seen : List β) (x : α) (xs : List α) :
    staleBy key seen (x :: xs)
      = if key x ∈ seen then x :: staleBy key seen xs else staleBy key (key x :: seen) xs := by
  have hstep := filter_zipIdx_cons key (fun k ks => decide (k ∈ ks)) seen x xs
  rw [staleBy, hstep]
  by_cases hx : key x ∈ seen
  · simp only [hx, decide_true, ↓reduceIte, mem_append_cons_of_mem hx, List.singleton_append,
      staleBy]
  · simp only [hx, decide_false, Bool.false_eq_true, ↓reduceIte, mem_append_cons, staleBy,
      List.nil_append]

/-! ## Other elements, other keys -/

/-- First occurrences of images are images of first occurrences. -/
theorem firstsBy_map {γ : Type} (key : α → β) (f : γ → α) (xs : List γ) :
    firstsBy key (xs.map f) = (firstsBy (key ∘ f) xs).map f := by
  rw [firstsBy, firstsBy, freshBy, freshBy, List.zipIdx_map, List.filter_map, List.map_map,
    List.map_map]
  simp only [Function.comp_def, Prod.map_fst, Prod.map_snd, id_eq, ← List.map_take, List.map_map]

/-- Repetitions of images are images of repetitions. -/
theorem repeatsBy_map {γ : Type} (key : α → β) (f : γ → α) (xs : List γ) :
    repeatsBy key (xs.map f) = (repeatsBy (key ∘ f) xs).map f := by
  rw [repeatsBy, repeatsBy, staleBy, staleBy, List.zipIdx_map, List.filter_map, List.map_map,
    List.map_map]
  simp only [Function.comp_def, Prod.map_fst, Prod.map_snd, id_eq, ← List.map_take, List.map_map]

/-- Only which elements have the same key counts. -/
theorem firstsBy_congr {γ : Type} [DecidableEq γ] {key : α → β} {key' : α → γ} {xs : List α}
    (h : ∀ x ∈ xs, ∀ y ∈ xs, key x = key y ↔ key' x = key' y) :
    firstsBy key xs = firstsBy key' xs := by
  rw [firstsBy, firstsBy, freshBy, freshBy]
  congr 1
  refine List.filter_congr fun p hp => ?_
  have hx : p.1 ∈ xs := List.fst_mem_of_mem_zipIdx hp
  simp only [List.nil_append, List.mem_map, decide_eq_decide]
  refine not_congr (exists_congr fun y => and_congr_right fun hy => ?_)
  exact h y (List.mem_of_mem_take hy) p.1 hx

/-- A key that no element has need not be noted. -/
theorem freshBy_cons_of_forall_ne {key : α → β} {k : β} {seen : List β} {xs : List α}
    (h : ∀ x ∈ xs, key x ≠ k) : freshBy key (k :: seen) xs = freshBy key seen xs := by
  rw [freshBy, freshBy]
  congr 1
  refine List.filter_congr fun p hp => ?_
  have hne : key p.1 ≠ k := h p.1 (List.fst_mem_of_mem_zipIdx hp)
  simp only [List.cons_append, List.mem_cons, hne, false_or]

/-- Among elements whose key tells whether they pass a test, the first ones that pass are the first
ones of those that pass. -/
theorem filter_freshBy {key : α → β} {p : α → Bool} {xs : List α}
    (h : ∀ x ∈ xs, ∀ y ∈ xs, key x = key y → p x = p y) (seen : List β) :
    (freshBy key seen xs).filter p = freshBy key seen (xs.filter p) := by
  induction xs generalizing seen with
  | nil => rfl
  | cons x xs ih =>
    have hxs : ∀ y ∈ xs, ∀ z ∈ xs, key y = key z → p y = p z := fun y hy z hz =>
      h y (List.mem_cons_of_mem x hy) z (List.mem_cons_of_mem x hz)
    cases hx : p x with
    | true =>
      rw [List.filter_cons_of_pos hx, freshBy_cons, freshBy_cons]
      split
      · exact ih hxs seen
      · rw [List.filter_cons_of_pos hx, ih hxs]
    | false =>
      have hpx : ¬p x = true := by
        rw [hx]
        exact Bool.false_ne_true
      rw [List.filter_cons_of_neg hpx, freshBy_cons]
      split
      · exact ih hxs seen
      · rw [List.filter_cons_of_neg hpx, ih hxs, freshBy_cons_of_forall_ne]
        -- an element that passes does not have the key of one that does not
        intro y hy heq
        obtain ⟨hmem, hpy⟩ := List.mem_filter.mp hy
        rw [h y (List.mem_cons_of_mem x hmem) x List.mem_cons_self heq] at hpy
        exact hpx hpy

/-- What repeats elements before it adds nothing. -/
theorem freshBy_append_of_forall_mem {key : α → β} {seen : List β} {xs ys : List α}
    (h : ∀ y ∈ ys, key y ∈ seen ∨ key y ∈ xs.map key) :
    freshBy key seen (xs ++ ys) = freshBy key seen xs := by
  induction xs generalizing seen with
  | nil =>
    rw [List.nil_append, freshBy_nil]
    induction ys with
    | nil => rfl
    | cons y ys ih =>
      obtain ⟨hy, hys⟩ := List.forall_mem_cons.mp h
      rw [freshBy_cons, if_pos (hy.resolve_right List.not_mem_nil), ih hys]
  | cons x xs ih =>
    rw [List.cons_append, freshBy_cons, freshBy_cons]
    have hrest : ∀ {seen' : List β}, seen ⊆ seen' → key x ∈ seen' →
        ∀ y ∈ ys, key y ∈ seen' ∨ key y ∈ xs.map key := by
      intro seen' hsub hx y hy
      rcases h y hy with hseen | hmem
      · exact .inl (hsub hseen)
      · rcases List.mem_cons.mp hmem with heq | hmem
        · exact .inl (heq ▸ hx)
        · exact .inr hmem
    split
    · next hx => exact ih (hrest (List.Subset.refl _) hx)
    · rw [ih (hrest (List.subset_cons_self _ _) List.mem_cons_self)]

/-! ## What the two parts hold -/

/-- The keys of fresh elements are new. -/
theorem key_notMem_of_mem_freshBy {key : α → β} {seen : List β} {xs : List α} {x : α}
    (hx : x ∈ freshBy key seen xs) : key x ∉ seen := by
  simp only [freshBy, List.mem_map, List.mem_filter, decide_eq_true_eq, List.mem_append,
    not_or] at hx
  obtain ⟨p, ⟨-, hp, -⟩, rfl⟩ := hx
  exact hp

/-- No two fresh elements have the same key. -/
theorem nodup_map_freshBy (key : α → β) (seen : List β) (xs : List α) :
    ((freshBy key seen xs).map key).Nodup := by
  induction xs generalizing seen with
  | nil => simp
  | cons x xs ih =>
    rw [freshBy_cons]
    split
    · exact ih seen
    · rw [List.map_cons, List.nodup_cons]
      refine ⟨fun hmem => ?_, ih _⟩
      obtain ⟨y, hy, hkey⟩ := List.mem_map.mp hmem
      exact key_notMem_of_mem_freshBy hy (hkey ▸ List.mem_cons_self)

/-- Every element is either fresh or repeated. -/
theorem freshBy_append_staleBy_perm (key : α → β) (seen : List β) (xs : List α) :
    (freshBy key seen xs ++ staleBy key seen xs).Perm xs := by
  induction xs generalizing seen with
  | nil => simp
  | cons x xs ih =>
    rw [freshBy_cons, staleBy_cons]
    split
    · exact List.perm_middle.trans ((ih seen).cons x)
    · exact (ih _).cons x

/-- No two first occurrences have the same key. -/
theorem nodup_map_firstsBy (key : α → β) (xs : List α) : ((firstsBy key xs).map key).Nodup :=
  nodup_map_freshBy key [] xs

/-- Every element is either a first occurrence or a repetition. -/
theorem length_firstsBy_add_length_repeatsBy (key : α → β) (xs : List α) :
    (firstsBy key xs).length + (repeatsBy key xs).length = xs.length := by
  rw [← List.length_append]
  exact (freshBy_append_staleBy_perm key [] xs).length_eq

/-- Elements with different keys are all first occurrences. -/
theorem firstsBy_of_nodup {key : α → β} {xs : List α} (h : (xs.map key).Nodup) :
    firstsBy key xs = xs := by
  have hall : ∀ seen : List β, (∀ x ∈ xs, key x ∉ seen) → freshBy key seen xs = xs := by
    induction xs with
    | nil => exact fun _ _ => rfl
    | cons x xs ih =>
      intro seen hseen
      obtain ⟨hx, hxs⟩ := List.nodup_cons.mp h
      rw [freshBy_cons, if_neg (hseen x List.mem_cons_self), ih hxs]
      intro y hy hmem
      rcases List.mem_cons.mp hmem with heq | hmem
      · exact hx (heq ▸ List.mem_map_of_mem hy)
      · exact hseen y (List.mem_cons_of_mem x hy) hmem
  exact hall [] fun _ _ => List.not_mem_nil

/-- None of them is a repetition. -/
theorem repeatsBy_of_nodup {key : α → β} {xs : List α} (h : (xs.map key).Nodup) :
    repeatsBy key xs = [] := by
  have hlength := length_firstsBy_add_length_repeatsBy key xs
  rw [firstsBy_of_nodup h] at hlength
  exact List.eq_nil_of_length_eq_zero (by omega)

end CallAtlas
