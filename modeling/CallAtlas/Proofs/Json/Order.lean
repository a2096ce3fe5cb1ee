import CallAtlas.Json.Basic
import CallAtlas.Proofs.Number.Digits
import Mathlib.Data.List.Nodup
import Mathlib.Data.List.Perm.Basic
import Mathlib.Data.List.TakeWhile
import Mathlib.Tactic.Common

/-!
# The order of the members of an object

Names that are array indexes come first, by value; all others keep the order in which they are
written. Members with different names stay what they are when they are put in this order, and those
that are in it already stay as they are.
-/

namespace CallAtlas

namespace Json

variable {α β : Type}

/-! ## Members with different names -/

/-- A member with a new name is put among the others and changes none of them. -/
lemma insertMember_perm {name : Text} {members : List (Text × α)}
    (h : name ∉ members.map Prod.fst) (value : α) :
    (insertMember name value members).Perm ((name, value) :: members) := by
  have hany : (members.any fun m => m.1 == name) = false := by
    rw [List.any_eq_false]
    intro m hm
    rw [beq_iff_eq]
    intro heq
    exact h (by rw [← heq]; exact List.mem_map_of_mem hm)
  rw [insertMember, hany, if_neg Bool.false_ne_true]
  cases arrayIndex? name with
  | none => exact List.perm_append_comm
  | some i =>
    apply List.perm_middle.trans
    rw [List.takeWhile_append_dropWhile]

/-- Members with different names are put in order. -/
theorem orderMembers_perm {members : List (Text × α)} (h : (members.map Prod.fst).Nodup) :
    (orderMembers members).Perm members := by
  have hall : ∀ (ms acc : List (Text × α)), ((acc ++ ms).map Prod.fst).Nodup →
      (ms.foldl (fun acc m => insertMember m.1 m.2 acc) acc).Perm (acc ++ ms) := by
    intro ms
    induction ms with
    | nil =>
      intro acc _
      rw [List.append_nil]
      exact .refl acc
    | cons m rest ih =>
      intro acc hnodup
      have hmiddle : ((m :: acc) ++ rest).Perm (acc ++ m :: rest) := List.perm_middle.symm
      have hnew : m.1 ∉ acc.map Prod.fst := by
        rw [List.map_append, List.map_cons, List.nodup_append] at hnodup
        intro hmem
        exact hnodup.2.2 _ hmem _ List.mem_cons_self rfl
      have hinsert := insertMember_perm hnew m.2
      have hstep := (hinsert.append_right rest).trans hmiddle
      rw [List.foldl_cons]
      apply (ih _ _).trans hstep
      exact (hstep.map Prod.fst).nodup_iff.mpr hnodup
  exact hall members [] h

/-! ## Names in order -/

/-- The first name comes before the second one in an object that has both. -/
def Precedes (a b : Text) : Prop :=
  match arrayIndex? a, arrayIndex? b with
  | some i, some j => i < j
  | some _, none => True
  | none, some _ => False
  | none, none => a ≠ b

instance (a b : Text) : Decidable (Precedes a b) := by
  unfold Precedes
  split <;> infer_instance

lemma Precedes.ne {a b : Text} (h : Precedes a b) : a ≠ b := by
  rintro rfl
  unfold Precedes at h
  split at h
  · next i j hi hj =>
    rw [hi] at hj
    exact absurd h (Option.some.inj hj ▸ Nat.lt_irrefl i)
  · next hi hj =>
    rw [hi] at hj
    cases hj
  · exact h
  · exact h rfl

lemma precedes_of_none {a b : Text} (hb : arrayIndex? b = none) (hne : a ≠ b) : Precedes a b := by
  unfold Precedes
  rw [hb]
  cases arrayIndex? a with
  | none => exact hne
  | some i => trivial

lemma precedes_of_lt {a b : Text} {i j : ℕ} (ha : arrayIndex? a = some i)
    (hb : arrayIndex? b = some j) (h : i < j) : Precedes a b := by
  unfold Precedes
  rw [ha, hb]
  exact h

/-- Members in the order of an object. -/
def InOrder (members : List (Text × α)) : Prop := (members.map Prod.fst).Pairwise Precedes

instance (members : List (Text × α)) : Decidable (InOrder members) := by
  unfold InOrder
  infer_instance

/-- The order depends on the names alone. -/
lemma InOrder.map {members : List (Text × α)} (h : InOrder members) (f : α → β) :
    InOrder (members.map fun m => (m.1, f m.2)) := by
  rw [InOrder, List.map_map]
  exact h

lemma InOrder.nodup {members : List (Text × α)} (h : InOrder members) :
    (members.map Prod.fst).Nodup :=
  h.imp Precedes.ne

/-- Some names are array indexes below another one. -/
private def isBelow (i : ℕ) (m : Text × α) : Bool :=
  match arrayIndex? m.1 with
  | some j => j < i
  | none => false

private lemma insertMember_of_notMem {name : Text} {value : α} {members : List (Text × α)}
    (h : name ∉ members.map Prod.fst) :
    insertMember name value members
      = match arrayIndex? name with
        | none => members ++ [(name, value)]
        | some i =>
          members.takeWhile (isBelow i) ++ (name, value) :: members.dropWhile (isBelow i) := by
  have hany : (members.any fun m => m.1 == name) = false := by
    rw [List.any_eq_false]
    intro m hm
    rw [beq_iff_eq]
    exact fun heq => h (heq ▸ List.mem_map_of_mem hm)
  rw [insertMember, hany, if_neg Bool.false_ne_true]
  rfl

/-- The names that come before an array index are the array indexes below it. -/
private lemma isBelow_iff_precedes {name : Text} {i : ℕ} (hname : arrayIndex? name = some i)
    {m : Text × α} : isBelow i m = true ↔ Precedes m.1 name := by
  unfold isBelow Precedes
  rw [hname]
  cases arrayIndex? m.1 with
  | none => exact iff_of_false Bool.false_ne_true id
  | some j => exact decide_eq_true_iff

/-- A name that does not come before an array index comes behind it. -/
private lemma precedes_of_not_precedes {a b : Text} {i : ℕ} (ha : arrayIndex? a = some i)
    (hne : a ≠ b) (h : ¬ Precedes b a) : Precedes a b := by
  cases hb : arrayIndex? b with
  | none => exact precedes_of_none hb hne
  | some j =>
    apply precedes_of_lt ha hb
    -- Names of the same index are the same text.
    apply Nat.lt_of_le_of_ne (Nat.not_lt.mp fun hlt => h (precedes_of_lt hb ha hlt))
    rintro rfl
    exact hne ((eq_ofNat_of_arrayIndex? ha).trans (eq_ofNat_of_arrayIndex? hb).symm)

private lemma Precedes.trans_index {a b c : Text} {i : ℕ} (ha : arrayIndex? a = some i)
    (hab : Precedes a b) (hbc : Precedes b c) : Precedes a c := by
  unfold Precedes at *
  rw [ha] at hab ⊢
  cases hb : arrayIndex? b <;> cases hc : arrayIndex? c <;> rw [hb] at hab hbc <;>
    rw [hc] at hbc <;> simp only at *
  exact Nat.lt_trans hab hbc

/-- A member that is put between others is all that is added to them. -/
private lemma mem_of_mem_between {m p : Text × α} {i : ℕ} {members : List (Text × α)}
    (hp : p ∈ members.takeWhile (isBelow i) ++ m :: members.dropWhile (isBelow i)) :
    p = m ∨ p ∈ members := by
  rcases List.mem_append.mp hp with hp | hp
  · exact .inr (List.takeWhile_subset _ hp)
  · exact (List.mem_cons.mp hp).imp_right fun hp => List.dropWhile_subset _ hp

/-- A new member whose name is an array index is put in its place by value. -/
private lemma inOrder_between {name : Text} {value : α} {i : ℕ} (hname : arrayIndex? name = some i)
    {members : List (Text × α)} (hnew : name ∉ members.map Prod.fst) (h : InOrder members) :
    InOrder (members.takeWhile (isBelow i) ++ (name, value) :: members.dropWhile (isBelow i)) := by
  induction members with
  | nil => exact List.pairwise_singleton _ _
  | cons m members ih =>
    obtain ⟨hfirst, hrest⟩ := List.pairwise_cons.mp h
    rw [List.map_cons, List.mem_cons, not_or] at hnew
    by_cases hbelow : isBelow i m = true
    · -- The first member stays first: it comes before the new one, as before all others.
      rw [List.takeWhile_cons_of_pos hbelow, List.dropWhile_cons_of_pos hbelow, List.cons_append]
      apply List.pairwise_cons.mpr
      refine ⟨?_, ih hnew.2 hrest⟩
      intro other hother
      obtain ⟨p, hp, rfl⟩ := List.mem_map.mp hother
      rcases mem_of_mem_between hp with rfl | hp
      · exact (isBelow_iff_precedes hname).mp hbelow
      · exact hfirst _ (List.mem_map_of_mem hp)
    · -- The new member comes before the first one, and so before all others.
      rw [List.takeWhile_cons_of_neg hbelow, List.dropWhile_cons_of_neg hbelow, List.nil_append]
      have hm : Precedes name m.1 :=
        precedes_of_not_precedes hname hnew.1 ((isBelow_iff_precedes hname).not.mp hbelow)
      apply List.pairwise_cons.mpr
      refine ⟨?_, h⟩
      intro other hother
      rcases List.mem_cons.mp hother with rfl | hother
      · exact hm
      · exact hm.trans_index hname (hfirst other hother)

/-- A member is put among others so that they stay in order. -/
lemma inOrder_insertMember (name : Text) (value : α) {members : List (Text × α)}
    (h : InOrder members) : InOrder (insertMember name value members) := by
  by_cases hmem : name ∈ members.map Prod.fst
  · obtain ⟨m, hm, rfl⟩ := List.mem_map.mp hmem
    have hany : (members.any fun p => p.1 == m.1) = true :=
      List.any_eq_true.mpr ⟨m, hm, beq_self_eq_true _⟩
    rw [insertMember, hany, if_pos rfl, InOrder, List.map_map]
    have hnames : (Prod.fst ∘ fun p : Text × α => if (p.1 == m.1) = true then (m.1, value) else p)
        = Prod.fst := by
      funext p
      rw [Function.comp_apply]
      split
      · next heq => exact (beq_iff_eq.mp heq).symm
      · rfl
    rw [hnames]
    exact h
  · rw [insertMember_of_notMem hmem]
    cases hname : arrayIndex? name with
    | none =>
      rw [InOrder, List.map_append]
      apply List.pairwise_append.mpr
      refine ⟨h, List.pairwise_singleton _ _, ?_⟩
      intro a ha b hb
      rw [List.map_singleton, List.mem_singleton] at hb
      subst hb
      exact precedes_of_none hname fun heq => hmem (heq ▸ ha)
    | some i => exact inOrder_between hname hmem h

/-- The members of an object are in order. -/
theorem inOrder_orderMembers (members : List (Text × α)) : InOrder (orderMembers members) := by
  have hall : ∀ acc : List (Text × α), InOrder acc →
      InOrder (members.foldl (fun acc m => insertMember m.1 m.2 acc) acc) := by
    induction members with
    | nil => exact fun acc hacc => hacc
    | cons m members ih =>
      intro acc hacc
      exact ih _ (inOrder_insertMember m.1 m.2 hacc)
  exact hall [] List.Pairwise.nil

/-- A member that comes behind all others is put at their end. -/
lemma insertMember_of_precedes {m : Text × α} {members : List (Text × α)}
    (h : ∀ p ∈ members, Precedes p.1 m.1) :
    insertMember m.1 m.2 members = members ++ [m] := by
  have hnew : m.1 ∉ members.map Prod.fst := by
    intro hmem
    obtain ⟨p, hp, heq⟩ := List.mem_map.mp hmem
    exact (h p hp).ne heq
  rw [insertMember_of_notMem hnew]
  cases hm : arrayIndex? m.1 with
  | none => rfl
  | some i =>
    have hbelow : ∀ p ∈ members, isBelow i p = true := fun p hp =>
      (isBelow_iff_precedes hm).mpr (h p hp)
    simp only [List.takeWhile_eq_self_iff.mpr hbelow, List.dropWhile_eq_nil_iff.mpr hbelow]

/-- Members that are in order stay as they are. -/
theorem orderMembers_of_inOrder {members : List (Text × α)} (h : InOrder members) :
    orderMembers members = members := by
  -- Each member comes behind those that are there already.
  have hall : ∀ acc : List (Text × α), InOrder (acc ++ members) →
      members.foldl (fun acc m => insertMember m.1 m.2 acc) acc = acc ++ members := by
    clear h
    induction members with
    | nil =>
      intro acc _
      rw [List.foldl_nil, List.append_nil]
    | cons m members ih =>
      intro acc hacc
      have hbefore : ∀ p ∈ acc, Precedes p.1 m.1 := by
        intro p hp
        rw [InOrder, List.map_append] at hacc
        exact (List.pairwise_append.mp hacc).2.2 _ (List.mem_map_of_mem hp) _ List.mem_cons_self
      rw [List.foldl_cons, insertMember_of_precedes hbefore, ih _ (by rwa [List.append_assoc]),
        List.append_assoc]
      rfl
  exact hall [] h

/-- Is a name one that stays where it is written, as it is no array index? -/
def isNamed (m : Text × α) : Bool := (arrayIndex? m.1).isNone

/-- A new member that is no array index comes last, and the others keep their order. -/
lemma filter_insertMember {name : Text} {members : List (Text × α)}
    (h : name ∉ members.map Prod.fst) (value : α) :
    (insertMember name value members).filter isNamed
      = members.filter isNamed ++ [(name, value)].filter isNamed := by
  rw [insertMember_of_notMem h]
  cases hname : arrayIndex? name with
  | none => exact List.filter_append _ _
  | some i =>
    have hnamed : ¬ isNamed (name, value) = true := by
      rw [isNamed, hname]
      exact Bool.false_ne_true
    simp only
    rw [List.filter_append, List.filter_cons_of_neg hnamed, ← List.filter_append,
      List.takeWhile_append_dropWhile, List.filter_cons_of_neg hnamed, List.filter_nil,
      List.append_nil]

/-- Members with different names that are no array indexes keep their order. -/
theorem filter_orderMembers {members : List (Text × α)} (h : (members.map Prod.fst).Nodup) :
    (orderMembers members).filter isNamed = members.filter isNamed := by
  have hall : ∀ acc : List (Text × α), ((acc ++ members).map Prod.fst).Nodup →
      (members.foldl (fun acc m => insertMember m.1 m.2 acc) acc).filter isNamed
        = (acc ++ members).filter isNamed := by
    clear h
    induction members with
    | nil =>
      intro acc _
      rw [List.foldl_nil, List.append_nil]
    | cons m members ih =>
      intro acc hacc
      have hnew : m.1 ∉ acc.map Prod.fst := by
        rw [List.map_append] at hacc
        intro hmem
        exact List.disjoint_of_nodup_append hacc hmem List.mem_cons_self
      have hperm : (insertMember m.1 m.2 acc ++ members).Perm (acc ++ m :: members) :=
        ((insertMember_perm hnew m.2).append_right members).trans List.perm_middle.symm
      rw [List.foldl_cons, ih _ ((hperm.map Prod.fst).nodup_iff.mpr hacc), List.filter_append,
        filter_insertMember hnew, List.append_assoc, ← List.filter_append, ← List.filter_append]
      rfl
  exact hall [] h

end Json

end CallAtlas
