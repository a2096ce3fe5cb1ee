import CallAtlas.Syntax.Tree
import Mathlib.Data.List.Basic
import Mathlib.Order.Basic

/-!
# Occurrences of nodes in a tree

The nodes of a tree have no names, and two of them may be alike. What tells a node apart is where it
occurs: the chain of the nodes that it lies in, up to the root. Where the range of each node holds
those of its children, the lines of a node lie among the lines of the nodes around it.
-/

namespace CallAtlas

namespace Syntax

/-! ## The order of points -/

/-- Points come by their rows, and in a row by their columns. -/
instance : Preorder Point where
  le a b := a.row < b.row ∨ a.row = b.row ∧ a.column ≤ b.column
  lt a b := a.row < b.row ∨ a.row = b.row ∧ a.column < b.column
  le_refl _ := .inr ⟨rfl, Nat.le_refl _⟩
  le_trans _ _ _ := by omega
  lt_iff_le_not_ge _ _ := by omega

lemma Point.le_iff {a b : Point} :
    a ≤ b ↔ a.row < b.row ∨ a.row = b.row ∧ a.column ≤ b.column :=
  Iff.rfl

lemma Point.lt_iff {a b : Point} :
    a < b ↔ a.row < b.row ∨ a.row = b.row ∧ a.column < b.column :=
  Iff.rfl

instance (a b : Point) : Decidable (a ≤ b) :=
  decidable_of_iff _ Point.le_iff.symm

instance (a b : Point) : Decidable (a < b) :=
  decidable_of_iff _ Point.lt_iff.symm

namespace Tree

/-! ## Induction and preorder -/

/-- What holds of a node as soon as it holds of its children holds of all trees. -/
theorem induction_children {P : Tree → Prop}
    (h : ∀ l cs, (∀ c ∈ cs, P c) → P (.node l cs)) : ∀ t, P t
  | .node l cs => h l cs fun c _ => induction_children h c

lemma preorderAllBefore_eq {ts : List Tree} (others : List Tree)
    (h : ∀ t ∈ ts, ∀ others, t.preorderBefore others = t.preorder ++ others) :
    preorderAllBefore others ts = ts.flatMap preorder ++ others := by
  induction ts with
  | nil => rfl
  | cons t ts ih =>
    obtain ⟨ht, hts⟩ := List.forall_mem_cons.mp h
    rw [preorderAllBefore, ih hts, ht, List.flatMap_cons, List.append_assoc]

lemma preorderBefore_eq (t : Tree) (others : List Tree) :
    t.preorderBefore others = t.preorder ++ others := by
  induction t using induction_children generalizing others with
  | h l cs ih =>
    rw [preorder, preorderBefore, preorderBefore, preorderAllBefore_eq others ih,
      preorderAllBefore_eq [] ih, List.append_nil, List.cons_append]

/-- A node comes before those below it, and these come child by child. -/
lemma preorder_node (l : Label) (cs : List Tree) :
    (node l cs).preorder = node l cs :: cs.flatMap preorder := by
  rw [preorder, preorderBefore, preorderAllBefore_eq [] fun t _ => preorderBefore_eq t,
    List.append_nil]

/-! ## Equality -/

mutual

/-- Are two trees the same? -/
def decideEq : (t u : Tree) → Decidable (t = u)
  | node l cs, node m ds =>
    have := decideEqAll cs ds
    decidable_of_iff (l = m ∧ cs = ds) (by rw [node.injEq])

/-- Are the trees of two lists the same? -/
def decideEqAll : (ts us : List Tree) → Decidable (ts = us)
  | [], [] => isTrue rfl
  | [], _ :: _ => isFalse fun h => nomatch h
  | _ :: _, [] => isFalse fun h => nomatch h
  | t :: ts, u :: us =>
    have := decideEq t u
    have := decideEqAll ts us
    decidable_of_iff (t = u ∧ ts = us) (by rw [List.cons.injEq])

end

instance : DecidableEq Tree := decideEq

/-! ## Occurrences -/

/-- An occurrence of a node: the node and those that it lies in, the nearest one first. -/
structure Occurrence where
  node : Tree
  above : List Tree
deriving DecidableEq

namespace Occurrence

/-- The occurrence of a child. -/
def child (o : Occurrence) (c : Tree) : Occurrence := ⟨c, o.node :: o.above⟩

/-- The node with those that it lies in. -/
def lineage (o : Occurrence) : List Tree := o.node :: o.above

/-- The occurrences of nodes each of which lies in the next one. -/
def ofLineage : List Tree → List Occurrence
  | [] => []
  | t :: ts => ⟨t, ts⟩ :: ofLineage ts

/-- The occurrences of the nodes that an occurrence lies in, the nearest one first. -/
def ancestors (o : Occurrence) : List Occurrence := ofLineage o.above

end Occurrence

mutual

/-- The occurrences of the nodes of a tree that lies in given nodes, each node before those below
it. -/
def occurrencesFrom (above : List Tree) : Tree → List Occurrence
  | node l cs => ⟨node l cs, above⟩ :: occurrencesIn (node l cs :: above) cs

/-- The occurrences of the nodes of several trees, one tree after the other. -/
def occurrencesIn (above : List Tree) : List Tree → List Occurrence
  | [] => []
  | t :: ts => t.occurrencesFrom above ++ occurrencesIn above ts

end

/-- The occurrences of the nodes of a tree, each node before those below it. -/
def occurrences (t : Tree) : List Occurrence := t.occurrencesFrom []

/-- The root occurs in a tree, and with a node each of its children. -/
inductive Occurs (t : Tree) : Occurrence → Prop
  | root : Occurs t ⟨t, []⟩
  | child {o : Occurrence} {c : Tree} : Occurs t o → c ∈ o.node.children → Occurs t (o.child c)

variable {t : Tree} {o : Occurrence} {above : List Tree}

lemma occurrencesIn_eq (above : List Tree) (ts : List Tree) :
    occurrencesIn above ts = ts.flatMap (occurrencesFrom above) := by
  induction ts with
  | nil => rfl
  | cons t ts ih => rw [occurrencesIn, ih, List.flatMap_cons]

lemma occurrencesFrom_node (above : List Tree) (l : Label) (cs : List Tree) :
    (node l cs).occurrencesFrom above
      = ⟨node l cs, above⟩ :: cs.flatMap (occurrencesFrom (node l cs :: above)) := by
  rw [occurrencesFrom, occurrencesIn_eq]

/-- The occurrences stand in preorder. -/
theorem map_node_occurrencesFrom (above : List Tree) (t : Tree) :
    (t.occurrencesFrom above).map Occurrence.node = t.preorder := by
  induction t using induction_children generalizing above with
  | h l cs ih =>
    rw [occurrencesFrom_node, preorder_node, List.map_cons, List.map_flatMap]
    congr 1
    exact List.flatMap_congr fun c hc => ih c hc _

/-- What occurs below a node has the node in its lineage. -/
lemma isSuffix_lineage (h : o ∈ t.occurrencesFrom above) : t :: above <:+ o.lineage := by
  induction t using induction_children generalizing above with
  | h l cs ih =>
    rw [occurrencesFrom_node] at h
    rcases List.mem_cons.mp h with rfl | h
    · exact List.suffix_rfl
    · obtain ⟨c, hc, ho⟩ := List.mem_flatMap.mp h
      exact (List.suffix_cons c _).trans (ih c hc ho)

/-- The root of a tree is the first of its nodes. -/
lemma self_mem_occurrencesFrom (above : List Tree) (t : Tree) :
    ⟨t, above⟩ ∈ t.occurrencesFrom above := by
  obtain ⟨l, cs⟩ := t
  rw [occurrencesFrom_node]
  exact List.mem_cons_self

/-- With a node its children occur among the same ones. -/
lemma child_mem_occurrencesFrom {c : Tree} (ho : o ∈ t.occurrencesFrom above)
    (hc : c ∈ o.node.children) : o.child c ∈ t.occurrencesFrom above := by
  induction t using induction_children generalizing above with
  | h l cs ih =>
    rw [occurrencesFrom_node] at ho ⊢
    apply List.mem_cons_of_mem
    rcases List.mem_cons.mp ho with rfl | ho
    · exact List.mem_flatMap.mpr ⟨c, hc, self_mem_occurrencesFrom _ c⟩
    · obtain ⟨d, hd, ho⟩ := List.mem_flatMap.mp ho
      exact List.mem_flatMap.mpr ⟨d, hd, ih d hd ho⟩

/-- The listed occurrences are those that there are. -/
theorem mem_occurrences_iff : o ∈ t.occurrences ↔ Occurs t o := by
  have hbelow : ∀ {u : Tree} {above : List Tree}, Occurs t ⟨u, above⟩ →
      ∀ p ∈ u.occurrencesFrom above, Occurs t p := by
    intro u
    induction u using induction_children with
    | h l cs ih =>
      intro above hu p hp
      rw [occurrencesFrom_node] at hp
      rcases List.mem_cons.mp hp with rfl | hp
      · exact hu
      · obtain ⟨c, hc, hp⟩ := List.mem_flatMap.mp hp
        exact ih c hc (hu.child hc) p hp
  constructor
  · exact fun h => hbelow .root o h
  · intro h
    induction h with
    | root => exact self_mem_occurrencesFrom [] t
    | child _ hc ih => exact child_mem_occurrencesFrom ih hc

/-- The nodes around a node occur as well. -/
lemma Occurs.of_mem_ancestors (h : Occurs t o) : ∀ p ∈ o.ancestors, Occurs t p := by
  induction h with
  | root => exact fun p hp => absurd hp List.not_mem_nil
  | child ho _ ih =>
    intro p hp
    rcases List.mem_cons.mp hp with rfl | hp
    · exact ho
    · exact ih p hp

/-! ## Ranges -/

/-- The range of each node holds the ranges of its children. -/
def HoldsChildren (t : Tree) : Prop :=
  ∀ n ∈ t.preorder, ∀ c ∈ n.children, n.startPoint ≤ c.startPoint ∧ c.stopPoint ≤ n.stopPoint

/-- Then it holds the ranges of all nodes below. -/
lemma HoldsChildren.of_mem_ancestors (h : t.HoldsChildren) (ho : Occurs t o) :
    ∀ p ∈ o.ancestors,
      p.node.startPoint ≤ o.node.startPoint ∧ o.node.stopPoint ≤ p.node.stopPoint := by
  induction ho with
  | root => exact fun p hp => absurd hp List.not_mem_nil
  | @child o c ho hc ih =>
    intro p hp
    have hmem : o.node ∈ t.preorder := by
      rw [← map_node_occurrencesFrom []]
      exact List.mem_map_of_mem (mem_occurrences_iff.mpr ho)
    obtain ⟨hstart, hstop⟩ := h o.node hmem c hc
    rcases List.mem_cons.mp hp with rfl | hp
    · exact ⟨hstart, hstop⟩
    · exact ⟨(ih p hp).1.trans hstart, hstop.trans (ih p hp).2⟩

end Tree

end Syntax

end CallAtlas
