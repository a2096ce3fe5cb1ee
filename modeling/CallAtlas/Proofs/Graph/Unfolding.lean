import CallAtlas.Graph.CallStack
import CallAtlas.Proofs.Keys
import Mathlib.Data.List.Nodup
import Mathlib.Data.List.Flatten
import Mathlib.Data.List.NodupEquivFin

/-!
# Call unfoldings

The calls of a definition unfold into a tree: below a definition stand the definitions that its
calls may lead to, each with its own calls unfolded, down to a depth bound and until a definition
comes again on its own path. The tree is defined by recursion, with no queue and no numbers.

`CallUnfolding.listing` writes such a tree down level by level. The place of a node in the tree is
its address, the list of the choices that lead to it from the top; an entry of the listing
names its parent by the place of the parent's address. The level order lists every place once: the
addresses of one level are as long as the level is deep, and no two places have the same address. So
the position of a place in the level order can be told from its address, and a listing falls into
the listings of its levels.
-/

namespace CallAtlas

/-- A node of an unfolding without its status. -/
structure CallNode where
  /-- None for a name that no definition carries. -/
  definition : Option Definition
  /-- The call that led here; none for the top. -/
  callSite : Option CallSite
  calleeName : Text
  /-- The number of definitions that the name stands for. -/
  candidateCount : Nat
deriving DecidableEq

/-- A node with its status and the unfoldings below it. -/
inductive CallUnfolding where
  | node (top : CallNode) (status : CallStackStatus) (children : List CallUnfolding)

namespace CallNode

/-- What tells nodes below one caller apart: the key of a definition, or a name without one. -/
def identity (n : CallNode) : Text ⊕ Text :=
  match n.definition with
  | some d => .inl d.key
  | none => .inr n.calleeName

/-- The status of a node that may have a number of levels below it, where `above` holds the keys of
the definitions on the way from the top. -/
def statusAt (n : CallNode) (levels : Nat) (above : List Text) : CallStackStatus :=
  match n.definition with
  | none => .unresolved
  | some d =>
    if d.key ∈ above then .cyclic else if levels = 0 then .depthLimit else .expanded

/-- The node of a definition that nothing called. -/
def root (d : Definition) : CallNode := ⟨some d, none, d.name, 1⟩

end CallNode

namespace RepoModel

/-- What a call may lead to: every definition in the caller's language that carries the name, or
the name alone if there is none. -/
def candidatesAt (m : RepoModel) (language : Option Text) (site : CallSite) : List CallNode :=
  let found := (SymbolIndex.build m).resolve site.callee language
  if found.isEmpty then [⟨none, some site, site.callee, 0⟩]
  else found.map fun d => ⟨some d, some site, site.callee, found.length⟩

/-- What the calls of a definition lead to, one call after the other, each definition and each name
without one only where it first comes up. -/
def calleesOf (m : RepoModel) (d : Definition) : List CallNode :=
  firstsBy CallNode.identity
    (d.calls.flatMap (m.candidatesAt ((m.file? d.filePath).map FileModel.language)))

/-- The unfolding of a node with a number of levels below it. `above` holds the keys of the
definitions on the way from the top. -/
def unfold (m : RepoModel) : (levels : Nat) → (above : List Text) → CallNode → CallUnfolding
  | 0, above, n => .node n (n.statusAt 0 above) []
  | levels + 1, above, n =>
    .node n (n.statusAt (levels + 1) above)
      (match n.definition with
       | none => []
       | some d =>
         if d.key ∈ above then [] else (m.calleesOf d).map (m.unfold levels (d.key :: above)))

/-- The unfolding of the calls of a definition within a depth bound. -/
def callTree (m : RepoModel) (maxDepth : Nat) (d : Definition) : CallUnfolding :=
  m.unfold maxDepth [] (CallNode.root d)

end RepoModel

namespace CallUnfolding

/-- The node at the top. -/
def top : CallUnfolding → CallNode
  | node n _ _ => n

/-- The status of the node at the top. -/
def status : CallUnfolding → CallStackStatus
  | node _ s _ => s

/-- The unfoldings right below the top. -/
def children : CallUnfolding → List CallUnfolding
  | node _ _ us => us

/-! ## Level by level -/

/-- The way to a node from the top: which child to take at each step. -/
abbrev Address := List Nat

/-- The unfoldings right below a place, with their addresses. -/
def childrenAt (p : Address × CallUnfolding) : List (Address × CallUnfolding) :=
  p.2.children.zipIdx.map fun c => (p.1 ++ [c.2], c.1)

/-- The unfoldings that stand a number of levels below the top, with their addresses. -/
def level (u : CallUnfolding) : Nat → List (Address × CallUnfolding)
  | 0 => [([], u)]
  | n + 1 => (u.level n).flatMap childrenAt

mutual

/-- The number of levels below the top. -/
def height : CallUnfolding → Nat
  | node _ _ us => heightOfAll us

/-- The number of levels of some unfoldings. -/
def heightOfAll : List CallUnfolding → Nat
  | [] => 0
  | u :: us => max (height u + 1) (heightOfAll us)

end

/-- All places of an unfolding, level by level. -/
def levelOrder (u : CallUnfolding) : List (Address × CallUnfolding) :=
  (List.range (u.height + 1)).flatMap u.level

/-- The addresses of all places, level by level. -/
def addresses (u : CallUnfolding) : List Address := u.levelOrder.map Prod.fst

/-- The position of the parent of a place in the level order. -/
def parentIndex? (u : CallUnfolding) (a : Address) : Option Nat :=
  if a = [] then none else some (u.addresses.idxOf a.dropLast)

/-- The entry of a place that has a position in the level order. -/
def entryAt (u : CallUnfolding) (p : (Address × CallUnfolding) × Nat) : CallStackEntry :=
  { id := p.2
    parentId := u.parentIndex? p.1.1
    depth := p.1.1.length
    status := p.1.2.status
    definition := p.1.2.top.definition
    callSite := p.1.2.top.callSite
    calleeName := p.1.2.top.calleeName
    candidateCount := p.1.2.top.candidateCount }

/-- The entries of an unfolding, level by level. -/
def listing (u : CallUnfolding) : List CallStackEntry := u.levelOrder.zipIdx.map u.entryAt

/-! ## Addresses of one level -/

/-- A place of the next level stands right below one of this level. -/
lemma exists_of_mem_level_succ {u : CallUnfolding} {n : ℕ} {p : Address × CallUnfolding}
    (hp : p ∈ u.level (n + 1)) :
    ∃ q ∈ u.level n, ∃ c ∈ q.2.children.zipIdx, p = (q.1 ++ [c.2], c.1) := by
  rw [level, List.mem_flatMap] at hp
  obtain ⟨q, hq, hp⟩ := hp
  rw [childrenAt, List.mem_map] at hp
  obtain ⟨c, hc, rfl⟩ := hp
  exact ⟨q, hq, c, hc, rfl⟩

/-- An address is as long as its place is deep. -/
lemma length_of_mem_level {u : CallUnfolding} {n : ℕ} {p : Address × CallUnfolding}
    (hp : p ∈ u.level n) : p.1.length = n := by
  induction n generalizing p with
  | zero =>
    rw [level, List.mem_singleton] at hp
    rw [hp]
    rfl
  | succ n ih =>
    obtain ⟨q, hq, c, -, rfl⟩ := exists_of_mem_level_succ hp
    rw [List.length_append, ih hq]
    rfl

/-- The addresses right below a place follow from how many there are. -/
lemma map_fst_childrenAt (p : Address × CallUnfolding) :
    (childrenAt p).map Prod.fst = (List.range p.2.children.length).map fun i => p.1 ++ [i] := by
  rw [childrenAt, List.map_map, List.range_eq_range', ← List.zipIdx_map_snd 0 p.2.children,
    List.map_map]
  rfl

/-- No two places of one level have the same address. -/
lemma nodup_level (u : CallUnfolding) (n : ℕ) : ((u.level n).map Prod.fst).Nodup := by
  induction n with
  | zero => exact List.nodup_singleton _
  | succ n ih =>
    rw [level, List.map_flatMap, List.nodup_flatMap]
    constructor
    · intro p _
      rw [map_fst_childrenAt]
      refine List.nodup_range.map fun i j hij => ?_
      simpa using hij
    · -- Addresses below different places differ before their last step.
      refine (List.pairwise_map.mp ih).imp fun {p q} hpq => ?_
      show List.Disjoint ((childrenAt p).map Prod.fst) ((childrenAt q).map Prod.fst)
      rw [map_fst_childrenAt, map_fst_childrenAt]
      intro a hp hq
      obtain ⟨i, -, rfl⟩ := List.mem_map.mp hp
      obtain ⟨j, -, hj⟩ := List.mem_map.mp hq
      exact hpq (List.append_inj_left' hj rfl).symm

/-! ## The levels of an unfolding -/

lemma height_lt_of_mem {u : CallUnfolding} {us : List CallUnfolding} (hu : u ∈ us) :
    u.height + 1 ≤ heightOfAll us := by
  induction us with
  | nil => cases hu
  | cons v us ih =>
    rw [heightOfAll]
    rcases List.mem_cons.mp hu with rfl | hu
    · exact le_max_left _ _
    · exact (ih hu).trans (le_max_right _ _)

/-- What stands on some level is lower by as many levels than the whole. -/
lemma height_add_le_of_mem_level {u : CallUnfolding} {n : ℕ} {p : Address × CallUnfolding}
    (hp : p ∈ u.level n) : p.2.height + n ≤ u.height := by
  induction n generalizing p with
  | zero =>
    rw [level, List.mem_singleton] at hp
    rw [hp]
    rfl
  | succ n ih =>
    obtain ⟨q, hq, c, hc, rfl⟩ := exists_of_mem_level_succ hp
    have hheight : q.2.height = heightOfAll q.2.children := by
      obtain ⟨a, top, status, us⟩ := q
      rw [children, height]
    have hchild : c.1.height + 1 ≤ q.2.height := by
      rw [hheight]
      exact height_lt_of_mem (List.fst_mem_of_mem_zipIdx hc)
    have hq := ih hq
    change c.1.height + (n + 1) ≤ u.height
    omega

/-- There is nothing below the last level. -/
lemma level_eq_nil {u : CallUnfolding} {n : ℕ} (hn : u.height < n) : u.level n = [] := by
  rw [List.eq_nil_iff_forall_not_mem]
  intro p hp
  have := height_add_le_of_mem_level hp
  omega

/-- No two places have the same address. -/
lemma nodup_addresses (u : CallUnfolding) : u.addresses.Nodup := by
  rw [addresses, levelOrder, List.map_flatMap, List.nodup_flatMap]
  refine ⟨fun n _ => nodup_level u n, List.nodup_range.imp fun {i j} hij => ?_⟩
  intro a hi hj
  obtain ⟨p, hp, rfl⟩ := List.mem_map.mp hi
  obtain ⟨q, hq, hpq⟩ := List.mem_map.mp hj
  rw [← length_of_mem_level hp, ← length_of_mem_level hq, hpq] at hij
  exact hij rfl

/-! ## Positions in the level order -/

/-- The number of places above a level. -/
def before (u : CallUnfolding) (n : ℕ) : ℕ := ((List.range n).flatMap u.level).length

lemma before_succ (u : CallUnfolding) (n : ℕ) :
    u.before (n + 1) = u.before n + (u.level n).length := by
  rw [before, List.range_succ, List.flatMap_append, List.length_append]
  simp [before]

/-- The places of some levels are numbered level by level. -/
lemma zipIdx_levels (u : CallUnfolding) (k : ℕ) :
    ((List.range k).flatMap u.level).zipIdx
      = (List.range k).flatMap fun n => (u.level n).zipIdx (u.before n) := by
  induction k with
  | zero => rfl
  | succ k ih =>
    rw [List.range_succ, List.flatMap_append, List.flatMap_append, List.zipIdx_append, ih]
    simp [before]

/-- Further levels below the last one add nothing to the level order. -/
lemma levels_eq_levelOrder {u : CallUnfolding} {k : ℕ} (hk : u.height < k) :
    (List.range k).flatMap u.level = u.levelOrder := by
  -- Each of the levels that are too many is empty.
  obtain ⟨j, rfl⟩ := Nat.exists_eq_add_of_le hk
  induction j with
  | zero => rfl
  | succ j ih =>
    rw [← Nat.add_assoc, List.range_succ, List.flatMap_append, ih (by omega)]
    simp [level_eq_nil (show u.height < u.height.succ + j by omega)]

/-- The listing is the listing of the levels, one after the other. -/
lemma listing_eq_levels {u : CallUnfolding} {k : ℕ} (hk : u.height < k) :
    u.listing = (List.range k).flatMap fun n =>
      ((u.level n).zipIdx (u.before n)).map u.entryAt := by
  rw [listing, ← levels_eq_levelOrder hk, zipIdx_levels, List.map_flatMap]

/-- The number of a place is the position of its address. -/
lemma idxOf_addresses {u : CallUnfolding} {n i : ℕ} {p : Address × CallUnfolding}
    (hp : (p, i) ∈ (u.level n).zipIdx (u.before n)) : u.addresses.idxOf p.1 = i := by
  have hmem : (p, i) ∈ u.levelOrder.zipIdx := by
    rw [← levels_eq_levelOrder (show u.height < max n u.height + 1 by omega), zipIdx_levels]
    exact List.mem_flatMap.mpr ⟨n, List.mem_range.mpr (by omega), hp⟩
  rw [List.mk_mem_zipIdx_iff_getElem?, List.getElem?_eq_some_iff] at hmem
  obtain ⟨hi, hget⟩ := hmem
  have hlen : i < u.addresses.length := by
    rw [addresses, List.length_map]
    exact hi
  have haddr : u.addresses[i] = p.1 := by
    simp only [addresses, List.getElem_map, hget]
  -- No earlier place has this address.
  rw [← haddr]
  exact (nodup_addresses u).idxOf_getElem i hlen

end CallUnfolding

end CallAtlas
