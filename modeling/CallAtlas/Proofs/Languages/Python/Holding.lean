import CallAtlas.Proofs.Languages.Python.Scopes
import CallAtlas.Proofs.Model.Canonical

/-!
# Where the calls of a Python text are held

An outline keeps of a tree the lines of its functions and classes and the place of each call; which
node lies in which one is found again by comparing lines. Where the functions and classes of a tree
start on different lines and fit together, and the line of a call is not also on a line of one that
it does not lie in, nothing is lost: each call is held by the definition of the innermost function
or class around what it calls.
-/

namespace CallAtlas

namespace Outline

open Syntax LineRange

variable {outer t : Tree}

/-! ## The lines of nodes -/

/-- The lines of a node. -/
def range (t : Tree) : LineRange := ⟨startLine t, endLine t⟩

/-- The row on whose line a node ends. -/
def endRow (t : Tree) : ℕ :=
  if t.stopPoint.column = 0 ∧ t.startPoint.row < t.stopPoint.row then t.stopPoint.row - 1
  else t.stopPoint.row

lemma startLine_le_iff {r : ℕ} : startLine t ≤ ((r + 1 : ℕ) : ℤ) ↔ t.startPoint.row ≤ r := by
  rw [startLine, Int.cast_le, Int.ofNat_le, Nat.add_le_add_iff_right]

lemma le_endLine_iff {r : ℕ} : (((r + 1 : ℕ) : ℤ) : Number) ≤ endLine t ↔ r ≤ endRow t := by
  change (((r + 1 : ℕ) : ℤ) : Number) ≤ ((endRow t + 1 : ℕ) : ℤ) ↔ _
  rw [Int.cast_le, Int.ofNat_le, Nat.add_le_add_iff_right]

/-- A place behind the start of a node and before its end is on a line of the node. -/
lemma range_covers_startLine (hstart : outer.startPoint ≤ t.startPoint)
    (hstop : t.startPoint < outer.stopPoint) : (range outer).covers (startLine t) = true := by
  rw [Point.le_iff] at hstart
  rw [Point.lt_iff] at hstop
  refine covers_iff.mpr ⟨startLine_le_iff.mpr ?_, le_endLine_iff.mpr ?_⟩
  · omega
  · rw [endRow]
    split <;> omega

/-- A node that is not empty has a line. -/
lemma startLine_le_endLine (hextent : t.startPoint < t.stopPoint) : startLine t ≤ endLine t :=
  (covers_iff.mp (range_covers_startLine le_rfl hextent)).2

lemma one_le_startLine (t : Tree) : 1 ≤ startLine t := by
  rw [startLine]
  exact_mod_cast Nat.succ_pos t.startPoint.row

lemma startLine_inj {t u : Tree} :
    startLine t = startLine u ↔ t.startPoint.row = u.startPoint.row := by
  rw [startLine, startLine, Int.cast_inj, Int.ofNat_inj, Nat.add_right_cancel_iff]

end Outline

namespace Languages.Python

open Syntax Tree

variable {source : Source} {t : Tree} {o q x : Occurrence} {c : CallSite}

/-! ## Calls in a tree -/

/-- The occurrence of the identifier that the call at an occurrence calls. -/
def calleeAt (o : Occurrence) : Option Occurrence :=
  match o.node.child? "function" with
  | none => none
  | some f =>
    if f.kind == "identifier" then some (o.child f)
    else if f.kind == "attribute" then
      ((f.child? "attribute").filter fun a => a.kind == "identifier").map (o.child f).child
    else none

/-- The calls of a tree, each with the occurrence of what it calls. -/
def callsAt (source : Source) (t : Tree) : List (Occurrence × CallSite) :=
  t.occurrences.filterMap fun o =>
    (callOf source o.node).bind fun c => (calleeAt o).map fun x => (x, c)

/-- The function or class that an occurrence lies in, the innermost one. -/
def innermostAround (o : Occurrence) : Option Occurrence := o.ancestors.find? isDefinitionAt

/-- The functions and classes of a tree. -/
def definitionsIn (t : Tree) : List Occurrence := t.occurrences.filter isDefinitionAt

lemma map_node_calleeAt (o : Occurrence) : (calleeAt o).map Occurrence.node = calleeOf o.node := by
  unfold calleeAt calleeOf
  cases o.node.child? "function" with
  | none => rfl
  | some f =>
    dsimp only
    split
    · rfl
    · split
      · rw [Option.map_map]
        exact Option.map_id'
      · rfl

/-- What a call calls is an identifier with a text, and the call is on its line. -/
lemma exists_callee_of_callOf {n : Tree} (h : callOf source n = some c) :
    ∃ f, calleeOf n = some f ∧ f.text source ≠ [] ∧ c.line = Outline.startLine f := by
  unfold callOf at h
  split at h
  · cases h
  · split at h
    · cases h
    · next f hf =>
      dsimp only at h
      split at h
      · cases h
      · next hbare =>
        refine ⟨f, hf, ?_, ?_⟩
        · intro hempty
          rw [hempty] at hbare
          exact hbare rfl
        · rw [← Option.some.inj h]
          rfl

/-- The calls of a tree are those of its outline. -/
lemma map_snd_callsAt (source : Source) (t : Tree) :
    (callsAt source t).map Prod.snd = (outline source t).calls := by
  have hcalls : (outline source t).calls
      = t.occurrences.filterMap fun o => callOf source o.node := by
    change t.preorder.filterMap (callOf source) = _
    rw [← map_node_occurrencesFrom [] t, List.filterMap_map]
    rfl
  rw [hcalls, callsAt, List.map_filterMap]
  apply List.filterMap_congr
  intro o _
  cases hcall : callOf source o.node with
  | none => rfl
  | some c =>
    obtain ⟨f, hf, -, -⟩ := exists_callee_of_callOf hcall
    rw [← map_node_calleeAt] at hf
    obtain ⟨x, hx, -⟩ := Option.map_eq_some_iff.mp hf
    rw [Option.bind_some, hx]
    rfl

/-- The occurrence that is called lies in the tree. -/
lemma occurs_of_calleeAt (ho : Occurs t o) (hx : calleeAt o = some x) : Occurs t x := by
  have hchild : ∀ {n : Tree} {field : String} {f : Tree}, n.child? field = some f →
      f ∈ n.children :=
    fun hf => List.mem_of_find?_eq_some hf
  unfold calleeAt at hx
  split at hx
  · cases hx
  · next f hf =>
    split at hx
    · rw [← Option.some.inj hx]
      exact ho.child (hchild hf)
    · split at hx
      · obtain ⟨a, ha, rfl⟩ := Option.map_eq_some_iff.mp hx
        exact (ho.child (hchild hf)).child (hchild (Option.filter_eq_some_iff.mp ha).1)
      · cases hx

/-- A call with the occurrence of what it calls. -/
lemma exists_of_mem_callsAt (h : (x, c) ∈ callsAt source t) :
    Occurs t x ∧ x.node.text source ≠ [] ∧ c.line = Outline.startLine x.node := by
  obtain ⟨o, ho, hbind⟩ := List.mem_filterMap.mp h
  obtain ⟨d, hd, hmap⟩ := Option.bind_eq_some_iff.mp hbind
  obtain ⟨y, hy, hpair⟩ := Option.map_eq_some_iff.mp hmap
  obtain ⟨rfl, rfl⟩ := Prod.mk.inj hpair
  obtain ⟨f, hf, htext, hline⟩ := exists_callee_of_callOf hd
  rw [← map_node_calleeAt, hy] at hf
  obtain rfl := Option.some.inj hf
  exact ⟨occurs_of_calleeAt (mem_occurrences_iff.mp ho) hy, htext, hline⟩

/-! ## The innermost function or class -/

/-- Of functions and classes that an occurrence lies in, the innermost one lies in the others. -/
lemma eq_or_mem_ancestors_of_innermostAround (hq : innermostAround x = some q)
    (ho : o ∈ x.ancestors) (hdefinition : isDefinitionAt o = true) : o = q ∨ o ∈ q.ancestors := by
  have hall : ∀ lineage : List Tree,
      (Occurrence.ofLineage lineage).find? isDefinitionAt = some q →
      o ∈ Occurrence.ofLineage lineage → o = q ∨ o ∈ q.ancestors := by
    intro lineage
    induction lineage with
    | nil => exact fun hnone => nomatch hnone
    | cons n above ih =>
      intro hfind hmem
      rw [Occurrence.ofLineage, List.find?_cons] at hfind
      rw [Occurrence.ofLineage, List.mem_cons] at hmem
      split at hfind
      · obtain rfl := Option.some.inj hfind
        exact hmem
      · next hnone =>
        rcases hmem with rfl | hmem
        · rw [hdefinition] at hnone
          cases hnone
        · exact ih hfind hmem
  exact hall x.above hq ho

lemma mem_definitionsIn_iff : o ∈ definitionsIn t ↔ Occurs t o ∧ isDefinitionAt o = true := by
  rw [definitionsIn, List.mem_filter, mem_occurrences_iff]

/-! ## Trees that are laid out in lines -/

/-- What is asked of a tree so that lines tell which node lies in which one. -/
structure IsLaidOut (source : Source) (t : Tree) : Prop where
  /-- The range of each node holds the ranges of its children. -/
  holds : t.HoldsChildren
  /-- Points go with offsets, as in each tree that is read from a text: a node that holds units of
  the text ends behind the point at which it starts. -/
  extent : ∀ n ∈ t.preorder, n.label.start < n.label.stop → n.startPoint < n.stopPoint
  /-- All functions and classes have names. -/
  named : ∀ o ∈ definitionsIn t, (nameOf source o.node).isSome = true
  /-- No function or class is empty. -/
  nonempty : ∀ o ∈ definitionsIn t, o.node.startPoint < o.node.stopPoint
  /-- No two of them start on one line. -/
  rows : ((definitionsIn t).map fun o => o.node.startPoint.row).Nodup
  /-- The lines of two of them nest or lie apart. -/
  fits : (definitionsIn t).Pairwise fun o p => (Outline.range o.node).Fits (Outline.range p.node)
  /-- The line of what is called is on no line of one that it does not lie in. -/
  apart : ∀ e ∈ callsAt source t, ∀ o ∈ definitionsIn t,
    (Outline.range o.node).covers e.2.line = true → o ∈ e.1.ancestors

namespace IsLaidOut

variable (h : IsLaidOut source t)
include h

/-- Functions and classes of one tree are told apart by the lines on which they start. -/
lemma eq_of_row_eq (ho : o ∈ definitionsIn t) (hq : q ∈ definitionsIn t)
    (hrow : o.node.startPoint.row = q.node.startPoint.row) : o = q :=
  List.inj_on_of_nodup_map h.rows ho hq hrow

/-- The lines of a function or class are those around each place where a text in it begins. -/
lemma covers_of_mem_ancestors (hx : Occurs t x) (htext : x.node.text source ≠ [])
    (ho : o ∈ x.ancestors) :
    (Outline.range o.node).covers (Outline.startLine x.node) = true := by
  have hmem : x.node ∈ t.preorder := by
    rw [← map_node_occurrencesFrom []]
    exact List.mem_map_of_mem (mem_occurrences_iff.mpr hx)
  have hunits : x.node.label.start < x.node.label.stop := by
    by_contra hle
    apply htext
    rw [Tree.text, Source.slice, Array.toList_extract, List.extract_eq_take_drop,
      Nat.sub_eq_zero_of_le (Nat.not_lt.mp hle), List.take_zero]
  obtain ⟨hstart, hstop⟩ := h.holds.of_mem_ancestors hx o ho
  exact Outline.range_covers_startLine hstart ((h.extent _ hmem hunits).trans_le hstop)

/-- Of the functions and classes whose lines are around a call, the innermost one lies in the
others. -/
lemma eq_innermostAround (he : (x, c) ∈ callsAt source t) (hq : innermostAround x = some q)
    (ho : o ∈ definitionsIn t) (hcovers : (Outline.range o.node).covers c.line = true)
    (hinner : q.node.startPoint.row ≤ o.node.startPoint.row) : o = q := by
  obtain ⟨hx, -, -⟩ := exists_of_mem_callsAt he
  have hdefinition := (mem_definitionsIn_iff.mp ho).2
  have hqx : q ∈ x.ancestors := List.mem_of_find?_eq_some hq
  have hqt : Occurs t q := hx.of_mem_ancestors q hqx
  rcases eq_or_mem_ancestors_of_innermostAround hq (h.apart _ he o ho hcovers) hdefinition with
    heq | hmem
  · exact heq
  · -- An outer one would have to start on the same line.
    have houter := (h.holds.of_mem_ancestors hqt o hmem).1
    rw [Point.le_iff] at houter
    apply h.eq_of_row_eq ho (mem_definitionsIn_iff.mpr ⟨hqt, List.find?_some hq⟩)
    omega

/-- All functions and classes are declared. -/
lemma declarations_eq_map :
    (outline source t).declarations = (definitionsIn t).map (declarationAt source) := by
  have hdeclared : t.occurrences.filter (isDeclaredAt source) = definitionsIn t := by
    apply List.filter_congr
    intro o ho
    rw [isDeclaredAt, Bool.and_eq_left_iff_imp]
    exact fun hdefinition => h.named o (List.mem_filter.mpr ⟨ho, hdefinition⟩)
  rw [declarations_outline_eq, hdeclared]

end IsLaidOut

/-! ## The definitions of a tree -/

open Assembly

/-- The calls whose callee has the given occurrence around it as the innermost function or class, or
none. -/
def callsWithin (source : Source) (t : Tree) (owner : Option Occurrence) : List CallSite :=
  ((callsAt source t).filter fun e => innermostAround e.1 = owner).map Prod.snd

/-- The functions and classes of a tree in the order of their lines. -/
def definitionsByLine (source : Source) (t : Tree) : List Occurrence :=
  (definitionsIn t).mergeSort fun o p =>
    outerFirst (declarationAt source o) (declarationAt source p)

lemma mem_definitionsByLine : o ∈ definitionsByLine source t ↔ o ∈ definitionsIn t :=
  List.mem_mergeSort

section Assembled

variable (h : IsLaidOut source t) {lineCount : Number}
  (hlast : ∀ o ∈ definitionsIn t, Outline.endLine o.node ≤ max 1 lineCount)
include h hlast

/-- All functions and classes become definitions. -/
lemma settle_declarations :
    settle lineCount (outline source t).declarations
      = (definitionsByLine source t).map (declarationAt source) := by
  rw [h.declarations_eq_map, definitionsByLine,
    List.map_mergeSort (s := outerFirst) fun _ _ _ _ => rfl]
  apply settle_eq_order
  · intro d hd
    obtain ⟨o, ho, rfl⟩ := List.mem_map.mp hd
    exact ⟨Outline.one_le_startLine _, Outline.startLine_le_endLine (h.nonempty o ho), hlast o ho⟩
  · rw [List.Nodup, List.pairwise_map, List.pairwise_map]
    apply (List.pairwise_map.mp h.rows).imp
    intro o p hne heq
    exact hne (Outline.startLine_inj.mp (congrArg (fun i => i.2.2.first) heq))
  · rw [List.pairwise_map]
    exact h.fits

lemma mem_settle_iff {d : Declaration} :
    d ∈ settle lineCount (outline source t).declarations
      ↔ ∃ o ∈ definitionsIn t, declarationAt source o = d := by
  rw [settle_declarations h hlast, List.mem_map]
  simp only [mem_definitionsByLine]

/-- A call is outside all definitions if it lies in no function or class. -/
lemma ownerOf_eq_none (he : (x, c) ∈ callsAt source t) (hnone : innermostAround x = none) :
    ownerOf (settle lineCount (outline source t).declarations) c = none := by
  rw [ownerOf_settle_eq_none_iff]
  intro d hd
  obtain ⟨o, ho, rfl⟩ := (mem_settle_iff h hlast).mp hd
  rw [← Bool.not_eq_true]
  intro hcovers
  have hancestor := h.apart _ he o ho hcovers
  exact List.find?_eq_none.mp hnone o hancestor (mem_definitionsIn_iff.mp ho).2

/-- A call belongs to the innermost function or class around what it calls. -/
lemma exists_ownerOf (he : (x, c) ∈ callsAt source t) (hq : innermostAround x = some q) :
    q ∈ definitionsIn t
      ∧ ∃ i, (ownerOf (settle lineCount (outline source t).declarations) c).map Prod.snd = some i
        ∧ (settle lineCount (outline source t).declarations)[i]?
            = some (declarationAt source q) := by
  obtain ⟨hx, htext, hline⟩ := exists_of_mem_callsAt he
  have hqx : q ∈ x.ancestors := List.mem_of_find?_eq_some hq
  have hqt : q ∈ definitionsIn t :=
    mem_definitionsIn_iff.mpr ⟨hx.of_mem_ancestors q hqx, List.find?_some hq⟩
  have hcovers : (declarationAt source q).range.covers c.line = true := by
    rw [hline]
    exact h.covers_of_mem_ancestors hx htext hqx
  have hmem := (mem_settle_iff h hlast).mpr ⟨q, hqt, rfl⟩
  refine ⟨hqt, ?_⟩
  cases howner : (ownerOf (settle lineCount (outline source t).declarations) c).map Prod.snd with
  | none =>
    rw [Option.map_eq_none_iff, ownerOf_settle_eq_none_iff] at howner
    rw [howner _ hmem] at hcovers
    cases hcovers
  | some i =>
    obtain ⟨d, hd, hdcovers, hothers⟩ := owner_spec howner
    obtain ⟨o, ho, rfl⟩ := (mem_settle_iff h hlast).mp (List.mem_of_getElem? hd)
    obtain ⟨j, hj⟩ := List.mem_iff_getElem?.mp hmem
    -- The owner begins no earlier than the innermost definition around the call, so it is this one.
    have hfirst : Outline.startLine q.node ≤ Outline.startLine o.node :=
      (hothers j _ hj hcovers).1.1
    rw [h.eq_innermostAround he hq ho hdcovers (Outline.startLine_le_iff.mp hfirst)] at hd
    exact ⟨i, rfl, hd⟩

/-- The calls of a number of a definition are those within the occurrence that it stands for. -/
lemma callsOf_eq {number : Option ℕ} {owner : Option Occurrence}
    (howner : ∀ q ∈ definitionsIn t, ∀ i,
      (settle lineCount (outline source t).declarations)[i]? = some (declarationAt source q) →
        (some i = number ↔ some q = owner))
    (hnone : number = none ↔ owner = none) :
    callsOf (settle lineCount (outline source t).declarations) (outline source t).calls number
      = orderCalls (callsWithin source t owner) := by
  rw [callsOf, callsWithin, ← map_snd_callsAt, List.filter_map]
  congr 2
  apply List.filter_congr
  rintro ⟨x, c⟩ he
  rw [Function.comp_apply, Bool.eq_iff_iff, beq_iff_eq, decide_eq_true_eq]
  cases hinnermost : innermostAround x with
  | none =>
    rw [ownerOf_eq_none h hlast he hinnermost, Option.map_none, eq_comm, hnone, eq_comm]
  | some q =>
    obtain ⟨hq, i, hnumber, hi⟩ := exists_ownerOf h hlast he hinnermost
    rw [hnumber]
    exact howner q hq i hi

/-- The calls of a definition are those within its function or class. -/
lemma callsOf_some {i : ℕ} (ho : (definitionsByLine source t)[i]? = some o) :
    callsOf (settle lineCount (outline source t).declarations) (outline source t).calls (some i)
      = orderCalls (callsWithin source t (some o)) := by
  have hot := mem_definitionsByLine.mp (List.mem_of_getElem? ho)
  have hnodup := (nodup_map_identity_settle lineCount (outline source t).declarations).of_map
  have hi : (settle lineCount (outline source t).declarations)[i]?
      = some (declarationAt source o) := by
    rw [settle_declarations h hlast, List.getElem?_map, ho, Option.map_some]
  apply callsOf_eq h hlast
  · intro q hq j hj
    rw [Option.some_inj, Option.some_inj]
    constructor
    · rintro rfl
      have heq : declarationAt source q = declarationAt source o :=
        Option.some.inj (hj.symm.trans hi)
      exact h.eq_of_row_eq hq hot (Outline.startLine_inj.mp (congrArg Declaration.startLine heq))
    · rintro rfl
      obtain ⟨hlt, -⟩ := List.getElem?_eq_some_iff.mp hj
      exact (List.getElem?_inj hlt hnodup).mp (hj.trans hi.symm)
  · exact iff_of_false (fun hnone => nomatch hnone) fun hnone => nomatch hnone

/-- The calls of the module are those within no function or class. -/
lemma callsOf_none :
    callsOf (settle lineCount (outline source t).declarations) (outline source t).calls none
      = orderCalls (callsWithin source t none) := by
  apply callsOf_eq h hlast
  · intro q _ i _
    exact iff_of_false (fun hnone => nomatch hnone) fun hnone => nomatch hnone
  · exact iff_of_true rfl rfl

/-- The definitions of functions and classes, each with the calls within it. -/
lemma declaredDefinitions_eq (filePath : Text) :
    declaredDefinitions filePath (settle lineCount (outline source t).declarations)
        (outline source t).calls
      = (definitionsByLine source t).map fun o =>
          define filePath (declarationAt source o)
            (orderCalls (callsWithin source t (some o))) := by
  have hnumbered : (settle lineCount (outline source t).declarations).zipIdx
      = (definitionsByLine source t).zipIdx.map (Prod.map (declarationAt source) id) := by
    rw [settle_declarations h hlast, List.zipIdx_map]
  conv_rhs => rw [← List.zipIdx_map_fst 0 (definitionsByLine source t)]
  rw [declaredDefinitions, hnumbered, List.map_map, List.map_map]
  apply List.map_congr_left
  intro p hp
  have hcalls := callsOf_some h hlast (List.mem_zipIdx_iff_getElem?.mp hp)
  rw [Function.comp_apply, Function.comp_apply, Prod.map_fst, Prod.map_snd, id_eq, hcalls]

end Assembled

/-! ## The calls of a class with a method -/

/-- A call of the name `_`. -/
def underscoreSite (row column : ℕ) : CallSite :=
  ⟨[Text.unit '_'], [Text.unit '_'], ((row + 1 : ℕ) : ℤ), ((column : ℕ) : ℤ)⟩

lemma callOf_unitCall {offset : ℕ} (row column : ℕ)
    (h : source.slice offset (offset + 1) = [Text.unit '_']) :
    callOf source (unitCall offset row column) = some (underscoreSite row column) := by
  -- The tables of letters are too large to look the name up in them.
  have hbare : Text.isBareIdentifier [Text.unit '_'] = true := by
    change (Text.opensName '_'.toNat && true) = true
    rw [Text.opensName, beq_self_eq_true, Bool.or_true, Bool.true_or, Bool.and_true]
  have htext : (unitIdentifier "function" offset row column).text source = [Text.unit '_'] := h
  have hcallee : calleeOf (unitCall offset row column)
      = some (unitIdentifier "function" offset row column) := rfl
  have hfunction : (unitCall offset row column).child? "function"
      = some (unitIdentifier "function" offset row column) := rfl
  have hkind : ¬((unitCall offset row column).kind != "call") = true := fun hne => nomatch hne
  rw [callOf, if_neg hkind, hcallee, hfunction]
  simp only [htext, hbare]
  rfl

/-- Only nodes of one kind make calls. -/
lemma callsAt_eq_filterMap (source : Source) (t : Tree) :
    callsAt source t
      = (t.occurrences.filter fun o => o.node.kind == "call").filterMap fun o =>
          (callOf source o.node).bind fun c => (calleeAt o).map fun x => (x, c) := by
  rw [callsAt, List.filterMap_filter]
  apply List.filterMap_congr
  intro o _
  split
  · rfl
  · next hkind =>
    rw [Bool.not_eq_true] at hkind
    have hnone : callOf source o.node = none := if_pos (by rw [bne, hkind, Bool.not_false])
    rw [hnone, Option.bind_none]

lemma callsAt_methodTree :
    callsAt methodSource methodTree
      = [((Occurrence.mk (unitCall 34 2 8) [methodNode, classNode, methodTree]).child
            (unitIdentifier "function" 34 2 8), underscoreSite 2 8),
        ((Occurrence.mk (unitCall 38 3 0) [methodTree]).child
            (unitIdentifier "function" 38 3 0), underscoreSite 3 0)] := by
  have hoccurrences : (methodTree.occurrences.filter fun o => o.node.kind == "call")
      = [⟨unitCall 34 2 8, [methodNode, classNode, methodTree]⟩,
        ⟨unitCall 38 3 0, [methodTree]⟩] := by decide +kernel
  have hinner : callOf methodSource (unitCall 34 2 8) = some (underscoreSite 2 8) :=
    callOf_unitCall 2 8 (by decide +kernel)
  have houter : callOf methodSource (unitCall 38 3 0) = some (underscoreSite 3 0) :=
    callOf_unitCall 3 0 (by decide +kernel)
  rw [callsAt_eq_filterMap, hoccurrences, List.filterMap_cons_some, List.filterMap_cons_some,
    List.filterMap_nil]
  · rw [houter]
    rfl
  · rw [hinner]
    rfl

lemma definitionsIn_methodTree :
    definitionsIn methodTree = [classOccurrence, methodOccurrence] := by
  decide +kernel

lemma isLaidOut_methodTree : IsLaidOut methodSource methodTree where
  holds := by
    unfold HoldsChildren
    decide +kernel
  extent := by decide +kernel
  named := by decide +kernel
  nonempty := by decide +kernel
  rows := by decide +kernel
  fits := by
    unfold LineRange.Fits LineRange.Apart LineRange.Contains
    decide +kernel
  apart := by
    rw [callsAt_methodTree]
    decide +kernel

lemma callsWithin_methodTree :
    callsWithin methodSource methodTree (some classOccurrence) = []
      ∧ callsWithin methodSource methodTree (some methodOccurrence) = [underscoreSite 2 8]
      ∧ callsWithin methodSource methodTree none = [underscoreSite 3 0] := by
  unfold callsWithin
  rw [callsAt_methodTree]
  decide +kernel

/-! ## Who holds the calls of a tree -/

/-- In a tree that is laid out in lines every function and class becomes a definition, and it holds
the calls whose callee it is the innermost function or class around. The calls of what lies in no
function or class are held by the definition of the module, which is there if there are such
calls. -/
theorem definitions_outline {lineCount : Number} (h : IsLaidOut source t)
    (hlast : ∀ o ∈ definitionsIn t, Outline.endLine o.node ≤ max 1 lineCount) (filePath : Text) :
    let ds := Assembly.definitions filePath lineCount (outline source t).declarations
      (outline source t).calls
    (ds.filter fun d => !d.isModule).Perm
        ((definitionsIn t).map fun o =>
          define filePath (declarationAt source o) (orderCalls (callsWithin source t (some o))))
    ∧ ds.filter Definition.isModule
        = if callsWithin source t none = [] then []
          else [moduleDefinition filePath lineCount (orderCalls (callsWithin source t none))] := by
  intro ds
  constructor
  · rw [filter_definitions, declaredDefinitions_eq h hlast]
    exact (List.mergeSort_perm (definitionsIn t) _).map _
  · have hempty : (orderCalls (callsWithin source t none)).isEmpty = true
        ↔ callsWithin source t none = [] := by
      rw [orderCalls, (List.mergeSort_perm _ callBefore).isEmpty_eq, List.isEmpty_iff]
    rw [filter_isModule_definitions, moduleDefinitions, callsOf_none h hlast]
    exact if_congr hempty rfl rfl

/-- The call in the method is held by the method and not by the class. The one on the row where both
of them end is held by the module. -/
theorem definitions_outline_method :
    IsLaidOut methodSource methodTree
    ∧ (∀ o ∈ definitionsIn methodTree, Outline.endLine o.node ≤ max 1 ((4 : ℤ) : Number))
    ∧ let filePath := Text.ofString "a.py"
      let ds := Assembly.definitions filePath ((4 : ℤ) : Number)
        (outline methodSource methodTree).declarations (outline methodSource methodTree).calls
      (ds.filter fun d => !d.isModule).Perm
          [define filePath (declarationAt methodSource classOccurrence) [],
            define filePath (declarationAt methodSource methodOccurrence) [underscoreSite 2 8]]
      ∧ ds.filter Definition.isModule
          = [moduleDefinition filePath ((4 : ℤ) : Number) [underscoreSite 3 0]] := by
  have hlast : ∀ o ∈ definitionsIn methodTree,
      Outline.endLine o.node ≤ max 1 ((4 : ℤ) : Number) := by decide +kernel
  refine ⟨isLaidOut_methodTree, hlast, ?_⟩
  obtain ⟨hclass, hmethod, hmodule⟩ := callsWithin_methodTree
  obtain ⟨hkept, hheld⟩ :=
    definitions_outline isLaidOut_methodTree hlast (Text.ofString "a.py")
  rw [definitionsIn_methodTree, List.map_cons, List.map_singleton, hclass, hmethod, orderCalls,
    List.mergeSort_nil, orderCalls, List.mergeSort_singleton] at hkept
  rw [hmodule, if_neg (List.cons_ne_nil _ _), orderCalls, List.mergeSort_singleton] at hheld
  exact ⟨hkept, hheld⟩

end Languages.Python

end CallAtlas
