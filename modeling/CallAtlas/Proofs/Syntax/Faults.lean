import CallAtlas.Languages.Adapter
import CallAtlas.Proofs.Syntax.Occurrences

/-!
# The line of a syntax error

The search for the node that a syntax error is reported at goes down from the root and enters the
first child that has an error, without a look at the others. It stops at an error node, although
there may be further faults inside, and goes on at any other node. Where the flags of the nodes tell
the truth this finds the first fault of all in preorder, and where nodes start in preorder no fault
stands on an earlier line.
-/

namespace CallAtlas

namespace Syntax.Tree

/-! ## Faults that are seen -/

/-- Is the fault seen in the root itself: is it an error node or a missing token? -/
def showsFault (t : Tree) : Bool := t.isError || t.label.missing

/-- The flags of a tree tell the truth: a node has an error exactly if a fault is seen in it or
below it, and nothing is below a missing token. -/
structure IsTruthful (t : Tree) : Prop where
  hasError_iff : ∀ n ∈ t.preorder, n.hasError ↔ ∃ m ∈ n.preorder, m.showsFault
  children_of_missing : ∀ n ∈ t.preorder, n.label.missing → n.children = []

/-- The nodes of a tree start one after the other. -/
def StartsInOrder (t : Tree) : Prop :=
  t.preorder.Pairwise fun n m => n.startPoint ≤ m.startPoint

/-- The nodes of a tree but its root. -/
def belowRoot (t : Tree) : List Tree := t.preorder.tail

/-- The line on which a node starts, counted from one. -/
def startLine (t : Tree) : Nat := t.startPoint.row + 1

/-- The lines on which the nodes start in which a fault is seen, the root left out. -/
def faultLines (t : Tree) : List Nat := (t.belowRoot.filter showsFault).map startLine

variable {l : Label} {cs ts : List Tree} {t c : Tree}

lemma belowRoot_node (l : Label) (cs : List Tree) :
    (node l cs).belowRoot = cs.flatMap preorder := by
  rw [belowRoot, preorder_node, List.tail_cons]

lemma preorder_eq_cons (t : Tree) : t.preorder = t :: t.belowRoot := by
  obtain ⟨l, cs⟩ := t
  rw [belowRoot_node, preorder_node]

lemma self_mem_preorder (t : Tree) : t ∈ t.preorder := by
  rw [preorder_eq_cons]
  exact List.mem_cons_self

lemma mem_preorder_of_mem_child {n : Tree} (hc : c ∈ cs) (hn : n ∈ c.preorder) :
    n ∈ (node l cs).preorder := by
  rw [preorder_node]
  exact List.mem_cons_of_mem _ (List.mem_flatMap.mpr ⟨c, hc, hn⟩)

lemma IsTruthful.child (h : (node l cs).IsTruthful) (hc : c ∈ cs) : c.IsTruthful where
  hasError_iff n hn := h.hasError_iff n (mem_preorder_of_mem_child hc hn)
  children_of_missing n hn := h.children_of_missing n (mem_preorder_of_mem_child hc hn)

/-! ## The node that is reported -/

/-- A node that shows a fault and is no error node is a missing token. -/
lemma missing_of_showsFault (h : t.showsFault) (hkind : ¬ t.isError) : t.label.missing := by
  rw [showsFault, Bool.or_eq_true] at h
  exact h.resolve_left hkind

lemma firstError_eq (t : Tree) : t.firstError = (firstErrorIn t.children).getD t := by
  obtain ⟨l, cs⟩ := t
  rw [firstError, children]

/-- In a tree that stands before others the search finds the first fault, if there is one, and goes
on to the others if there is none. -/
lemma firstErrorIn_cons (h : t.IsTruthful)
    (ih : firstErrorIn t.children = t.belowRoot.find? showsFault) :
    firstErrorIn (t :: ts) = (t.preorder.find? showsFault).or (firstErrorIn ts) := by
  have hself : t.hasError ↔ ∃ m ∈ t.preorder, m.showsFault :=
    h.hasError_iff t (self_mem_preorder t)
  rw [firstErrorIn, firstError_eq, preorder_eq_cons]
  by_cases hroot : t.showsFault
  · rw [List.find?_cons_of_pos hroot, Option.some_or]
    by_cases hkind : t.isError
    · rw [if_pos hkind]
    · -- The walk does not stop at a missing token, but from there it has nowhere to go.
      have hleaf : t.children = [] :=
        h.children_of_missing t (self_mem_preorder t) (missing_of_showsFault hroot hkind)
      rw [if_neg hkind, if_pos (hself.mpr ⟨t, self_mem_preorder t, hroot⟩), hleaf, firstErrorIn,
        Option.getD_none]
  · have hkind : ¬ t.isError := by
      intro hkind
      exact hroot (by rw [showsFault, hkind, Bool.true_or])
    have hfound : t.hasError ↔ (firstErrorIn t.children).isSome := by
      rw [hself, ih, List.find?_isSome, preorder_eq_cons, List.exists_mem_cons_iff]
      exact or_iff_right hroot
    rw [List.find?_cons_of_neg hroot, ← ih, if_neg hkind]
    cases hfirst : firstErrorIn t.children with
    | none => rw [if_neg (by rw [hfound, hfirst]; exact Bool.false_ne_true), Option.none_or]
    | some n => rw [if_pos (by rw [hfound, hfirst]; rfl), Option.getD_some, Option.some_or]

/-- Among trees that tell the truth the search finds the first fault of all. -/
lemma firstErrorIn_eq_find? (h : ∀ t ∈ ts, t.IsTruthful)
    (ih : ∀ t ∈ ts, firstErrorIn t.children = t.belowRoot.find? showsFault) :
    firstErrorIn ts = (ts.flatMap preorder).find? showsFault := by
  induction ts with
  | nil => rfl
  | cons t ts ihts =>
    obtain ⟨ht, hts⟩ := List.forall_mem_cons.mp h
    obtain ⟨iht, ihs⟩ := List.forall_mem_cons.mp ih
    rw [firstErrorIn_cons ht iht, ihts hts ihs, List.flatMap_cons, List.find?_append]

/-- The node that is reported below the root is the first one in preorder that shows a fault. -/
theorem firstErrorIn_children (h : t.IsTruthful) :
    firstErrorIn t.children = t.belowRoot.find? showsFault := by
  induction t using induction_children with
  | h l cs ih =>
    have hchildren : ∀ c ∈ cs, c.IsTruthful := fun c hc => h.child hc
    rw [belowRoot_node]
    exact firstErrorIn_eq_find? hchildren fun c hc => ih c hc (hchildren c hc)

/-! ## The line that is reported -/

/-- Where nodes start in order, the first of their lines is the smallest one. -/
lemma min?_faultLines (h : t.StartsInOrder) :
    t.faultLines.min? = (t.belowRoot.find? showsFault).map startLine := by
  have hsorted : t.faultLines.Pairwise fun a b => min a b = a := by
    have hbelow : t.belowRoot.Pairwise fun n m => n.startPoint ≤ m.startPoint :=
      h.sublist (List.tail_sublist _)
    refine List.Pairwise.map startLine (fun n m hle => ?_) (hbelow.filter showsFault)
    rw [Point.le_iff] at hle
    rw [startLine, startLine]
    omega
  rw [List.min?_eq_head? hsorted, faultLines, List.head?_map, List.head?_filter]

/-- The line that is reported is the smallest one on which a fault is seen below the root, and the
line of the root if there is none. -/
lemma startLine_firstError (htruthful : t.IsTruthful) (horder : t.StartsInOrder) :
    t.firstError.startLine = t.faultLines.min?.getD t.startLine := by
  rw [min?_faultLines horder, ← firstErrorIn_children htruthful, firstError_eq]
  cases firstErrorIn t.children with
  | none => rfl
  | some n => rfl

end Syntax.Tree

namespace Adapter

open Syntax

variable {t : Tree}

/-- Where the nodes of a tree start in preorder and their flags tell the truth, the syntax error
that is reported for the tree is on the smallest line on which an error node or a missing token
other than the root starts, and on the line of the root if there is no such node. -/
theorem accept_of_hasError (horder : t.StartsInOrder) (htruthful : t.IsTruthful)
    (herror : t.hasError) :
    accept t = .error (.failure (Failure.syntaxNear (t.faultLines.min?.getD t.startLine)))
    ∧ ∀ language source, language.parse source = t →
      parse language source
        = .error (.failure (Failure.syntaxNear (t.faultLines.min?.getD t.startLine))) := by
  have haccept : accept t
      = .error (.failure (Failure.syntaxNear (t.faultLines.min?.getD t.startLine))) := by
    rw [accept, if_pos herror, ← Tree.startLine_firstError htruthful horder]
    rfl
  refine ⟨haccept, ?_⟩
  rintro language source rfl
  exact haccept

/-- A tree with a sound part on its first line, a call without its closing parenthesis, which would
stand on the third line, and an error node on the fourth that lacks a token as well. -/
def unclosedCall : Tree :=
  let mark (kind : String) (row column : Nat) : Label :=
    { kind, start := 0, stop := 0, startPoint := ⟨row, column⟩, stopPoint := ⟨row, column⟩ }
  .node (mark "module" 0 0)
    [.node (mark "identifier" 0 0) [],
      .node (mark "call" 1 0)
        [.node (mark "identifier" 1 0) [], .node { mark ")" 2 4 with missing := true } []],
      .node (mark Tree.errorKind 3 0) [.node { mark "identifier" 3 2 with missing := true } []]]

/-- The token that is missing on the third line is reported, before all that is wrong further
down. -/
theorem accept_of_hasError_unclosedCall :
    unclosedCall.StartsInOrder ∧ unclosedCall.IsTruthful ∧ unclosedCall.hasError
    ∧ accept unclosedCall = .error (.failure (Failure.syntaxNear 3)) := by
  have horder : unclosedCall.StartsInOrder := by
    unfold Tree.StartsInOrder
    decide +kernel
  have htruthful : unclosedCall.IsTruthful := ⟨by decide +kernel, by decide +kernel⟩
  have herror : unclosedCall.hasError := by decide +kernel
  refine ⟨horder, htruthful, herror, ?_⟩
  have hline : unclosedCall.faultLines.min?.getD unclosedCall.startLine = 3 := by decide +kernel
  rw [← hline]
  exact (accept_of_hasError horder htruthful herror).1

end Adapter

end CallAtlas
