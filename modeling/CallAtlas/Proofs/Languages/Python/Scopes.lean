import CallAtlas.Languages.Python.Outline
import CallAtlas.Proofs.Syntax.Occurrences
import CallAtlas.Proofs.Text.Pieces

/-!
# What a Python text declares

The scope that is handed down a tree is a property of the nodes above: of the classes inside the
innermost function. So the declarations of a tree are those of its function and class nodes with a
name, one for each of them in the order of the tree, and a function is a method if it has a class
around it with no function in between.
-/

namespace CallAtlas

namespace Languages.Python

open Syntax Tree

/-! ## Definitions in a tree -/

/-- Is the node a function? -/
def isFunction (t : Tree) : Bool := t.kind == "function_definition"

/-- Is the node a class? -/
def isClass (t : Tree) : Bool := t.kind == "class_definition"

/-- Is the node a function or a class? -/
def isDefinition (t : Tree) : Bool := isFunction t || isClass t

/-- The name of a node. -/
def nameOf (source : Source) (t : Tree) : Option Text := Outline.childText source t "name"

/-- The name of a node that is a class. -/
def classNameOf (source : Source) (t : Tree) : Option Text :=
  if isClass t then nameOf source t else none

/-- Does a node occur below the root, and are it and all nodes between it and the root named?
Anonymous nodes are tokens, in which nothing is declared. -/
def isReached (o : Occurrence) : Bool := !o.above.isEmpty && o.lineage.dropLast.all Tree.named

/-- Is what occurs a function or a class? -/
def isDefinitionAt (o : Occurrence) : Bool := isReached o && isDefinition o.node

/-- Is what occurs a function or a class with a name? -/
def isDeclaredAt (source : Source) (o : Occurrence) : Bool :=
  isDefinitionAt o && (nameOf source o.node).isSome

/-- The names of the classes among nodes each of which lies in the next one, up to the first
function, the outermost class first. -/
def classesIn (source : Source) (chain : List Tree) : List Text :=
  ((chain.takeWhile fun n => !isFunction n).filterMap (classNameOf source)).reverse

/-- These names with dots between them, if there are any. -/
def classPath (source : Source) (chain : List Tree) : Option Text :=
  if classesIn source chain = [] then none
  else some (Text.join [Text.dot] (classesIn source chain))

/-- The declaration of a function or class that occurs, by the nodes that it lies in below the
root. -/
def declarationAt (source : Source) (o : Occurrence) : Declaration :=
  let className := classPath source o.above.dropLast
  { kind := if isClass o.node then .class else if className.isSome then .method else .function
    name := (nameOf source o.node).getD []
    className
    startLine := Outline.startLine o.node
    endLine := Outline.endLine o.node }

/-! ## The scope inside a chain of nodes -/

variable {source : Source} {t : Tree} {o : Occurrence} {above chain : List Tree}

/-- The scope inside nodes each of which lies in the next one. -/
def scopeIn (source : Source) : List Tree → Scope
  | [] => .module
  | t :: ts => innerScope source (scopeIn source ts) t

lemma classesIn_cons_of_isFunction (h : isFunction t = true) :
    classesIn source (t :: chain) = [] := by
  rw [classesIn, List.takeWhile_cons_of_neg (by rw [h]; exact Bool.false_ne_true)]
  rfl

lemma classesIn_cons_of_not_isFunction (h : isFunction t = false) :
    classesIn source (t :: chain)
      = classesIn source chain ++ (classNameOf source t).toList := by
  rw [classesIn, List.takeWhile_cons_of_pos (by rw [h]; rfl), List.filterMap_cons]
  split
  · next hname =>
    rw [hname, Option.toList_none, List.append_nil]
    rfl
  · next name hname =>
    rw [hname, List.reverse_cons]
    rfl

/-- The class of one more node is named behind those around it. -/
lemma some_qualify_classPath (name : Text) :
    some (Outline.qualify (classPath source chain) name)
      = some (Text.join [Text.dot] (classesIn source chain ++ [name])) := by
  rw [classPath]
  split
  · next hnone =>
    rw [hnone]
    rfl
  · next hsome =>
    rw [Text.join_append _ hsome (List.cons_ne_nil _ _), Outline.qualify, List.append_assoc]
    rfl

/-- The scope inside a node: that of a function, that of a class with its name, or the one around
it. -/
lemma innerScope_eq (source : Source) (scope : Scope) (t : Tree) :
    innerScope source scope t
      = if isFunction t then .function
        else
          match classNameOf source t with
          | some name => .class (Outline.qualify scope.className name)
          | none => scope := by
  unfold innerScope isFunction classNameOf isClass nameOf
  split
  · rfl
  · split <;> rfl

/-- The class that a scope is the body of is told by the nodes that the scope is inside of. -/
theorem className_scopeIn (source : Source) (chain : List Tree) :
    (scopeIn source chain).className = classPath source chain := by
  induction chain with
  | nil => rfl
  | cons t ts ih =>
    rw [scopeIn, innerScope_eq]
    cases hfunction : isFunction t with
    | true =>
      rw [if_pos rfl, classPath, if_pos (classesIn_cons_of_isFunction hfunction)]
      rfl
    | false =>
      rw [if_neg Bool.false_ne_true, classPath, classesIn_cons_of_not_isFunction hfunction]
      cases classNameOf source t with
      | none =>
        rw [Option.toList_none, List.append_nil, ← classPath]
        exact ih
      | some name =>
        rw [Option.toList_some, if_neg (by simp), ih]
        exact some_qualify_classPath name

/-! ## The declarations of a tree -/

/-- A class is not a function. -/
lemma isFunction_of_isClass (h : isClass t = true) : isFunction t = false := by
  rw [isFunction, eq_of_beq h]
  rfl

/-- The declaration of a node in a scope: that of a function, that of a class, or none. -/
lemma declarationOf_eq (source : Source) (scope : Scope) (t : Tree) :
    declarationOf source scope t
      = (nameOf source t).bind fun name =>
          if isFunction t then
            some (Outline.declare t (if scope.className.isSome then .method else .function) name
              scope.className)
          else if isClass t then some (Outline.declare t .class name scope.className)
          else none := by
  unfold declarationOf nameOf isFunction isClass
  split
  · next hname => rw [hname, Option.bind_none]
  · next name hname => rw [hname, Option.bind_some]

/-- The declaration of a node that is reached, if it is a function or a class with a name. -/
lemma declarationOf_scopeIn (hreached : isReached o = true) :
    declarationOf source (scopeIn source o.above.dropLast) o.node
      = if isDeclaredAt source o then some (declarationAt source o) else none := by
  rw [declarationOf_eq, className_scopeIn, isDeclaredAt, isDefinitionAt, hreached, Bool.true_and,
    declarationAt, isDefinition]
  cases nameOf source o.node with
  | none => rw [Option.bind_none, Option.isSome_none, Bool.and_false, if_neg Bool.false_ne_true]
  | some name =>
    rw [Option.bind_some, Option.isSome_some, Bool.and_true]
    cases hclass : isClass o.node with
    | true =>
      rw [isFunction_of_isClass hclass]
      rfl
    | false => cases isFunction o.node <;> rfl

/-- Below an anonymous node nothing is reached. -/
lemma not_isReached_of_not_named (habove : above ≠ []) (hnamed : t.named = false)
    (ho : o ∈ t.occurrencesFrom above) : isReached o = false := by
  obtain ⟨inner, hlineage⟩ := isSuffix_lineage ho
  have hmem : t ∈ o.lineage.dropLast := by
    rw [← hlineage, List.dropLast_append_of_ne_nil (List.cons_ne_nil t above),
      List.dropLast_cons_of_ne_nil habove]
    exact List.mem_append_right inner List.mem_cons_self
  have hall : o.lineage.dropLast.all Tree.named = false := by
    rw [List.all_eq_false]
    exact ⟨t, hmem, by rw [hnamed]; exact Bool.false_ne_true⟩
  rw [isReached, hall, Bool.and_false]

/-- The declarations in several nodes, each of which has the declarations that occur in it. -/
lemma declarationsIn_eq (habove : above ≠ []) {ts : List Tree}
    (h : ∀ t ∈ ts, t.named = true → declarations source (scopeIn source above.dropLast) t
      = ((t.occurrencesFrom above).filter (isDeclaredAt source)).map (declarationAt source)) :
    declarationsIn source (scopeIn source above.dropLast) ts
      = ((ts.flatMap (occurrencesFrom above)).filter (isDeclaredAt source)).map
          (declarationAt source) := by
  induction ts with
  | nil => rfl
  | cons t ts ih =>
    obtain ⟨ht, hts⟩ := List.forall_mem_cons.mp h
    rw [declarationsIn, ih hts, List.flatMap_cons, List.filter_append, List.map_append]
    congr 1
    cases hnamed : t.named with
    | true =>
      rw [if_pos rfl]
      exact ht hnamed
    | false =>
      rw [if_neg Bool.false_ne_true, List.filter_eq_nil_iff.mpr, List.map_nil]
      intro o ho
      rw [isDeclaredAt, isDefinitionAt, not_isReached_of_not_named habove hnamed ho]
      exact Bool.false_ne_true

/-- The declarations in a node that is reached. -/
theorem declarations_eq (habove : above ≠ []) (hnamed : (t :: above.dropLast).all Tree.named) :
    declarations source (scopeIn source above.dropLast) t
      = ((t.occurrencesFrom above).filter (isDeclaredAt source)).map (declarationAt source) := by
  induction t using induction_children generalizing above with
  | h l cs ih =>
    have hdrop : (node l cs :: above).dropLast = node l cs :: above.dropLast :=
      List.dropLast_cons_of_ne_nil habove
    have hreached : isReached ⟨node l cs, above⟩ = true := by
      rw [isReached, Occurrence.lineage, hdrop, hnamed, Bool.and_true]
      cases above with
      | nil => exact absurd rfl habove
      | cons a above => rfl
    -- The children are looked at in the scope that the node opens, which is that of their lineage.
    have hchildren : declarationsIn source
          (innerScope source (scopeIn source above.dropLast) (node l cs)) cs
        = ((cs.flatMap (occurrencesFrom (node l cs :: above))).filter
            (isDeclaredAt source)).map (declarationAt source) := by
      rw [← scopeIn, ← hdrop]
      apply declarationsIn_eq (List.cons_ne_nil _ _)
      intro c hc hcnamed
      apply ih c hc (List.cons_ne_nil _ _)
      rw [hdrop, List.all_cons, hcnamed, Bool.true_and]
      exact hnamed
    have hown : declarationOf source (scopeIn source above.dropLast) (node l cs)
        = if isDeclaredAt source ⟨node l cs, above⟩ then
            some (declarationAt source ⟨node l cs, above⟩) else none :=
      declarationOf_scopeIn hreached
    rw [declarations, hchildren, occurrencesFrom_node, List.filter_cons, hown]
    split
    · rfl
    · rfl

/-- A tree declares its functions and classes with a name. -/
theorem declarations_outline_eq (source : Source) (t : Tree) :
    (outline source t).declarations
      = (t.occurrences.filter (isDeclaredAt source)).map (declarationAt source) := by
  obtain ⟨l, cs⟩ := t
  have hroot : ¬isDeclaredAt source ⟨node l cs, []⟩ = true := Bool.false_ne_true
  rw [occurrences, occurrencesFrom_node, List.filter_cons_of_neg hroot]
  apply declarationsIn_eq (List.cons_ne_nil (node l cs) [])
  intro c _ hnamed
  apply declarations_eq (List.cons_ne_nil _ _)
  rw [List.all_cons, hnamed]
  rfl

/-- The functions and classes with a name that are reached are all there are, if all functions and
classes are reached. -/
lemma map_node_filter_isDeclaredAt
    (hreached : ∀ o ∈ t.occurrences, isDefinition o.node = true → isReached o = true) :
    (t.occurrences.filter (isDeclaredAt source)).map Occurrence.node
      = t.preorder.filter fun n => isDefinition n && (nameOf source n).isSome := by
  have hdeclared : t.occurrences.filter (isDeclaredAt source)
      = t.occurrences.filter fun o => isDefinition o.node && (nameOf source o.node).isSome := by
    apply List.filter_congr
    intro o ho
    rw [isDeclaredAt, isDefinitionAt]
    cases hdefinition : isDefinition o.node with
    | true => rw [hreached o ho hdefinition, Bool.true_and]
    | false => rw [Bool.and_false]
  rw [hdeclared, ← map_node_occurrencesFrom [], List.filter_map]
  rfl

/-! ## A class with a method -/

/-- An identifier of one unit. -/
def unitIdentifier (field : String) (offset row column : ℕ) : Tree :=
  .node ⟨"identifier", true, false, false, [field], offset, offset + 1, ⟨row, column⟩,
    ⟨row, column + 1⟩⟩ []

/-- A call of such an identifier, without arguments. -/
def unitCall (offset row column : ℕ) : Tree :=
  .node ⟨"call", true, false, false, [], offset, offset + 3, ⟨row, column⟩, ⟨row, column + 3⟩⟩
    [unitIdentifier "function" offset row column]

/-- A method that makes a call. It ends where the line after it begins. -/
def methodNode : Tree :=
  .node ⟨"function_definition", true, false, false, [], 13, 38, ⟨1, 4⟩, ⟨3, 0⟩⟩
    [unitIdentifier "name" 17 1 8, unitCall 34 2 8]

/-- The class that the method is in. -/
def classNode : Tree :=
  .node ⟨"class_definition", true, false, false, [], 0, 38, ⟨0, 0⟩, ⟨3, 0⟩⟩
    [unitIdentifier "name" 6 0 6, methodNode]

/-- The class, and a call behind it. -/
def methodTree : Tree :=
  .node ⟨"module", true, false, false, [], 0, 42, ⟨0, 0⟩, ⟨4, 0⟩⟩ [classNode, unitCall 38 3 0]

/-- The text of this tree, whose nodes leave out what declares and calls nothing. -/
def methodSource : Source :=
  Source.ofText (Text.ofString "class A:\n    def m(self):\n        _()\n_()\n")

/-- The class as it occurs in the tree. -/
def classOccurrence : Occurrence := ⟨classNode, [methodTree]⟩

/-- The method as it occurs in the tree. -/
def methodOccurrence : Occurrence := ⟨methodNode, [classNode, methodTree]⟩

/-! ## What a tree declares -/

/-- A tree declares exactly its functions and classes with a name, each once and in the order of the
tree, inside the classes that it lies in up to the innermost function; and a function is a method if
it lies in a class. Where all functions and classes are below the root and not in anonymous nodes,
none is passed over. -/
theorem declarations_outline (source : Source) (t : Tree) :
    (outline source t).declarations
        = (t.occurrences.filter (isDeclaredAt source)).map (declarationAt source)
    ∧ (∀ d ∈ (outline source t).declarations,
        d.kind ≠ .class → (d.kind = .method ↔ d.className.isSome = true))
    ∧ ((∀ o ∈ t.occurrences, isDefinition o.node = true → isReached o = true) →
        ((t.occurrences.filter (isDeclaredAt source)).map Occurrence.node)
          = t.preorder.filter fun n => isDefinition n && (nameOf source n).isSome) := by
  refine ⟨declarations_outline_eq source t, ?_, map_node_filter_isDeclaredAt⟩
  intro d hd hkind
  rw [declarations_outline_eq] at hd
  obtain ⟨o, -, rfl⟩ := List.mem_map.mp hd
  rw [declarationAt] at hkind ⊢
  dsimp only at hkind ⊢
  split at hkind
  · exact absurd rfl hkind
  · next hclass =>
    rw [if_neg hclass]
    cases (classPath source o.above.dropLast).isSome <;> decide

/-- A function in a class is a method, and neither of the two is passed over. -/
theorem declarations_outline_method :
    (∀ o ∈ methodTree.occurrences, isDefinition o.node = true → isReached o = true)
    ∧ (outline methodSource methodTree).declarations
        = [⟨.class, Text.ofString "A", none, 1, 3⟩,
          ⟨.method, Text.ofString "m", some (Text.ofString "A"), 2, 3⟩]
    ∧ (methodTree.preorder.filter fun n => isDefinition n && (nameOf methodSource n).isSome)
        = [classNode, methodNode] := by
  have hreached : ∀ o ∈ methodTree.occurrences,
      isDefinition o.node = true → isReached o = true := by decide +kernel
  obtain ⟨hdeclarations, -, hnodes⟩ := declarations_outline methodSource methodTree
  have hoccurrences : methodTree.occurrences.filter (isDeclaredAt methodSource)
      = [classOccurrence, methodOccurrence] := by decide +kernel
  rw [hoccurrences] at hdeclarations hnodes
  refine ⟨hreached, ?_, (hnodes hreached).symm⟩
  rw [hdeclarations]
  decide +kernel

end Languages.Python

end CallAtlas
