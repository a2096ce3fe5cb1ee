import CallAtlas.Languages.Python.Grammar
import CallAtlas.Languages.Python.Scanner
import CallAtlas.Outline.Basic
import CallAtlas.Syntax.Parser

/-!
# Outlines of Python texts

A function in the body of a class is a method of it; a function inside a function is a function
again. Calls are those of a name or of an attribute.
-/

namespace CallAtlas.Languages.Python

open CallAtlas.Syntax

/-- The language. -/
def language : Language := Language.ofGrammar grammar scan

/-- What a declaration stands in. -/
inductive Scope where
  | module
  | class (qualifiedName : Text)
  | function
deriving DecidableEq

/-- The class that a scope is the body of. -/
def Scope.className : Scope → Option Text
  | .class q => some q
  | _ => none

/-- The declaration that a node itself makes. -/
def declarationOf (source : Source) (scope : Scope) (t : Tree) : Option Declaration :=
  match Outline.childText source t "name" with
  | none => none
  | some name =>
    if t.kind == "function_definition" then
      let kind := if scope.className.isSome then .method else .function
      some (Outline.declare t kind name scope.className)
    else if t.kind == "class_definition" then
      some (Outline.declare t .class name scope.className)
    else none

/-- The scope inside a node. -/
def innerScope (source : Source) (scope : Scope) (t : Tree) : Scope :=
  if t.kind == "function_definition" then .function
  else if t.kind == "class_definition" then
    match Outline.childText source t "name" with
    | some name => .class (Outline.qualify scope.className name)
    | none => scope
  else scope

mutual

/-- The declarations in a node, its own one first. -/
def declarations (source : Source) (scope : Scope) : Tree → List Declaration
  | .node l cs =>
    (declarationOf source scope (.node l cs)).toList
      ++ declarationsIn source (innerScope source scope (.node l cs)) cs

/-- The declarations in the named ones of several nodes. -/
def declarationsIn (source : Source) (scope : Scope) : List Tree → List Declaration
  | [] => []
  | t :: ts =>
    (if t.named then declarations source scope t else []) ++ declarationsIn source scope ts

end

/-- The identifier that a call calls. -/
def calleeOf (t : Tree) : Option Tree :=
  match t.child? "function" with
  | none => none
  | some f =>
    if f.kind == "identifier" then some f
    else if f.kind == "attribute" then
      (f.child? "attribute").filter fun a => a.kind == "identifier"
    else none

/-- The call that a node makes. -/
def callOf (source : Source) (t : Tree) : Option CallSite :=
  if t.kind != "call" then none
  else
    match calleeOf t with
    | none => none
    | some callee =>
      let name := callee.text source
      if !Text.isBareIdentifier name then none
      else
        let expression :=
          match t.child? "function" with
          | some f => (f.text source).compact
          | none => name
        some (Outline.callAt callee name expression)

/-- The modules that a node imports. -/
def importsOf (source : Source) (t : Tree) : List Text :=
  if t.kind == "future_import_statement" then [Text.ofString "__future__"]
  else if t.kind == "import_from_statement" then
    ((t.child? "module_name").map fun m => (m.text source).compact).toList
  else if t.kind == "import_statement" then
    t.namedChildren.filterMap fun c =>
      let name := if c.kind == "aliased_import" then c.child? "name" else some c
      (name.filter fun n => n.kind == "dotted_name").map fun n => (n.text source).compact
  else []

/-- The outline of a tree. -/
def outline (source : Source) (t : Tree) : Outline :=
  { declarations := declarationsIn source .module t.children
    calls := t.preorder.filterMap (callOf source)
    imports := t.preorder.flatMap (importsOf source) }

end CallAtlas.Languages.Python
