import CallAtlas.Languages.Go.Grammar
import CallAtlas.Outline.Basic
import CallAtlas.Syntax.Parser
import CallAtlas.Text.Literal

/-!
# Outlines of Go texts

Functions, methods and the types that are structures or interfaces are declared; what stands
inside of them is not looked at. The class of a method is the type of its receiver. Calls are
those of a name or of a selected field.
-/

namespace CallAtlas.Languages.Go

open CallAtlas.Syntax

/-- The language. -/
def language : Language := Language.ofGrammar grammar Scanner.none

mutual

/-- The type that a pointer type points to in the end; other types stand for themselves. -/
def pointedType : Tree → Option Tree
  | .node l cs => if l.kind == "pointer_type" then pointedTypeIn cs else some (.node l cs)

/-- The type that the first named one of several nodes points to. -/
def pointedTypeIn : List Tree → Option Tree
  | [] => none
  | t :: ts => if t.named then pointedType t else pointedTypeIn ts

end

/-- The name of the type that a method belongs to. -/
def receiverName (source : Source) (method : Tree) : Option Text :=
  let parameter :=
    (method.child? "receiver").bind fun r =>
      r.namedChildren.find? fun p => p.kind == "parameter_declaration"
  let type := (parameter.bind fun p => p.child? "type").bind pointedType
  let named := type.bind fun t => if t.kind == "generic_type" then t.child? "type" else some t
  (named.filter fun t => t.kind == "type_identifier").map fun t => t.text source

/-- The nodes that declarations are made by. -/
def declaring : List String := ["function_declaration", "method_declaration", "type_spec"]

/-- The declaration that a node makes. -/
def declarationOf (source : Source) (t : Tree) : Option Declaration :=
  (Outline.childText source t "name").bind fun name =>
    if t.kind == "function_declaration" then some (Outline.declare t .function name none)
    else if t.kind == "method_declaration" then
      some (Outline.declare t .method name (receiverName source t))
    else
      let isClass :=
        ((t.child? "type").map fun type =>
          type.kind == "struct_type" || type.kind == "interface_type").getD false
      if isClass then some (Outline.declare t .class name none) else none

mutual

/-- The declarations in a node. -/
def declarations (source : Source) : Tree → List Declaration
  | .node l cs =>
    if declaring.contains l.kind then (declarationOf source (.node l cs)).toList
    else declarationsIn source cs

/-- The declarations in the named ones of several nodes. -/
def declarationsIn (source : Source) : List Tree → List Declaration
  | [] => []
  | t :: ts => (if t.named then declarations source t else []) ++ declarationsIn source ts

end

/-- The name that a call calls. -/
def calleeOf (target : Tree) : Option Tree :=
  if target.kind == "identifier" then some target
  else if target.kind == "selector_expression" then target.child? "field"
  else none

/-- The call that a node makes. -/
def callOf (source : Source) (t : Tree) : Option CallSite :=
  if t.kind != "call_expression" then none
  else
    ((t.child? "function").filter Tree.named).bind fun target =>
      (calleeOf target).bind fun callee =>
        let name := callee.text source
        if Text.isBareIdentifier name then
          some (Outline.callAt callee name (target.text source).compact)
        else none

/-- The package that a node imports. -/
def importsOf (source : Source) (t : Tree) : List Text :=
  if t.kind == "import_spec" then
    ((t.childrenIn "path").filter Tree.named).map fun p => Text.unquote (p.text source)
  else []

/-- The outline of a tree. -/
def outline (source : Source) (t : Tree) : Outline :=
  { declarations := declarationsIn source t.children
    calls := t.preorder.filterMap (callOf source)
    imports := t.preorder.flatMap (importsOf source) }

end CallAtlas.Languages.Go
