import CallAtlas.Languages.TypeScript.Grammar
import CallAtlas.Languages.TypeScript.Scanner
import CallAtlas.Outline.Basic
import CallAtlas.Syntax.Parser

/-!
# Outlines of TypeScript texts

Functions are declared by name, by a method outside the body of a class, and by a variable or
field that a function is assigned to; in the body of a class they are methods. Calls are those of
a name or of a member, and constructions.
-/

namespace CallAtlas.Languages.TypeScript

open CallAtlas.Syntax

/-- The language in a dialect. -/
def language (dialect : Dialect) : Language := Language.ofGrammar (grammar dialect) scan

/-- The language with type assertions. -/
def assertionLanguage : Language := language .assertions

/-- The language with markup. -/
def markupLanguage : Language := language .markup

/-- What declarations stand in. -/
structure Scope where
  /-- The qualified name of the class that this is the body of. -/
  className : Option Text := none
  /-- The only field in which declarations count, if not all children count. -/
  only : Option String := none
deriving DecidableEq

/-- Do the declarations in a child count? -/
def Scope.admits (scope : Scope) (t : Tree) : Bool :=
  t.named && scope.only.all fun field => t.label.fields.contains field

/-- The nodes that declare a function by name. -/
def functionDeclarations : List String :=
  ["function_declaration", "generator_function_declaration", "function_signature"]

/-- The nodes that declare a class. -/
def classDeclarations : List String :=
  ["class_declaration", "abstract_class_declaration", "class"]

/-- The nodes whose value is a function. -/
def functionValues : List String :=
  ["arrow_function", "function", "function_expression", "generator_function"]

/-- The name without the mark of private members. -/
def publicName : Text → Text
  | [] => []
  | u :: name => if u = Text.unit '#' then name else u :: name

/-- The name of a member, if it is a bare identifier. -/
def memberName (source : Source) (t : Tree) : Option Text :=
  (((t.child? "name").or (t.child? "property")).map fun n => publicName (n.text source)).filter
    Text.isBareIdentifier

/-- Is the value of a node a function? -/
def holdsFunction (t : Tree) : Bool :=
  ((t.child? "value").map fun v => functionValues.contains v.kind).getD false

/-- The name of the variable that a node declares, unless it is a pattern. -/
def variableName (source : Source) (t : Tree) : Option Text :=
  ((t.child? "name").filter fun n => n.kind == "identifier").map fun n => n.text source

/-- Is the node a field of a class? -/
def isField (t : Tree) : Bool :=
  t.kind == "public_field_definition" || t.kind == "field_definition"

/-- The name under which a node holds a function as its value. -/
def valueName (source : Source) (t : Tree) : Option Text :=
  if !holdsFunction t then none
  else if isField t then memberName source t
  else if t.kind == "variable_declarator" then variableName source t
  else none

/-- The declaration that a node itself makes. -/
def declarationOf (source : Source) (scope : Scope) (t : Tree) : Option Declaration :=
  let kind : DeclarationKind := if scope.className.isSome then .method else .function
  if functionDeclarations.contains t.kind then
    if t.kind == "function_signature" then none
    else (Outline.childText source t "name").map fun n => Outline.declare t .function n none
  else if classDeclarations.contains t.kind then
    (Outline.childText source t "name").map fun n => Outline.declare t .class n scope.className
  else if t.kind == "method_definition" then
    (memberName source t).map fun n => Outline.declare t kind n scope.className
  else
    (valueName source t).map fun n =>
      if isField t then Outline.declare t kind n scope.className
      else Outline.declare t .function n none

/-- The scope inside a node. -/
def innerScope (source : Source) (scope : Scope) (t : Tree) : Scope :=
  if classDeclarations.contains t.kind then
    { className :=
        (Outline.childText source t "name").map fun n => Outline.qualify scope.className n }
  else if t.kind == "class_body" then { className := scope.className }
  else if (valueName source t).isSome then { only := some "value" }
  else {}

mutual

/-- The declarations in a node, its own one first. -/
def declarations (source : Source) (scope : Scope) : Tree → List Declaration
  | .node l cs =>
    (declarationOf source scope (.node l cs)).toList
      ++ declarationsIn source (innerScope source scope (.node l cs)) cs

/-- The declarations in those of several nodes that count. -/
def declarationsIn (source : Source) (scope : Scope) : List Tree → List Declaration
  | [] => []
  | t :: ts =>
    (if scope.admits t then declarations source scope t else [])
      ++ declarationsIn source scope ts

end

mutual

/-- The name in a called expression. -/
def calleeOf : Tree → Option Tree
  | .node l cs =>
    if l.kind == "identifier" then some (.node l cs)
    else if l.kind == "member_expression" then (Syntax.Tree.node l cs).child? "property"
    else if l.kind == "non_null_expression" || l.kind == "parenthesized_expression" then
      calleeIn cs
    else none

/-- The name in the first named one of several nodes. -/
def calleeIn : List Tree → Option Tree
  | [] => none
  | t :: ts => if t.named then calleeOf t else calleeIn ts

end

/-- The expression that a node calls or constructs, and what is written before it. -/
def targetOf (t : Tree) : Option (String × Tree) :=
  let target :=
    if t.kind == "call_expression" then (t.child? "function").map fun f => ("", f)
    else if t.kind == "new_expression" then (t.child? "constructor").map fun c => ("new ", c)
    else none
  target.filter fun found => found.2.named

/-- The call that a node makes. -/
def callOf (source : Source) (t : Tree) : Option CallSite :=
  match targetOf t with
  | none => none
  | some (opening, target) =>
    match calleeOf target with
    | none => none
    | some callee =>
      let name := publicName (callee.text source)
      if !Text.isBareIdentifier name || name = Text.ofString "super" then none
      else
        some (Outline.callAt callee name
          (Text.ofString opening ++ (target.text source).compact))

/-- The modules that a node imports from. -/
def importsOf (source : Source) (t : Tree) : List Text :=
  if t.kind == "import_statement" || t.kind == "export_statement" then
    ((t.childrenIn "source").filter fun s => s.kind == "string").flatMap fun s =>
      (s.namedChildren.filter fun p => p.kind == "string_fragment").map fun p => p.text source
  else []

/-- The outline of a tree. -/
def outline (source : Source) (t : Tree) : Outline :=
  { declarations := declarationsIn source {} t.children
    calls := t.preorder.filterMap (callOf source)
    imports := t.preorder.flatMap (importsOf source) }

end CallAtlas.Languages.TypeScript
