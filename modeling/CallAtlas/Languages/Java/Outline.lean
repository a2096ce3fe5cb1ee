import CallAtlas.Languages.Java.Grammar
import CallAtlas.Outline.Basic
import CallAtlas.Syntax.Parser

/-!
# Outlines of Java texts

Classes, interfaces, enumerations, records and annotation types are classes; the methods and
constructors in their bodies are methods. A class inside a method stands for itself. Calls are
method invocations and the creation of objects.
-/

namespace CallAtlas.Languages.Java

open CallAtlas.Syntax

/-- The language. -/
def language : Language := Language.ofGrammar grammar Scanner.none

/-- The nodes that declare a type. -/
def typeDeclarations : List String :=
  ["class_declaration", "interface_declaration", "enum_declaration", "record_declaration",
    "annotation_type_declaration"]

/-- The nodes that declare a method or a constructor. -/
def methodDeclarations : List String :=
  ["method_declaration", "constructor_declaration", "compact_constructor_declaration"]

/-- The nodes that hold the members of a type. -/
def typeBodies : List String :=
  ["class_body", "interface_body", "enum_body", "enum_body_declarations",
    "annotation_type_body"]

/-- The declaration that a node itself makes inside a type or outside of any. -/
def declarationOf (source : Source) (className : Option Text) (t : Tree) :
    Option Declaration :=
  (Outline.childText source t "name").bind fun name =>
    if typeDeclarations.contains t.kind then
      some (Outline.declare t .class name className)
    else if methodDeclarations.contains t.kind then
      let kind : DeclarationKind := if className.isSome then .method else .function
      some (Outline.declare t kind name className)
    else none

/-- The qualified name of the type that the children of a node are members of. -/
def innerClass (source : Source) (className : Option Text) (t : Tree) : Option Text :=
  if typeDeclarations.contains t.kind then
    (Outline.childText source t "name").map (Outline.qualify className)
  else if typeBodies.contains t.kind then className
  else none

mutual

/-- The declarations in a node, its own one first. -/
def declarations (source : Source) (className : Option Text) : Tree → List Declaration
  | .node l cs =>
    (declarationOf source className (.node l cs)).toList
      ++ declarationsIn source (innerClass source className (.node l cs)) cs

/-- The declarations in the named ones of several nodes. -/
def declarationsIn (source : Source) (className : Option Text) :
    List Tree → List Declaration
  | [] => []
  | t :: ts =>
    (if t.named then declarations source className t else [])
      ++ declarationsIn source className ts

end

mutual

/-- The name in the type of a created object. -/
def typeNameOf : Tree → Option Tree
  | .node l cs =>
    if l.kind == "type_identifier" then some (.node l cs)
    else if l.kind == "generic_type" then firstTypeName cs
    else if l.kind == "scoped_type_identifier" then (lastTypeName cs).join
    else none

/-- The name in the first named one of several nodes. -/
def firstTypeName : List Tree → Option Tree
  | [] => none
  | t :: ts => if t.named then typeNameOf t else firstTypeName ts

/-- The name in the last named one of several nodes, if one of them is named. -/
def lastTypeName : List Tree → Option (Option Tree)
  | [] => none
  | t :: ts => (lastTypeName ts).or (if t.named then some (typeNameOf t) else none)

end

/-- The call that a method invocation makes. -/
def invocationOf (source : Source) (t : Tree) : Option CallSite :=
  (t.child? "name").bind fun callee =>
    let name := callee.text source
    if !Text.isBareIdentifier name || name = Text.ofString "this"
        || name = Text.ofString "super" then none
    else
      let expression :=
        match t.child? "object" with
        | some object => (object.text source).compact ++ Text.dot :: name
        | none => name
      some (Outline.callAt callee name expression)

/-- The call that the creation of an object makes. -/
def creationOf (source : Source) (t : Tree) : Option CallSite :=
  (t.child? "type").bind fun type =>
    (typeNameOf type).map fun callee =>
      Outline.callAt callee (callee.text source)
        (Text.ofString "new " ++ (type.text source).compact)

/-- The call that a node makes. -/
def callOf (source : Source) (t : Tree) : Option CallSite :=
  if t.kind == "method_invocation" then invocationOf source t
  else if t.kind == "object_creation_expression" then creationOf source t
  else none

/-- What follows a word and the blanks after it, if a text begins so. -/
def afterWord (word : String) (t : Text) : Option Text :=
  let w := Text.ofString word
  let rest := t.drop w.length
  if w.isPrefixOf t && (rest.head?.map Text.isBlank).getD false then
    some (rest.dropWhile Text.isBlank)
  else none

/-- The name that an import declaration imports, without blanks. -/
def importedName (t : Text) : Text :=
  let body :=
    match afterWord "import" t with
    | none => t
    | some rest => (afterWord "static" rest).getD rest
  let semicolon := Text.unit ';'
  Text.compact (if body.getLast? = some semicolon then body.dropLast else body)

/-- The outline of a tree. -/
def outline (source : Source) (t : Tree) : Outline :=
  { declarations := declarationsIn source none t.children
    calls := t.preorder.filterMap (callOf source)
    imports :=
      (t.preorder.filter fun n => n.kind == "import_declaration").map fun n =>
        importedName (n.text source) }

end CallAtlas.Languages.Java
