import CallAtlas.Languages.C.Grammar
import CallAtlas.Outline.Basic
import CallAtlas.Syntax.Parser
import CallAtlas.Text.Literal

/-!
# Outlines of C texts

Functions with a body and structures with a body are declared; what stands inside a function is
not looked at. Calls are those of a name or of a field, imports the included headers.
-/

namespace CallAtlas.Languages.C

open CallAtlas.Syntax

/-- The language. -/
def language : Language := Language.ofGrammar grammar Scanner.none

/-- The declarators that stand around others. -/
def wrappers : List String :=
  ["pointer_declarator", "parenthesized_declarator", "attributed_declarator"]

mutual

/-- The name of the function that a declarator declares: the identifier that the innermost
function declarator holds. -/
def functionName (source : Source) : Tree → Option Text
  | .node l cs =>
    if l.kind == "function_declarator" then (nameInField source true cs).join
    else if wrappers.contains l.kind then
      (nameInField source false cs).getD (nameInFirst source cs)
    else none

/-- The name in the first of several nodes that is a declarator of their parent. An identifier
is a name only where it stands in a function declarator. -/
def nameInField (source : Source) (inFunction : Bool) : List Tree → Option (Option Text)
  | [] => none
  | t :: ts =>
    if t.label.fields.contains "declarator" then
      if inFunction && t.kind == "identifier" then some (some (t.text source))
      else some (functionName source t)
    else nameInField source inFunction ts

/-- The name in the first named one of several nodes. -/
def nameInFirst (source : Source) : List Tree → Option Text
  | [] => none
  | t :: ts => if t.named then functionName source t else nameInFirst source ts

end

/-- The declaration that a node itself makes. -/
def declarationOf (source : Source) (t : Tree) : Option Declaration :=
  if t.kind == "function_definition" then
    ((t.child? "declarator").bind (functionName source)).map fun name =>
      Outline.declare t .function name none
  else if t.kind == "struct_specifier" && (t.child? "body").isSome then
    (Outline.childText source t "name").map fun name => Outline.declare t .class name none
  else none

mutual

/-- The declarations in a node, its own one first. -/
def declarations (source : Source) : Tree → List Declaration
  | .node l cs =>
    (declarationOf source (.node l cs)).toList
      ++ (if l.kind == "function_definition" then [] else declarationsIn source cs)

/-- The declarations in the named ones of several nodes. -/
def declarationsIn (source : Source) : List Tree → List Declaration
  | [] => []
  | t :: ts => (if t.named then declarations source t else []) ++ declarationsIn source ts

end

/-- The name that a call calls. -/
def calleeOf (target : Tree) : Option Tree :=
  if target.kind == "identifier" then some target
  else if target.kind == "field_expression" then target.child? "field"
  else none

/-- The call that a node makes. -/
def callOf (source : Source) (t : Tree) : Option CallSite :=
  if t.kind != "call_expression" then none
  else
    ((t.child? "function").filter Tree.named).bind fun target =>
      (calleeOf target).bind fun callee =>
        let name := callee.text source
        if Text.isBareIdentifier name then
          some (Outline.callAt callee name (target.text source).compact)
        else none

/-- The header that a node includes. -/
def includeOf (source : Source) (t : Tree) : Option Text :=
  if t.kind == "preproc_include" then
    (t.child? "path").map fun p => Text.unquote (p.text source)
  else none

/-- The outline of a tree. -/
def outline (source : Source) (t : Tree) : Outline :=
  { declarations := declarationsIn source t.children
    calls := t.preorder.filterMap (callOf source)
    imports := t.preorder.filterMap (includeOf source) }

end CallAtlas.Languages.C
