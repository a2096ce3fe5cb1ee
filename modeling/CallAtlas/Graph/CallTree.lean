import CallAtlas.Graph.CallStack
import CallAtlas.Model.Document

/-!
# Call trees

A call stack lists its entries level by level. The same entries form a tree, in which each entry
stands above those that name it as their caller. The tree is written as text, one line an entry
with two blanks per level, or as a nested document.
-/

namespace CallAtlas

/-- An entry with the trees of its callees. -/
inductive CallTree where
  | node (entry : CallStackEntry) (children : List CallTree)

namespace CallTree

/-- The entry at the top of a tree. -/
def entry : CallTree → CallStackEntry
  | .node e _ => e

/-- The trees right below the top. -/
def children : CallTree → List CallTree
  | .node _ cs => cs

mutual

/-- The entries of a tree, each one before those below it. -/
def preorder : CallTree → List CallStackEntry
  | .node e cs => e :: preorderAll cs

/-- The entries of trees, one tree after the other. -/
def preorderAll : List CallTree → List CallStackEntry
  | [] => []
  | t :: ts => preorder t ++ preorderAll ts

end

end CallTree

namespace CallStack

/-- The callees of an entry, in order. -/
def childrenOf (entries : List CallStackEntry) (id : Nat) : List CallStackEntry :=
  entries.filter fun e => e.parentId = some id

/-- The entries that have callees, each with the list of them, in the order in which the first of
the callees is listed. -/
def childGroups (entries : List CallStackEntry) : List (Nat × List CallStackEntry) :=
  ((entries.filterMap CallStackEntry.parentId).foldl
    (fun (seen : List Nat) id => if seen.contains id then seen else id :: seen) []).reverse.map
    fun id => (id, childrenOf entries id)

/-- The tree below an entry. Callees are listed after their callers, so the entries from an entry
on hold all that is below it. -/
def treeOf (entries : List CallStackEntry) : (fuel : Nat) → CallStackEntry → CallTree
  | 0, e => .node e []
  | fuel + 1, e => .node e ((childrenOf entries e.id).map (treeOf entries fuel))

/-- The tree of a call stack; none if it has no entries. -/
def tree? (s : CallStack) : Option CallTree :=
  s.entries.head?.map (treeOf s.entries s.entries.length)

/-! ## Text -/

/-- What is written of a status. -/
def statusNote : CallStackStatus → String
  | .cyclic => " [cyclic]"
  | .unresolved => " [unresolved]"
  | .depthLimit => " [depth limit]"
  | .truncated => " [truncated]"
  | .expanded => ""

/-- The place of a definition. -/
def placeText (d : Definition) : Text :=
  d.filePath ++ Text.unit ':' :: d.startLine.toText ++ Text.unit '-' :: d.endLine.toText

/-- The line of an entry without the blanks before it. -/
def describe (e : CallStackEntry) : Text :=
  let subject :=
    match e.definition with
    | some d => d.qualifiedName ++ Text.ofString " (" ++ placeText d ++ Text.ofString ")"
    | none => e.calleeName
  let via :=
    match e.callSite with
    | some c => Text.ofString " via " ++ c.expression ++ Text.ofString " at line " ++ c.line.toText
    | none => []
  let ambiguous :=
    if 1 < e.candidateCount then
      Text.ofString " [ambiguous: " ++ Text.ofNat e.candidateCount ++ Text.ofString " candidates]"
    else []
  subject ++ via ++ Text.ofString (statusNote e.status) ++ ambiguous

/-- The line of an entry. -/
def lineOf (e : CallStackEntry) : Text :=
  List.replicate (2 * e.depth) (Text.unit ' ') ++ describe e

/-- The call stack as text. -/
def toText (s : CallStack) : Text :=
  let listed := ((s.tree?.map CallTree.preorder).getD []).map lineOf
  let note :=
    if s.truncated then
      [Text.ofString "... truncated at " ++ Text.ofNat s.entries.length
        ++ Text.ofString " entries"]
    else []
  Text.join [Text.newline] (listed ++ note)

/-! ## Documents -/

mutual

/-- A tree as a document, call sites being written by a function. -/
def nodeJson (siteJson : CallSite → Json) : CallTree → Json
  | .node e cs =>
    .object
      [("name", .str ((e.definition.map Definition.name).getD e.calleeName)),
        ("qualifiedName", Json.orNull Json.str (e.definition.map Definition.qualifiedName)),
        ("filePath", Json.orNull Json.str (e.definition.map Definition.filePath)),
        ("startLine", Json.orNull Json.num (e.definition.map Definition.startLine)),
        ("endLine", Json.orNull Json.num (e.definition.map Definition.endLine)),
        ("status", (e.status.name : Json)),
        ("depth", Json.ofNat e.depth),
        ("candidateCount", Json.ofNat e.candidateCount),
        ("callSite", Json.orNull siteJson e.callSite),
        ("children", .arr (nodesJson siteJson cs))]

/-- Trees as documents. -/
def nodesJson (siteJson : CallSite → Json) : List CallTree → List Json
  | [] => []
  | t :: ts => nodeJson siteJson t :: nodesJson siteJson ts

end

/-- The call stack as a nested document, call sites being written by a function. -/
def toJsonWith (siteJson : CallSite → Json) (s : CallStack) : Json :=
  .object
    [("maxDepth", Json.ofNat s.maxDepth),
      ("truncated", .bool s.truncated),
      ("root", Json.orNull (nodeJson siteJson) s.tree?)]

/-- The call stack as a nested document. -/
def toJson (s : CallStack) : Json := s.toJsonWith CallSite.toJson

/-- How a call stack is written. -/
inductive Format where
  | text
  | json
deriving DecidableEq, Repr

/-- The call stack in a format. -/
def format (s : CallStack) : Format → Text
  | .text => s.toText
  | .json => s.toJson.pretty

end CallStack

end CallAtlas
