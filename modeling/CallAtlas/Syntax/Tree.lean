import CallAtlas.Syntax.Source

/-!
# Syntax trees

A syntax tree is made of nodes with a kind, a range of the source text and the field names
under which the parent refers to them. A tree has an error when a node of it stands for text
that no rule accounts for, or for a token that the text lacks.

`firstError` names the node that a syntax error is reported at: from the root on, the first
child that is an error node or has an error inside.
-/

namespace CallAtlas.Syntax

/-- What a node says of itself, without its children. -/
structure Label where
  /-- The name of the rule or token. -/
  kind : String
  /-- Nodes of punctuation and keywords are anonymous, all others named. -/
  named : Bool := true
  /-- The token is absent from the text and was supplied by error recovery. -/
  missing : Bool := false
  /-- A token that has no node of its own is absent from the text of the node. -/
  lacking : Bool := false
  /-- The field names that the parent gives to the node. -/
  fields : List String := []
  /-- The first offset of the node's text. -/
  start : Nat
  /-- The offset after the node's text. -/
  stop : Nat
  /-- The point of the first offset. -/
  startPoint : Point
  /-- The point of the offset after the node. -/
  stopPoint : Point
deriving DecidableEq, Repr, Inhabited

/-- A syntax tree. -/
inductive Tree where
  | node (label : Label) (children : List Tree)
deriving Repr, Inhabited

namespace Tree

/-- The kind of nodes for text that no rule accounts for. -/
def errorKind : String := "ERROR"

/-- The root's label. -/
def label : Tree → Label
  | node l _ => l

/-- The children, anonymous ones included. -/
def children : Tree → List Tree
  | node _ cs => cs

/-- The root's kind. -/
def kind (t : Tree) : String := t.label.kind

/-- Is the root named? -/
def named (t : Tree) : Bool := t.label.named

/-- The point at which the root starts. -/
def startPoint (t : Tree) : Point := t.label.startPoint

/-- The point at which the root stops. -/
def stopPoint (t : Tree) : Point := t.label.stopPoint

/-- The source text of the root. -/
def text (source : Source) (t : Tree) : Text := source.slice t.label.start t.label.stop

/-- The named children. -/
def namedChildren (t : Tree) : List Tree := t.children.filter named

/-- The first child with a field name. -/
def child? (t : Tree) (field : String) : Option Tree :=
  t.children.find? fun c => c.label.fields.contains field

/-- All children with a field name. -/
def childrenIn (t : Tree) (field : String) : List Tree :=
  t.children.filter fun c => c.label.fields.contains field

/-- Is the root an error node? -/
def isError (t : Tree) : Bool := t.kind == errorKind

/-- Is the root an error node or a missing token, or is it lacking one? -/
def isFault (t : Tree) : Bool := t.isError || t.label.missing || t.label.lacking

mutual

/-- Is there a fault in the tree? -/
def hasError : Tree → Bool
  | node l cs => (node l []).isFault || anyError cs

/-- Is there a fault in one of the trees? -/
def anyError : List Tree → Bool
  | [] => false
  | t :: ts => t.hasError || anyError ts

end

mutual

/-- The node at which a syntax error is reported. -/
def firstError : Tree → Tree
  | node l cs => (firstErrorIn cs).getD (node l cs)

/-- The node at which an error inside the children is reported, if there is one. -/
def firstErrorIn : List Tree → Option Tree
  | [] => none
  | t :: ts =>
    if t.isError then some t
    else if t.hasError then some t.firstError
    else firstErrorIn ts

end

mutual

/-- The nodes of the tree, each before its children, and all of them before others. -/
def preorderBefore (others : List Tree) : Tree → List Tree
  | node l cs => node l cs :: preorderAllBefore others cs

/-- The nodes of several trees, one tree after the other, and all of them before others. -/
def preorderAllBefore (others : List Tree) : List Tree → List Tree
  | [] => others
  | t :: ts => t.preorderBefore (preorderAllBefore others ts)

end

/-- The nodes of the tree, each before its children. -/
def preorder (t : Tree) : List Tree := t.preorderBefore []

end Tree

end CallAtlas.Syntax
