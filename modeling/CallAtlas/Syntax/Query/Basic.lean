import CallAtlas.Syntax.Vocabulary
import CallAtlas.Text.Basic

/-!
# Patterns for trees

A pattern describes a part of a tree: a node with patterns for its children, one of several
patterns, a pattern that may be left out or repeated. A field may be asked for as well. Each part
of a pattern keeps the position at which it is written, counted in bytes, so that what cannot match
can be pointed at.
-/

namespace CallAtlas.Syntax

/-- What is wrong with a query. -/
inductive QueryFaultKind where
  /-- It is not well-formed. -/
  | form
  /-- The grammar has no such kind. -/
  | unknownKind
  /-- The grammar has no such field. -/
  | unknownField
  /-- No such capture was made before. -/
  | unknownCapture
  /-- A node cannot stand where it is asked for. -/
  | misplaced
deriving DecidableEq, Repr, Inhabited

/-- Why a query is refused. -/
inductive QueryFault where
  | located (kind : QueryFaultKind) (position : Nat)
  /-- A condition has the wrong arguments. -/
  | condition (message : Text)
deriving Inhabited

namespace QueryFault

/-- The name of what is wrong. -/
def kindName : QueryFaultKind → String
  | .form => "TSQueryErrorSyntax"
  | .unknownKind => "TSQueryErrorNodeType"
  | .unknownField => "TSQueryErrorField"
  | .unknownCapture => "TSQueryErrorCapture"
  | .misplaced => "TSQueryErrorStructure"

/-- What is said of a fault. -/
def message : QueryFault → Text
  | .located kind position =>
    Text.ofString ("Query error of type " ++ kindName kind ++ " at position " ++ Nat.repr position)
  | .condition message => message

end QueryFault

/-- What a pattern asks of the kind of a node. -/
inductive Demand where
  | anything
  | anyNamed
  | kind (k : Alias)
  /-- Text that no rule accounts for. -/
  | error
deriving DecidableEq, Repr, Inhabited

namespace Demand

/-- Is a node of a kind one that is asked for? No node of a rule is an error. -/
def accepts : Demand → Alias → Bool
  | anything, _ => true
  | anyNamed, k => k.named
  | kind wanted, k => wanted == k
  | error, _ => false

end Demand

/-- A pattern. -/
inductive QueryTerm where
  /-- A node, of those that a hidden rule groups if one is given. -/
  | node (position : Nat) (demand : Demand) (supertype : Option String) (children : List QueryTerm)
  /-- Patterns one after the other. -/
  | group (position : Nat) (terms : List QueryTerm)
  /-- One of several patterns. -/
  | alternatives (position : Nat) (terms : List QueryTerm)
  /-- A pattern for a child in a field. -/
  | labelled (position : Nat) (field : String) (term : QueryTerm)
  /-- A pattern that may be left out. -/
  | optional (term : QueryTerm)
  /-- A pattern that may be repeated. -/
  | repeated (term : QueryTerm)
  /-- A pattern that may be repeated or left out. -/
  | many (term : QueryTerm)
  /-- A condition on captures. -/
  | condition (position : Nat)
deriving Inhabited

end CallAtlas.Syntax
