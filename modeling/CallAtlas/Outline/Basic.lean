import CallAtlas.Number.Binary64
import CallAtlas.Syntax.Tree
import CallAtlas.Text.Basic
import CallAtlas.Text.Letter

/-!
# Outlines

An outline is what a language's view of a syntax tree contributes: the functions, methods and
classes that the text declares, the calls in it, and the modules it imports. Lines are counted
from one, columns from zero.
-/

namespace CallAtlas

open Syntax

/-- What a declaration declares. -/
inductive DeclarationKind where
  | function
  | method
  | «class»
deriving DecidableEq, Repr, Inhabited

/-- The name of a kind. -/
def DeclarationKind.name : DeclarationKind → String
  | .function => "function"
  | .method => "method"
  | .class => "class"

/-- The lines of a function, method or class. -/
structure Declaration where
  kind : DeclarationKind
  name : Text
  /-- The qualified name of the enclosing class. -/
  className : Option Text := none
  startLine : Number
  endLine : Number
deriving DecidableEq, Inhabited

/-- A call in the text. -/
structure CallSite where
  /-- The bare name that is called. -/
  callee : Text
  /-- The called expression as it is written, without blanks. -/
  expression : Text
  line : Number
  column : Number
deriving DecidableEq, Inhabited

/-- The declarations, calls and imports of a text. -/
structure Outline where
  declarations : List Declaration := []
  calls : List CallSite := []
  /-- The imported modules as they are written, in order. -/
  imports : List Text := []
deriving Inhabited

namespace Outline

/-- The first line of a node. -/
def startLine (t : Tree) : Number := ((t.startPoint.row + 1 : Nat) : Int)

/-- The last line of a node. A node that ends before the first column ends on the line before. -/
def endLine (t : Tree) : Number :=
  let stop := t.stopPoint
  let row := if stop.column = 0 ∧ t.startPoint.row < stop.row then stop.row - 1 else stop.row
  ((row + 1 : Nat) : Int)

/-- A declaration on the lines of a node. -/
def declare (t : Tree) (kind : DeclarationKind) (name : Text) (className : Option Text) :
    Declaration :=
  { kind, name, className, startLine := startLine t, endLine := endLine t }

/-- A call at the place of a node. -/
def callAt (t : Tree) (callee expression : Text) : CallSite :=
  { callee, expression, line := startLine t, column := ((t.startPoint.column : Nat) : Int) }

/-- The text of the child with a field name, if it is not empty. -/
def childText (source : Source) (t : Tree) (field : String) : Option Text :=
  ((t.child? field).map fun c => c.text source).filter fun s => !s.isEmpty

/-- The name inside a class, if there is one. -/
def qualify (className : Option Text) (name : Text) : Text :=
  match className with
  | some c => c ++ Text.dot :: name
  | none => name

end Outline

end CallAtlas
