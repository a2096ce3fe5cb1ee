import CallAtlas.Model.Lines
import CallAtlas.Path.Basic

/-!
# Finding definitions by place

The definition that encloses a line of a file is the innermost one whose range covers the line.
The source of a definition is the text of its lines.
-/

namespace CallAtlas

namespace RepoModel

/-- The definition that encloses a line of a file. -/
def enclosing? (m : RepoModel) (path : Text) (line : Number) : Option Definition :=
  (m.file? (Path.normalize path)).bind fun f =>
    LineRange.innermost? Definition.range f.definitions line

end RepoModel

/-- What picks a definition of a file. -/
inductive DefinitionLocator where
  /-- A line that the definition encloses. -/
  | line (number : Number)
  /-- Its bare or its qualified name. -/
  | name (wanted : Text)
deriving DecidableEq, Inhabited

namespace DefinitionLocator

/-- The definition that is picked. The first one wins where several have the name, and no
definition that stands for the module is found by name. -/
def find? (locator : DefinitionLocator) (definitions : List Definition) : Option Definition :=
  match locator with
  | .line number => LineRange.innermost? Definition.range definitions number
  | .name wanted =>
    definitions.find? fun d => !d.isModule && (d.name == wanted || d.qualifiedName == wanted)

end DefinitionLocator

/-- A definition with the text of its lines. -/
structure DefinitionSource where
  definition : Definition
  text : Text
deriving DecidableEq, Inhabited

namespace DefinitionSource

/-- A position in a list of some length; one below zero counts from the end. -/
def position (length : Nat) (i : Int) : Nat :=
  if i < 0 then ((length : Int) + i).toNat else min i.toNat length

/-- The elements from one position up to another one. -/
def slice {α : Type} (xs : List α) (start stop : Int) : List α :=
  (xs.take (position xs.length stop)).drop (position xs.length start)

/-- A number without its fraction. -/
def whole (n : Number) : Int := n.num.tdiv n.den

/-- The lines of a range, the first line of the text being number one. -/
def linesOf (content : Text) (r : LineRange) : Text :=
  Text.join [Text.newline]
    (slice (Text.splitAt Text.newline content) (whole (r.first.minus 1)) (whole r.last))

end DefinitionSource

/-- The source of a definition of a file whose content is known. -/
def RepoModel.sourceOf? (m : RepoModel) (path content : Text) (locator : DefinitionLocator) :
    Option DefinitionSource :=
  (m.file? (Path.normalize path)).bind fun f =>
    (locator.find? f.definitions).map fun d =>
      ⟨d, DefinitionSource.linesOf content d.range⟩

end CallAtlas
