import CallAtlas.Number.Decimal
import CallAtlas.Outline.Basic

/-!
# The model of a repository

A model maps the path of each file to the definitions in it and the calls that each definition
makes. A definition is known by its file, its qualified name and its lines. Calls outside every
function, method and class belong to a definition of their own that stands for the module.
-/

namespace CallAtlas

/-- What a definition defines: something declared, or the module itself. -/
inductive DefinitionKind where
  | declared (kind : DeclarationKind)
  | module
deriving DecidableEq, Repr, Inhabited

/-- The name of a kind. -/
def DefinitionKind.name : DefinitionKind → String
  | .declared k => k.name
  | .module => "module"

/-- A definition with its calls. -/
structure Definition where
  kind : DefinitionKind
  name : Text
  qualifiedName : Text
  /-- The qualified name of the enclosing class. -/
  className : Option Text := none
  filePath : Text
  /-- The first line, counted from one. -/
  startLine : Number
  /-- The last line. -/
  endLine : Number
  calls : List CallSite := []
deriving DecidableEq, Inhabited

/-- What the model knows of a file. -/
structure FileModel where
  language : Text
  lineCount : Number
  definitions : List Definition := []
  /-- The imported modules as they are written, each once, in the order of the text. -/
  imports : List Text := []
deriving DecidableEq, Inhabited

/-- The files of a repository by path, in the order in which they are listed. -/
structure RepoModel where
  files : List (Text × FileModel) := []
deriving DecidableEq, Inhabited

/-- The name of the definition that stands for the module. -/
def moduleName : Text := Text.ofString "<module>"

namespace Definition

/-- Is it the definition that stands for the module? -/
def isModule (d : Definition) : Bool := d.kind == .module

/-- What identifies a definition in a model: its file, its qualified name and its lines. -/
def key (d : Definition) : Text :=
  d.filePath ++ Text.unit ':' :: d.qualifiedName ++ Text.unit ':' :: d.startLine.toText
    ++ Text.unit '-' :: d.endLine.toText

end Definition

namespace RepoModel

/-- The model of a path. -/
def file? (m : RepoModel) (path : Text) : Option FileModel := m.files.lookup path

/-- The number of definitions in all files. -/
def countDefinitions (m : RepoModel) : Nat :=
  m.files.foldr (fun f n => f.2.definitions.length + n) 0

/-- All definitions, file by file. -/
def definitions (m : RepoModel) : List Definition := m.files.flatMap fun f => f.2.definitions

end RepoModel

end CallAtlas
