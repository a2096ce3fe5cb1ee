import CallAtlas.Json.Printer
import CallAtlas.Model.Basic

/-!
# Models as documents

A model is stored as one JSON document with a format version, the metadata of the model and its
files by path.
-/

namespace CallAtlas

/-- What is known of a model as a whole. -/
structure RepoMetadata where
  /-- The repository that the model is of. -/
  repository : Text
  /-- The ref that was asked for. -/
  ref : Text
  /-- What identifies the content that the model was made from. -/
  fingerprint : Option Text := none
  generatedAt : Text
  /-- The version of the program that made the model. -/
  toolVersion : Text
deriving DecidableEq, Inhabited

/-- A call site as a document. -/
def CallSite.toJson (c : CallSite) : Json :=
  .object
    [("callee", .str c.callee), ("expression", .str c.expression), ("line", .num c.line),
      ("column", .num c.column)]

namespace Definition

/-- The members of a definition but for its calls. -/
def headMembers (d : Definition) : List (String × Json) :=
  [("kind", (d.kind.name : Json)), ("name", .str d.name),
    ("qualifiedName", .str d.qualifiedName)]
  ++ Json.optional "className" Json.str d.className
  ++ [("filePath", .str d.filePath), ("startLine", .num d.startLine), ("endLine", .num d.endLine)]

/-- A definition as a document. -/
def toJson (d : Definition) : Json :=
  .object (d.headMembers ++ [("calls", .arr (d.calls.map CallSite.toJson))])

end Definition

/-- The model of a file as a document. -/
def FileModel.toJson (f : FileModel) : Json :=
  .object
    [("language", .str f.language), ("lineCount", .num f.lineCount),
      ("definitions", .arr (f.definitions.map Definition.toJson)),
      ("imports", .arr (f.imports.map Json.str))]

/-- Metadata as a document. -/
def RepoMetadata.toJson (m : RepoMetadata) : Json :=
  .object
    ([("repository", .str m.repository), ("ref", .str m.ref)]
      ++ Json.optional "fingerprint" Json.str m.fingerprint
      ++ [("generatedAt", .str m.generatedAt), ("toolVersion", .str m.toolVersion)])

namespace RepoModel

/-- The version of the format of stored models. -/
def formatVersion : Nat := 2

/-- The document of metadata and files that are documents already. -/
def documentOf (metadata : Json) (files : List (Text × Json)) : Json :=
  .object
    [("formatVersion", Json.ofNat formatVersion), ("metadata", metadata), ("files", .obj files)]

/-- A model with its metadata as a document. -/
def toDocument (m : RepoModel) (metadata : RepoMetadata) : Json :=
  documentOf metadata.toJson (m.files.map fun f => (f.1, f.2.toJson))

/-- The text of a stored document. -/
def documentText (document : Json) : Text := document.pretty ++ [Text.newline]

end RepoModel

end CallAtlas
