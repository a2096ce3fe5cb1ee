import CallAtlas.Json.Decoder
import CallAtlas.Model.Document

/-!
# Models from documents

A stored document is decoded with all that its numbers, kinds and names have to satisfy. At most
five issues of a corrupt document are reported.
-/

namespace CallAtlas

/-- A model with its metadata. -/
structure PersistedModel where
  metadata : RepoMetadata
  model : RepoModel
deriving DecidableEq, Inhabited

namespace Stored

open Decoder

/-- The kinds of definitions by name. -/
def kinds : List (String × DefinitionKind) :=
  [DefinitionKind.declared .function, .declared .method, .declared .class, .module].map
    fun k => (k.name, k)

/-- A call site. -/
def callSite : Decoder CallSite :=
  object
    (build CallSite.mk
      |> (andField · "callee" (text 0))
      |> (andField · "expression" (text 0))
      |> (andField · "line" (integer 1 none))
      |> (andField · "column" (integer 0 none)))

/-- A definition. -/
def definition : Decoder Definition :=
  object
    (build Definition.mk
      |> (andField · "kind" (choice kinds))
      |> (andField · "name" (text 1))
      |> (andField · "qualifiedName" (text 1))
      |> (andField · "className" (optional (text 0)))
      |> (andField · "filePath" (text 0))
      |> (andField · "startLine" (integer 1 none))
      |> (andField · "endLine" (integer 1 none))
      |> (andField · "calls" (list callSite)))

/-- The model of a file. -/
def fileModel : Decoder FileModel :=
  object
    (build FileModel.mk
      |> (andField · "language" (text 1))
      |> (andField · "lineCount" (integer 0 none))
      |> (andField · "definitions" (list definition))
      |> (andField · "imports" (list (text 0))))

/-- Metadata. -/
def metadata : Decoder RepoMetadata :=
  object
    (build RepoMetadata.mk
      |> (andField · "repository" (text 0))
      |> (andField · "ref" (text 0))
      |> (andField · "fingerprint" (optional (text 0)))
      |> (andField · "generatedAt" (text 0))
      |> (andField · "toolVersion" (text 0)))

/-- A stored document. -/
def document : Decoder PersistedModel :=
  object
    (build (fun (_ : Unit) m fs => ⟨m, ⟨fs⟩⟩)
      |> (andField · "formatVersion" (literal RepoModel.formatVersion))
      |> (andField · "metadata" metadata)
      |> (andField · "files" (entries fileModel)))

/-- How many issues are reported. -/
def reportedIssues : Nat := 5

/-- The report of the issues of a document. -/
def report (issues : List Issue) : Text :=
  Text.ofString "Model is corrupt: "
    ++ Text.join (Text.ofString "; ") ((issues.take reportedIssues).map Issue.line)

/-- The model of a document, or the report of its issues. -/
def decode (j : Json) : Except Text PersistedModel := (document (some j)).mapError report

end Stored

end CallAtlas
