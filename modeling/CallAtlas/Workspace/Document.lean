import CallAtlas.Json.Decoder
import CallAtlas.Workspace.Basic
import CallAtlas.Workspace.Git.Commit

/-!
# Workspaces as documents

A workspace is written as one JSON document, so that a command can be run on it anywhere: the
directory that the command runs in, the files by their absolute paths, the environment variables
and, if there is one, the repository of git.
-/

namespace CallAtlas

namespace FileSystem

/-- The files with one more file, the directories above it included; nothing changes where there is
no room for it. -/
def add (fs : FileSystem) (file : Text × Text) : FileSystem :=
  let directory := Path.parent file.1
  match fs.makeDirectory directory directory with
  | .error _ => fs
  | .ok made =>
    match made.write file.1 file.1 file.2 with
    | .error _ => fs
    | .ok written => written

/-- The files of a list, in a directory that is there even if it is empty. -/
def ofFiles (directory : Text) (files : List (Text × Text)) : FileSystem :=
  let empty : FileSystem := {}
  match empty.makeDirectory directory directory with
  | .error _ => files.foldl add empty
  | .ok made => files.foldl add made

/-- All files with their contents. -/
def files (fs : FileSystem) : List (Text × Text) :=
  fs.nodes.filterMap fun n =>
    match n.2 with
    | .file content => some (n.1, content)
    | .directory => none

end FileSystem

namespace Workspace

open Decoder

/-- A commit as a document holds it. -/
structure WrittenCommit where
  id : Text
  message : Text
  /-- Its files by their paths from the top. -/
  tree : List (Text × Text)

/-- A repository as a document holds it: one line of commits, the newest one first, and the ids that
tags stand for. -/
structure WrittenRepository where
  top : Text
  commits : List WrittenCommit
  tags : List (Text × Text)

/-- A commit. -/
def commitDecoder : Decoder WrittenCommit :=
  object
    (build WrittenCommit.mk
      |> (andField · "id" (text 1))
      |> (andField · "message" (orElse (.str []) (text 0)))
      |> (andField · "files" (entries (text 0))))

/-- A repository. -/
def repositoryDecoder : Decoder WrittenRepository :=
  object
    (build WrittenRepository.mk
      |> (andField · "top" (text 1))
      |> (andField · "commits" (list commitDecoder))
      |> (andField · "tags" (orElse (.obj []) (entries (text 0)))))

/-- Commits with those before them. -/
def linked : List WrittenCommit → List GitCommit
  | [] => []
  | c :: older =>
    ⟨c.id, (older.head?).map WrittenCommit.id, Git.cleaned c.message, c.tree⟩ :: linked older

/-- The name of the branch that a written repository has checked out. -/
def branch : Text := Text.ofString "refs/heads/main"

/-- The repository that is written. -/
def repositoryOf (w : WrittenRepository) : GitRepository :=
  let commits := linked w.commits
  let changes := commits.map fun c => (⟨c.parent, c.id⟩ : NameChange)
  { top := w.top
    commits
    logs := [(Git.headName, changes), (branch, changes)]
    index := ((commits.head?).map GitCommit.tree).getD [] }

/-- The files with those of a written repository. -/
def withRepository (fs : FileSystem) (w : WrittenRepository) : FileSystem :=
  let name (fs : FileSystem) (n : Text × Text) : FileSystem :=
    Git.place fs w.top n.1 (.file (n.2 ++ [Text.newline]))
  let tags := w.tags.map fun t => (Text.ofString "refs/tags/" ++ t.1, t.2)
  let heads := ((w.commits.head?).map fun c => (branch, c.id)).toList
  let directories := ["logs", "logs/refs", "logs/refs/heads"].map Text.ofString
  let empty := directories.foldl (fun fs d => Git.place fs w.top d .directory) (Git.create fs w.top)
  let made := Git.place empty w.top Git.indexName (.file Git.indexMark)
  let logs := [Git.headName, branch].map fun n => (Git.logName n, Git.logMark.dropLast)
  (logs ++ heads ++ tags).foldl name made

/-- A workspace of its parts. -/
def ofParts (directory : Text) (files : List (Text × Text)) (git : Option WrittenRepository)
    (values : List (Text × Text)) : Workspace :=
  let plain := FileSystem.ofFiles directory files
  { directory
    files := (git.map (withRepository plain)).getD plain
    git := git.map repositoryOf
    environment := Environment.ofList values }

/-- A workspace. -/
def decoder : Decoder Workspace :=
  object
    (build ofParts
      |> (andField · "directory" (text 1))
      |> (andField · "files" (orElse (.obj []) (entries (text 0))))
      |> (andField · "git" (Decoder.optional repositoryDecoder))
      |> (andField · "environment" (orElse (.obj []) (entries (text 0)))))

/-- The directory and the files of a workspace. -/
def toJson (w : Workspace) : Json :=
  .object
    [("directory", .str w.directory),
      ("files", Json.ofMembers (w.files.files.map fun f => (f.1, .str f.2)))]

end Workspace

end CallAtlas
