import CallAtlas.Workspace.Environment
import CallAtlas.Workspace.Git

/-!
# The workspace

The workspace is what the program sees of its surroundings: the directory that it runs in, the
files, the repository of git if there is one, and the environment variables.
-/

namespace CallAtlas

/-- The surroundings of the program. -/
structure Workspace where
  /-- The directory that relative paths are seen from. -/
  directory : Text
  files : FileSystem := {}
  git : Option GitRepository := none
  environment : Environment := {}
deriving Inhabited

namespace Workspace

/-- The absolute path that a path stands for by its text, where `..` takes back the segment before
it. An operation on files follows a path instead, and fails where `..` leads out of a directory that
is missing; it comes to the same place where each `..` leads out of a directory that is there. There
are no symbolic links. -/
def absolute (w : Workspace) (path : Text) : Text := Path.resolve w.directory path

/-- The content of a file. -/
def read (w : Workspace) (path : Text) : Except Failure Text := w.files.read (w.absolute path) path

/-- The node that a path leads to. -/
def node? (w : Workspace) (path : Text) : Option FileNode := w.files.node? (w.absolute path)

/-- The directories of a path and above it, from the path on. -/
def ascend (path : Text) : List Text :=
  path :: (FileSystem.above path).reverse ++ if path = [Text.slash] then [] else [[Text.slash]]

/-- The name of the file that a package has in its directory. -/
def packageFile : Text := Text.ofString "package.json"

/-- The nearest directory at or above a path that holds a package; the path itself if there is
none within a number of directories. -/
def packageRoot (w : Workspace) (path : Text) (maxDepth : Nat) : Text :=
  let start := w.absolute path
  (((ascend start).take maxDepth).find? fun d =>
    (w.files.node? (FileSystem.opening d ++ packageFile)).isSome).getD start

end Workspace

end CallAtlas
