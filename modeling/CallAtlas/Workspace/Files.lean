import CallAtlas.Failure
import CallAtlas.Path.Basic
import CallAtlas.Text.Literal

/-!
# Files

A file system maps absolute paths in normal form to files and directories. The root directory is
always there. An operation that fails tells why by a code, and by what it was doing with which
path; the path is shown as it was given. A path that was given with a slash at its end leads to a
directory only, and one that holds a unit that is zero is refused.
-/

namespace CallAtlas

/-- What a path leads to. -/
inductive FileNode where
  | file (content : Text)
  | directory
deriving DecidableEq, Inhabited

/-- Files and directories by path. -/
structure FileSystem where
  nodes : List (Text × FileNode) := []
deriving DecidableEq, Inhabited

/-- Why an operation on files fails. -/
inductive FileFault where
  | missing
  | notDirectory
  | isDirectory
  | alreadyThere
  /-- A segment of a path is too long. -/
  | tooLong
deriving DecidableEq

namespace FileFault

/-- The code of a fault. -/
def code : FileFault → String
  | missing => "ENOENT"
  | notDirectory => "ENOTDIR"
  | isDirectory => "EISDIR"
  | alreadyThere => "EEXIST"
  | tooLong => "ENAMETOOLONG"

/-- What a fault means. -/
def reason : FileFault → String
  | missing => "no such file or directory"
  | notDirectory => "not a directory"
  | isDirectory => "illegal operation on a directory"
  | alreadyThere => "file already exists"
  | tooLong => "name too long"

/-- The error of an operation. -/
def failure (fault : FileFault) (operation : Text) : Failure :=
  { kind := .general
    message := Text.ofString (fault.code ++ ": " ++ fault.reason ++ ", ") ++ operation
    code := some (fault.code : Json) }

/-- An operation and the path that it works on. -/
def onPath (operation : String) (path : Text) : Text :=
  Text.ofString (operation ++ " '") ++ path ++ [Text.unit '\'']

end FileFault

namespace FileSystem

/-- What a path leads to. -/
def node? (fs : FileSystem) (path : Text) : Option FileNode :=
  if path = [Text.slash] then some .directory else fs.nodes.lookup path

/-- Is there a directory? -/
def isDirectory (fs : FileSystem) (path : Text) : Bool := fs.node? path == some .directory

/-- Puts a node in its place, which is the end for a new path. -/
def put (path : Text) (node : FileNode) : List (Text × FileNode) → List (Text × FileNode)
  | [] => [(path, node)]
  | n :: ns => if n.1 = path then (path, node) :: ns else n :: put path node ns

/-- The directories above a path, the outermost first, without the root directory. -/
def above (path : Text) : List Text :=
  let segments := (Text.splitAt Text.slash path).filter fun s => s ≠ []
  (List.range (segments.length - 1)).map fun i =>
    Text.slash :: Text.join [Text.slash] (segments.take (i + 1))

/-- The largest number of bytes of a segment. -/
def maxSegment : Nat := 255

/-- Is the last segment of a path too long? -/
def isTooLong (path : Text) : Bool := maxSegment < (Path.baseName path).utf8Length

/-- Why a path cannot be walked: the first directory on the way to it is missing or a file, or a
segment is too long. -/
def blocked? (fs : FileSystem) (path : Text) : Option FileFault :=
  ((above path).findSome? fun d =>
    if isTooLong d then some .tooLong
    else
      match fs.node? d with
      | some .directory => none
      | some (.file _) => some .notDirectory
      | none => some .missing).or (if isTooLong path then some .tooLong else none)

/-- The error on a path that holds a unit that is zero. -/
def refused? (name : String) (shown : Text) : Option Failure :=
  if shown.any (· == 0) then
    some
      { kind := .type
        message := Text.ofString ("The argument '" ++ name
          ++ "' must be a string, Uint8Array, or URL without null bytes. Received ")
          ++ Text.literal shown
        code := some ("ERR_INVALID_ARG_VALUE" : Json) }
  else none

/-- The content of a file. -/
def read (fs : FileSystem) (path shown : Text) : Except Failure Text :=
  let fail (fault : FileFault) := .error (fault.failure (FileFault.onPath "open" shown))
  match refused? "path" shown, fs.blocked? path with
  | some f, _ => .error f
  | none, some fault => fail fault
  | none, none =>
    match fs.node? path with
    | some (.file content) => if Path.hasTrailingSlash shown then fail .notDirectory else .ok content
    | some .directory => .error (FileFault.isDirectory.failure (Text.ofString "read"))
    | none => fail .missing

/-- A text as it is read after it was written: a surrogate that stands alone becomes U+FFFD. -/
def wellFormed (content : Text) : Text := Text.ofString content.toString

/-- Writes a file. -/
def write (fs : FileSystem) (path shown content : Text) : Except Failure FileSystem :=
  let fail (fault : FileFault) := .error (fault.failure (FileFault.onPath "open" shown))
  match refused? "path" shown, fs.blocked? path with
  | some f, _ => .error f
  | none, some fault => fail fault
  | none, none =>
    match fs.node? path with
    | some .directory => fail .isDirectory
    | _ =>
      if Path.hasTrailingSlash shown then fail .isDirectory
      else .ok ⟨put path (.file (wellFormed content)) fs.nodes⟩

/-- Makes a directory and those above it, unless they are there. -/
def makeDirectory (fs : FileSystem) (path shown : Text) : Except Failure FileSystem :=
  let fail (fault : FileFault) := .error (fault.failure (FileFault.onPath "mkdir" shown))
  match refused? "path" shown, fs.blocked? path with
  | some f, _ => .error f
  | none, some .notDirectory => fail .notDirectory
  | none, some .tooLong => fail .tooLong
  | none, _ =>
    match fs.node? path with
    | some (.file _) => fail .alreadyThere
    | some .directory => .ok fs
    | none =>
      .ok ⟨(above path ++ [path]).foldl (fun ns d => put d .directory ns) fs.nodes⟩

/-- Moves a file to another path, where it takes the place of the file that is there. -/
def rename (fs : FileSystem) (source target shownSource shownTarget : Text) :
    Except Failure FileSystem :=
  let fail (fault : FileFault) :=
    .error (fault.failure
      (FileFault.onPath "rename" shownSource ++ Text.ofString " -> '" ++ shownTarget
        ++ [Text.unit '\'']))
  match (refused? "oldPath" shownSource).or (refused? "newPath" shownTarget),
    (fs.blocked? source).or (fs.blocked? target) with
  | some f, _ => .error f
  | none, some fault => fail fault
  | none, none =>
    match fs.node? source, fs.node? target with
    | some (.file content), there =>
      if Path.hasTrailingSlash shownTarget then fail .notDirectory
      else if there = some .directory then fail .isDirectory
      else .ok ⟨put target (.file content) (fs.nodes.filter fun n => n.1 ≠ source)⟩
    | some .directory, _ =>
      .ok ⟨put target .directory (fs.nodes.filter fun n => n.1 ≠ source)⟩
    | none, _ => fail .missing

/-- The path with a slash after it. -/
def opening (directory : Text) : Text :=
  if Path.hasTrailingSlash directory then directory else directory ++ [Text.slash]

/-- Removes what a path leads to, with all that is in it. -/
def remove (fs : FileSystem) (path : Text) : FileSystem :=
  ⟨fs.nodes.filter fun n => n.1 ≠ path && !(opening path).isPrefixOf n.1⟩

/-- The files in a directory and the directories in it, by their paths from there. -/
def filesIn (fs : FileSystem) (directory : Text) : List (Text × Text) :=
  fs.nodes.filterMap fun n =>
    match n.2 with
    | .file content =>
      if (opening directory).isPrefixOf n.1 then some (n.1.drop (opening directory).length, content)
      else none
    | .directory => none

end FileSystem

end CallAtlas
