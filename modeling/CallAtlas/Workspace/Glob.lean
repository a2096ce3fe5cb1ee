import CallAtlas.Workspace.Files
import CallAtlas.Workspace.Glob.Source
import CallAtlas.Workspace.Ignore

/-!
# Glob patterns

A glob pattern describes paths from some directory. Its braces are expanded first, and each of the
patterns that result is matched as a regular expression. A search of a directory takes patterns of
files that are picked up and patterns of files that are left out.
-/

namespace CallAtlas

/-- A glob pattern without braces that list alternatives. -/
structure Glob where
  /-- What the paths that it describes match. -/
  regex : Regex
  foldCase : Bool
deriving Inhabited

namespace Glob

/-- Reads a pattern. One that makes no regular expression describes nothing. -/
def read (o : GlobOptions) (t : Text) : Except GlobFault Glob :=
  (GlobSource.ofPattern o t).map fun source => ⟨(Regex.ofText? source).getD .never, o.foldCase⟩

/-- Does a pattern describe a path? -/
def describes (g : Glob) (path : Text) : Bool := g.regex.test g.foldCase path

/-- A slash after another one is left out; one at the beginning does not count. -/
def dropRepeated : Text → Text
  | [] => []
  | u :: rest => u :: go false rest
where
  /-- The text without slashes after another one. -/
  go (after : Bool) : Text → Text
    | [] => []
    | u :: rest =>
      if u = Text.slash && after then go after rest else u :: go (u = Text.slash) rest

/-- The patterns that written patterns stand for. -/
def expandAll (written : List Text) : Except GlobFault (List Text) :=
  (written.mapM Braces.expand).map fun ps => ps.flatten.map dropRepeated

/-- A regular expression that a part of a text matches. -/
def holds (expression : String) (t : Text) : Bool := (Regex.ofString expression).test false t

/-- Does a pattern hold anything that does not stand for itself? -/
def isDynamic (t : Text) : Bool :=
  holds "[*?\\\\]|^!" t || holds "\\[[^[]*]" t || holds "(?:^|[^!*+?@])\\([^(]*\\|[^|]*\\)" t
    || holds "[!*+?@]\\([^(]*\\)" t || holds "^[^\x7b]*\x7b[^\x7d]*(?:,|\\.\\.)[^\x7d]*\x7d" t

/-! ## Searching -/

/-- How the patterns of files that are picked up are matched. -/
def pickOptions : GlobOptions := ⟨false, true⟩

/-- How the patterns of files that are left out are matched. -/
def leaveOptions : GlobOptions := ⟨true, true⟩

/-- A written pattern without the exclamation mark before it, unless that belongs to a group. -/
def unmarked (t : Text) : Text :=
  match t with
  | u :: rest =>
    if u = Text.unit '!' && rest.head? != some (Text.unit '(') then rest else t
  | [] => []

/-- The written patterns of files that are left out. -/
def leftOut (ignore : List Text) : Except GlobFault (List Text) :=
  (expandAll ignore).map fun ps => ps.map unmarked

/-- Does a written pattern leave out whole directories? -/
def closesDirectories (t : Text) : Bool :=
  (Text.ofString "/**").isSuffixOf t || !isDynamic (Path.baseName t)

/-- The files that are picked up and left out, by patterns for paths and for directories. -/
structure Selection where
  /-- Patterns of files that are picked up. -/
  picked : List Glob
  /-- Patterns for paths from the scanned directory of files that are left out. -/
  relative : List Glob
  /-- Patterns for absolute paths of files that are left out. -/
  absolute : List Glob
  /-- Patterns of directories that are not entered. -/
  closed : List Glob

/-- The files that some written patterns pick up and others do not leave out. -/
def selectionOf (patterns ignore : List Text) : Except GlobFault Selection := do
  let wanted ← expandAll patterns
  let unwanted ← leftOut ignore
  if wanted.isEmpty then return ⟨[], [], [], []⟩
  else
    return {
      picked := ← wanted.mapM (read pickOptions)
      relative := ← (unwanted.filter fun t => !Path.isAbsolute t).mapM (read leaveOptions)
      absolute := ← (unwanted.filter Path.isAbsolute).mapM (read leaveOptions)
      closed := ← (unwanted.filter closesDirectories).mapM (read pickOptions) }

/-- Is a file of the scanned directory picked up? -/
def Selection.selects (s : Selection) (directory path : Text) : Bool :=
  s.picked.any (fun g => g.describes path)
    && !s.relative.any (fun g => g.describes path)
    && !s.absolute.any (fun g => g.describes (FileSystem.opening directory ++ path))
    && !(Ignore.directoriesOf path).any fun d => s.closed.any fun g => g.describes d

/-- By the number of directories above, then by path. -/
def shallowFirst (a b : Text × Text) : Bool :=
  let depth (p : Text) : Nat := p.count Text.slash
  depth a.1 < depth b.1 || (depth a.1 == depth b.1 && !Text.before b.1 a.1)

/-- The files of a directory that are picked up by their names, in the order in which they are
met. -/
def candidates (fs : FileSystem) (directory : Text) (s : Selection) : List (Text × Text) :=
  ((fs.filesIn directory).filter fun f => s.selects directory f.1).mergeSort shallowFirst

/-- Why a directory cannot be scanned: there is a file in its place or above it, or its path is too
long. A directory that is missing can be scanned and holds nothing. -/
def scanFault? (fs : FileSystem) (directory : Text) : Option FileFault :=
  match fs.blocked? directory, fs.node? directory with
  | some .notDirectory, _ => some .notDirectory
  | some .tooLong, _ => some .tooLong
  | none, some (.file _) => some .notDirectory
  | _, _ => none

/-- Searches a directory for the files that written patterns select. -/
def find (fs : FileSystem) (directory : Text) (patterns ignore : List Text) :
    Except Text (List (Text × Text)) :=
  match selectionOf patterns ignore with
  | .error fault => .error fault.message
  | .ok selection =>
    match if selection.picked.isEmpty then none else scanFault? fs directory with
    | some fault => .error (fault.failure (FileFault.onPath "scandir" directory)).message
    | none => .ok (candidates fs directory selection)

end Glob

end CallAtlas
