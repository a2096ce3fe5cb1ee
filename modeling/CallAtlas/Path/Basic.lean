import CallAtlas.Text.Casing

/-!
# Paths

Paths are texts with forward slashes. They are normalised lexically, without looking at a file
system: empty segments and `.` vanish, and `..` takes back the segment before it. A relative path
may begin with `..`, an absolute one drops it.
-/

namespace CallAtlas.Path

/-- The path with forward slashes only. -/
def toForward (p : Text) : Text :=
  p.map fun u => if u = Text.backslash then Text.slash else u

/-- The segment `.`. -/
abbrev here : Text := [Text.dot]

/-- The segment `..`. -/
abbrev up : Text := [Text.dot, Text.dot]

/-- Does the path begin at the root of the file system? -/
def isAbsolute (p : Text) : Bool := p.head? == some Text.slash

/-- Does the path end in a slash? -/
def hasTrailingSlash (p : Text) : Bool := p.getLast? == some Text.slash

/-- Takes one segment; the segments so far are held the last one first. -/
def enter (absolute : Bool) (walked : List Text) (segment : Text) : List Text :=
  if segment = [] ∨ segment = here then walked
  else if segment = up then
    match walked with
    | [] => if absolute then [] else [up]
    | last :: rest => if last = up then up :: walked else rest
  else segment :: walked

/-- The segments of a path after lexical resolution. -/
def resolvedSegments (absolute : Bool) (segments : List Text) : List Text :=
  (segments.foldl (enter absolute) []).reverse

/-- The path in normal form; the empty path becomes `.`. -/
def posixNormal (p : Text) : Text :=
  let absolute := isAbsolute p
  let body := Text.join [Text.slash] (resolvedSegments absolute (Text.splitAt Text.slash p))
  if body = [] then
    if absolute then [Text.slash]
    else if hasTrailingSlash p then [Text.dot, Text.slash]
    else here
  else
    (if absolute then [Text.slash] else []) ++ body
      ++ if hasTrailingSlash p then [Text.slash] else []

/-- The canonical form of a repository path: forward slashes, no `./` at the beginning and no
redundant segment. -/
def normalize (p : Text) : Text :=
  if p = [] then []
  else
    let n := posixNormal (toForward p)
    if [Text.dot, Text.slash].isPrefixOf n then n.drop 2 else n

/-- The path without the slashes at its end. -/
def dropTrailingSlashes (p : Text) : Text :=
  (p.reverse.dropWhile fun u => u = Text.slash).reverse

/-- The last segment. -/
def baseName (p : Text) : Text :=
  ((Text.splitAt Text.slash (dropTrailingSlashes p)).getLast?).getD []

/-- The extension of a path with its dot: what follows the last dot of the last segment, unless
that dot is the first unit or the segment is `..`. -/
def extension (p : Text) : Text :=
  let name := baseName p
  let tail := (name.reverse.takeWhile fun u => u ≠ Text.dot).reverse
  if name.length ≤ tail.length + 1 || name = up then [] else Text.dot :: tail

/-- The extension of a repository path in lower case. -/
def extensionOf (p : Text) : Text := (extension (normalize p)).toLower

/-- The absolute path that a path stands for, seen from an absolute directory. -/
def resolve (base p : Text) : Text :=
  let whole := if isAbsolute p then p else base ++ Text.slash :: p
  Text.slash :: Text.join [Text.slash] (resolvedSegments true (Text.splitAt Text.slash whole))

/-- The directory that holds an absolute path in normal form. -/
def parent (p : Text) : Text :=
  let segments := (Text.splitAt Text.slash p).filter fun s => s ≠ []
  Text.slash :: Text.join [Text.slash] segments.dropLast

/-- Does a repository path lead out of the directory that it starts from? -/
def traverses (p : Text) : Bool :=
  let n := normalize p
  n == up || (up ++ [Text.slash]).isPrefixOf n
    || Text.contains (Text.slash :: up ++ [Text.slash]) n || (Text.slash :: up).isSuffixOf n

/-- Why a path was refused. -/
inductive ResolveError where
  /-- The path leads out of the root directory. -/
  | escapesRoot (path : Text)
deriving DecidableEq

/-- The message of a refusal. -/
def ResolveError.message : ResolveError → Text
  | .escapesRoot path => Text.ofString "Path escapes repository root: " ++ path

/-- The absolute path of a repository path inside a root directory; paths that would leave it
are refused. `directory` is the directory that a relative root is seen from. -/
def resolveWithin (directory root p : Text) : Except ResolveError Text :=
  if traverses p || isAbsolute p then .error (.escapesRoot p)
  else
    let base := resolve directory root
    let target := resolve base p
    let opening := if hasTrailingSlash base then base else base ++ [Text.slash]
    if target != base && !opening.isPrefixOf target then .error (.escapesRoot p) else .ok target

end CallAtlas.Path
