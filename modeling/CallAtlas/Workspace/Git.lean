import CallAtlas.Workspace.Files
import CallAtlas.Workspace.Git.Config
import CallAtlas.Workspace.Ignore

/-!
# Work trees under version control

A repository of git holds commits, each with the files of the work tree and the commit before it.
Names of commits are kept as files in a directory of the repository's own: a name leads to the id
of a commit or to another name, and `HEAD` is the name of what is checked out. The work tree is a
directory of the file system. It is dirty when a tracked file differs from what was committed or
when there is a file that is neither tracked nor ignored, unless the settings tell to pass over such
files.
-/

namespace CallAtlas

/-- A commit: the files of the work tree by their paths from its top. -/
structure GitCommit where
  id : Text
  /-- The id of the commit before it. -/
  parent : Option Text := none
  message : Text := []
  tree : List (Text × Text)
deriving DecidableEq, Inhabited

/-- A change of what a name stands for. -/
structure NameChange where
  /-- The id that it stood for before; none if the name is new. -/
  before : Option Text
  /-- The id that it stands for since. -/
  after : Text
deriving DecidableEq, Inhabited

/-- A repository. -/
structure GitRepository where
  /-- The top directory of the work tree. -/
  top : Text
  /-- All commits, the last one first. -/
  commits : List GitCommit := []
  /-- The changes of names that are logged, by the full names, the last one first. -/
  logs : List (Text × List NameChange) := []
  /-- The tracked files as they are to be committed. -/
  index : List (Text × Text) := []
deriving DecidableEq, Inhabited

namespace Git

/-! ## The repository's own directory -/

/-- The name of the directory that holds a repository. -/
def repositoryDirectory : Text := Text.ofString ".git"

/-- The path of something in a repository's own directory. -/
def pathIn (top name : Text) : Text :=
  FileSystem.opening (FileSystem.opening top ++ repositoryDirectory) ++ name

/-- The name of what is checked out. -/
def headName : Text := Text.ofString "HEAD"

/-- What a name before another name begins with. -/
def symbolMark : Text := Text.ofString "ref:"

/-- The text without white space at its end. -/
def trimEnd (t : Text) : Text := (t.reverse.dropWhile GitConfig.isSpace).reverse

/-- The name that a name leads to, if its file holds no id. -/
def symbol? (content : Text) : Option Text :=
  if symbolMark.isPrefixOf content then
    some (trimEnd ((content.drop symbolMark.length).dropWhile GitConfig.isSpace))
  else none

/-- Puts a file of a new repository in its place. -/
def place (fs : FileSystem) (top name : Text) (node : FileNode) : FileSystem :=
  ⟨FileSystem.put (pathIn top name) node fs.nodes⟩

/-- The files that a new repository holds, by their names in its directory. -/
def newFiles : List (String × String) :=
  [("HEAD", "ref: refs/heads/main\n"),
    ("config", "[core]\n\trepositoryformatversion = 0\n\tfilemode = true\n\tbare = false\n"
      ++ "\tlogallrefupdates = true\n"),
    ("description",
      "Unnamed repository; edit this file 'description' to name the repository.\n"),
    ("info/exclude", "# git ls-files --others --exclude-from=.git/info/exclude\n"
      ++ "# Lines that start with '#' are comments.\n"
      ++ "# For a project mostly in C, the following would be a good set of\n"
      ++ "# exclude patterns (uncomment them if you want to use them):\n# *.[oa]\n# *~\n")]

/-- The files with a new repository, whose first branch is `main`. -/
def create (fs : FileSystem) (top : Text) : FileSystem :=
  let home := FileSystem.opening top ++ repositoryDirectory
  let fs : FileSystem := ⟨FileSystem.put home .directory fs.nodes⟩
  let directories := ["info", "objects", "refs", "refs/heads", "refs/tags"]
  let fs := directories.foldl (fun fs d => place fs top (Text.ofString d) .directory) fs
  newFiles.foldl (fun fs f => place fs top (Text.ofString f.1) (.file (Text.ofString f.2))) fs

/-- The content of a file of a repository. -/
def content? (fs : FileSystem) (top name : Text) : Option Text :=
  match fs.node? (pathIn top name) with
  | some (.file content) => some content
  | _ => none

/-- The commit of an id. -/
def commitOf? (r : GitRepository) (id : Text) : Option GitCommit :=
  r.commits.find? fun c => c.id = id

/-- How many digits an id has. -/
def idLength : Nat := 40

/-- Is the unit a hexadecimal digit? -/
def isHexDigit (u : CodeUnit) : Bool :=
  GitConfig.isDigit u || (65 ≤ u && u ≤ 70) || (97 ≤ u && u ≤ 102)

/-- Is the text an id? There need not be anything with it. -/
def isId (r : GitRepository) (t : Text) : Bool :=
  (commitOf? r t).isSome || (t.length = idLength && t.all isHexDigit)

/-- The id that a text holds at its beginning. -/
def id? (r : GitRepository) (content : Text) : Option Text :=
  let id := content.takeWhile fun u => !GitConfig.isSpace u
  if isId r id then some id else none

/-- Do forty digits of an id stand at the beginning of a text? -/
def beginsWithId (t : Text) : Bool := idLength ≤ t.length && (t.take idLength).all isHexDigit

/-- The lines of a text; behind the last line end there is none. -/
def linesOf (t : Text) : List Text :=
  let lines := Text.splitAt Text.newline t
  if lines.getLast? = some [] then lines.dropLast else lines

/-- Can commits be read? A file with the ids of those whose history is cut off must be in order. -/
def isReadable (r : GitRepository) (fs : FileSystem) : Bool :=
  (content? fs r.top (Text.ofString "shallow")).all fun content =>
    (linesOf content).all beginsWithId

/-- The settings of a repository. -/
def settings? (r : GitRepository) (fs : FileSystem) : Option (List GitSetting) :=
  match fs.node? (pathIn r.top (Text.ofString "config")) with
  | none => some []
  | some (.file content) =>
    (GitConfig.ofText? content).filter fun settings => settings.all GitConfig.isSound
  | some .directory => none

/-- Does a repository share its names and commits with no other one? A file may name the directory
where they are kept. -/
def isWhole (r : GitRepository) (fs : FileSystem) : Bool :=
  let home := FileSystem.opening r.top ++ repositoryDirectory
  let isLineEnd (u : CodeUnit) : Bool := u = Text.newline || u = 13
  match fs.node? (pathIn r.top (Text.ofString "commondir")) with
  | none => true
  | some .directory => false
  | some (.file content) =>
    !content.isEmpty && Path.resolve home (content.reverse.dropWhile isLineEnd).reverse = home

/-- Has a repository a work tree, and is its directory in order? What is checked out must be a name
in it or a commit. -/
def isValid (r : GitRepository) (fs : FileSystem) : Bool :=
  ((settings? r fs).any fun settings => !GitConfig.isBare settings) && isWhole r fs
    && fs.isDirectory (pathIn r.top (Text.ofString "objects"))
    && fs.isDirectory (pathIn r.top (Text.ofString "refs"))
    && (match content? fs r.top headName with
        | none => false
        | some content =>
          match symbol? content with
          | some name => (Text.ofString "refs/").isPrefixOf name
          | none => (id? r content).isSome)

/-! ## Names -/

/-- May a unit stand in a name? -/
def isNameUnit (u : CodeUnit) : Bool :=
  0x20 < u && u ≠ 0x7F && !(Text.ofString "~^:?*[\\").any (· == u)

/-- Is a segment of a name in order? -/
def isNameSegment (t : Text) : Bool :=
  !t.isEmpty && t.head? != some Text.dot && t.all isNameUnit
    && !Text.contains (Text.ofString "..") t && !Text.contains (Text.ofString "@\x7b") t
    && !(Text.ofString ".lock").isSuffixOf t

/-- Is a name in order? -/
def isName (t : Text) : Bool :=
  t ≠ Text.ofString "@" && t.getLast? ≠ some Text.dot
    && (Text.splitAt Text.slash t).all isNameSegment

/-- What the file of the names that are kept together begins with, if it begins with a comment. -/
def packedMark : Text := Text.ofString "# pack-refs with: "

/-- The name and the id of a line of that file; none but an id is read behind a caret. -/
def packedLine? (line : Text) : Option (List (Text × Text)) :=
  let isHex (t : Text) : Bool := t.length = idLength && t.all isHexDigit
  if line.head? = some (Text.unit '^') then
    if isHex (line.drop 1) then some [] else none
  else
    let name := line.drop (idLength + 1)
    if isHex (line.take idLength) && (line.drop idLength).head?.any GitConfig.isSpace && !name.isEmpty then
      some [(name, line.take idLength)]
    else none

/-- The names that are kept together in one file, with their ids; none if the file is not in order. -/
def packed? (r : GitRepository) (fs : FileSystem) : Option (List (Text × Text)) :=
  match fs.node? (pathIn r.top (Text.ofString "packed-refs")) with
  | none | some (.file []) => some []
  | some .directory => none
  | some (.file content) =>
    let lines := Text.splitAt Text.newline content
    let body := if packedMark.isPrefixOf content then lines.drop 1 else lines
    if lines.getLast? ≠ some [] then none
    else (body.dropLast.mapM packedLine?).map List.flatten

/-- What a full name of the first work tree begins with. -/
def firstMark : Text := Text.ofString "main-worktree/"

/-- Does each work tree have a name of its own of this spelling? -/
def isOfWorkTree (name : Text) : Bool :=
  (name.all fun u => (65 ≤ u && u ≤ 90) || u = Text.unit '-' || u = Text.unit '_')
    || ["refs/worktree/", "refs/bisect/", "refs/rewritten/"].any fun s =>
      (Text.ofString s).isPrefixOf name

/-- The file of a full name. -/
def fileName (name : Text) : Text :=
  let own := name.drop firstMark.length
  if firstMark.isPrefixOf name && isOfWorkTree own then own else name

/-- What is written of a full name. -/
def written? (r : GitRepository) (fs : FileSystem) (name : Text) : Option Text :=
  (content? fs r.top (fileName name)).or (((packed? r fs).getD []).lookup name)

/-- The full name that a full name leads to in the end, and its id. -/
def follow? (r : GitRepository) (fs : FileSystem) : (fuel : Nat) → Text → Option (Text × Text)
  | 0, _ => none
  | n + 1, name =>
    if !isName name then none
    else
      (written? r fs name).bind fun content =>
        match symbol? content with
        | some target => follow? r fs n target
        | none => (id? r content).map fun id => (name, id)

/-- The full names that a name may be short for, in the order in which they are tried. -/
def fullNames (name : Text) : List Text :=
  let behind (before : String) : Text := Text.ofString before ++ name
  [name, behind "refs/", behind "refs/tags/", behind "refs/heads/", behind "refs/remotes/",
    behind "refs/remotes/" ++ Text.ofString "/HEAD"]

/-- How many names may lead to one another. -/
def maxSteps : Nat := 5

/-- The first of the full names of a name that leads to an id. -/
def find? (r : GitRepository) (fs : FileSystem) (name : Text) : Option (Text × Text) :=
  let name := if name = Text.ofString "@" then headName else name
  (fullNames name).findSome? (follow? r fs maxSteps)

/-- The id that is checked out. -/
def headId? (r : GitRepository) (fs : FileSystem) : Option Text :=
  (follow? r fs maxSteps headName).map Prod.snd

/-- The commit that is checked out. -/
def head? (r : GitRepository) (fs : FileSystem) : Option GitCommit :=
  (headId? r fs).bind (commitOf? r)

/-! ## Logs of names -/

/-- The name of the file with the changes of a name. -/
def logName (name : Text) : Text := Text.ofString "logs/" ++ name

/-- What the file with the changes of a name holds here; the changes themselves are part of the
repository. -/
def logMark : Text := Text.ofString "log\n"

/-- The changes of a name, the last one first; none if they are not logged. -/
def log? (r : GitRepository) (fs : FileSystem) (name : Text) : Option (List NameChange) :=
  let file := fileName name
  (content? fs r.top (logName file)).map fun content =>
    if content = logMark then (r.logs.lookup file).getD [] else []

/-! ## Work trees -/

/-- Does a path from the top lead into a repository, this one or one in another directory? -/
def isInternal (path : Text) : Bool := (Text.splitAt Text.slash path).contains repositoryDirectory

/-- The files of the work tree. -/
def workFiles (r : GitRepository) (fs : FileSystem) : List (Text × Text) :=
  (fs.filesIn r.top).filter fun f => !isInternal f.1

/-- The rules that tell which files are ignored; those of the settings and of the repository itself
count least. -/
def rules (r : GitRepository) (fs : FileSystem) : List Ignore.Rule :=
  let further := ((settings? r fs).bind GitConfig.ignoreFile?).bind fun path =>
    match fs.node? (Path.resolve r.top path) with
    | some (.file content) => some content
    | _ => none
  Ignore.rulesIn [] (further.getD [])
    ++ Ignore.rulesIn [] ((content? fs r.top (Text.ofString "info/exclude")).getD [])
    ++ Ignore.rulesOf (workFiles r fs)

/-! ## Tracked files -/

/-- The name of the file that tells which files are tracked. -/
def indexName : Text := Text.ofString "index"

/-- What the file of the tracked files begins with. Here it holds nothing else; the files themselves
are part of the repository. -/
def indexMark : Text := Text.ofString "DIRC\x00\x00\x00\x02"

/-- The least number of bytes of such a file. -/
def leastIndex : Nat := 32

/-- The number that bytes make, the last one counting most. -/
def signature (bytes : List UInt8) : Nat := bytes.foldr (fun b n => 256 * n + b.toNat) 0

/-- The number that bytes make in 32 bits with a sign, the first one counting most. -/
def version (bytes : List UInt8) : Int := (signature bytes.reverse : Int).bmod 4294967296

/-- What is said of a file that does not tell which files are tracked. -/
def indexFault (content : Text) : Text :=
  let bytes := Text.toUtf8 content
  if bytes.length < leastIndex then
    Text.ofString "fatal: .git/index: index file smaller than expected\n"
  else
    let digits := Nat.toDigits 16 (signature (bytes.take 4))
    let fault :=
      if bytes.take 4 = Text.toUtf8 (indexMark.take 4) then
        "index version " ++ toString (version ((bytes.drop 4).take 4))
      else "signature 0x" ++ String.ofList (List.replicate (8 - digits.length) '0' ++ digits)
    Text.ofString ("error: bad " ++ fault ++ "\nfatal: index file corrupt\n")

/-- The tracked files, or what is said where they are not told. -/
def tracked (r : GitRepository) (fs : FileSystem) : Except Text (List (Text × Text)) :=
  match fs.node? (pathIn r.top indexName) with
  | none => .ok []
  | some (.file content) =>
    if content = indexMark then .ok r.index else .error (indexFault content)
  | some .directory =>
    .error (Text.ofString "fatal: .git/index: unable to map index file: No such device\n")

/-- Are the files of two trees the same? -/
def sameTree (a b : List (Text × Text)) : Bool :=
  a.length == b.length && a.all fun f => b.lookup f.1 == some f.2

/-- Does the work tree differ from the commit that is checked out? What is said instead where that
cannot be told. -/
def isDirty (r : GitRepository) (fs : FileSystem) : Except Text Bool := do
  let showsUntracked ← GitConfig.showsUntracked ((settings? r fs).getD [])
  let index ← tracked r fs
  let files := workFiles r fs
  let rules := rules r fs
  let isUntracked (path : Text) : Bool :=
    (index.lookup path).isNone && !Ignore.isIgnored rules path
  return !sameTree (((head? r fs).map GitCommit.tree).getD []) index
    || index.any (fun t => files.lookup t.1 != some t.2)
    || (showsUntracked && files.any fun f => isUntracked f.1)

end Git

end CallAtlas
