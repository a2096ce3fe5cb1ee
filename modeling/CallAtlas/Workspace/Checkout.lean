import CallAtlas.Digest.FileSet
import CallAtlas.Sync.Basic
import CallAtlas.Workspace.Basic
import CallAtlas.Workspace.Glob
import CallAtlas.Workspace.Revision

/-!
# Directories as repositories

A directory of the workspace serves as a repository. Under version control its ref must be the one
that is checked out; any other directory has the ref `HEAD` alone. A clean work tree is identified
by its commit, a dirty one by its commit and the digest of its files, and any other directory by
the digest of its files.

The commands of version control and the search for files are tools that a directory is looked at
with. All that is done with their answers is written for any tools; the standard ones are the
commands of `Git` and the patterns of `Glob`.
-/

namespace CallAtlas

/-- Which files of a directory are picked up. -/
structure CheckoutOptions where
  /-- Patterns of files that are left out. -/
  ignore : List Text
  /-- Files above this size are left out. -/
  maxFileBytes : Number := Index.defaultMaxFileBytes
  /-- The extensions of the files; all that have an adapter if none are given. -/
  extensions : Option (List Text) := none
  /-- How many files are read at once. -/
  readConcurrency : Number := 16

/-- The state of a work tree. -/
structure GitState where
  /-- The id of the commit that is checked out. -/
  commit : Text
  /-- Does the work tree differ from the commit? -/
  dirty : Bool
deriving DecidableEq, Inhabited

namespace Checkout

/-- The patterns of files that are left out where nothing else is said. -/
def defaultIgnore : List Text :=
  ["**/node_modules/**", "**/dist/**", "**/build/**", "**/.git/**"].map Text.ofString

/-- The options where nothing else is said. -/
def defaultOptions : CheckoutOptions := { ignore := defaultIgnore }

/-! ## Errors -/

/-- An error that tells that content could not be fetched. -/
def fetchFailure (message : Text) (cause : Option Text) : Thrown :=
  .failure { Failure.of .fetch message with cause }

/-- An error that tells that a command failed, and what it said. -/
def commandFailure (directory : Text) (command : String) (said : Text) : Thrown :=
  let message := Text.ofString ("Command failed: git " ++ command ++ "\n") ++ said
  fetchFailure (Text.ofString "git failed in " ++ directory ++ Text.ofString ": " ++ message)
    (some message)

/-- An error that tells that another commit is checked out than the one that a ref points at. -/
def otherHead (directory ref head commit : Text) : Thrown :=
  fetchFailure (Text.ofString "Work tree of " ++ directory ++ Text.ofString " is at " ++ head
    ++ Text.ofString ", not at " ++ ref ++ Text.ofString " (" ++ commit ++ Text.ofString ")") none

/-- An error that tells that a directory could not be scanned. -/
def scanFailure (directory message : Text) : Thrown :=
  fetchFailure (Text.ofString "Cannot scan " ++ directory ++ Text.ofString ": " ++ message)
    (some message)

/-! ## Source files -/

/-- The written patterns of the files with some extensions. -/
def patternsOf (extensions : List Text) : List Text :=
  extensions.map fun e => Text.ofString "**/*" ++ e

/-- Is a file too large to be picked up? -/
def isOversized (maxFileBytes : Number) (f : Text × Text) : Bool :=
  maxFileBytes < ((f.2.utf8Length : Nat) : Int)

/-- The entry of the log for a file that is too large. -/
def oversizedEntry (f : Text × Text) : LogEntry :=
  .withValues .warn (Text.ofString "Skipping oversized file")
    [("path", .str f.1), ("size", Json.ofNat f.2.utf8Length)]

/-- The files that are picked up of those that were found, by path. -/
def sourceFiles (options : CheckoutOptions) (found : List (Text × Text)) : List SourceFile :=
  let accepted := found.filter fun f => !isOversized options.maxFileBytes f
  let files := accepted.map fun f => ({ path := Path.normalize f.1, content := f.2 } : SourceFile)
  files.mergeSort fun a b => !Text.before b.path a.path

/-- The digest of source files. -/
def digestOf (files : List SourceFile) : Text :=
  Digest.fileSet (files.map fun f => (f.path, f.content))

/-- What identifies files in a work tree of some state. -/
def fingerprintOf (state : Option GitState) (files : List SourceFile) : Text :=
  match state with
  | none => digestOf files
  | some s => if s.dirty then s.commit ++ Text.unit '+' :: digestOf files else s.commit

/-! ## Tools -/

/-- The tools that a directory is looked at with. Their answers depend on the workspace. -/
structure Tools where
  /-- Does a directory lie in a work tree? -/
  isInside : Workspace → (directory : Text) → Bool
  /-- What is printed for the commit that a ref points at. -/
  commit? : Workspace → (directory ref : Text) → Option Text
  /-- The id of the commit that is checked out, or what was said instead. -/
  head : Workspace → (directory : Text) → Except Text Text
  /-- Does the state of the work tree list a change? Or what was said instead. -/
  isDirty : Workspace → (directory : Text) → Except Text Bool
  /-- The files of a directory that some written patterns pick up and others do not leave out, with
  their contents and in the order in which they are met, or why the search failed. -/
  find : Workspace → (directory : Text) → (patterns ignore : List Text) →
    Except Text (List (Text × Text))

namespace Tools

variable (tools : Tools)

/-! ## The state of a work tree -/

/-- The state of the work tree that a directory lies in, which must be at the given ref; none
outside version control. -/
def gitState (w : Workspace) (directory ref : Text) : Except Thrown (Option GitState) :=
  if tools.isInside w directory then
    match tools.commit? w directory ref with
    | none => .error (.failure (Failure.refNotFound directory ref))
    | some commit =>
      match tools.head w directory with
      | .error said => .error (commandFailure directory "rev-parse HEAD" said)
      | .ok head =>
        if head = commit then
          match tools.isDirty w directory with
          | .error said => .error (commandFailure directory "status --porcelain" said)
          | .ok dirty => .ok (some ⟨commit, dirty⟩)
        else .error (otherHead directory ref head commit)
  else .ok none

/-- The state of a directory at a ref. -/
def resolveRef (w : Workspace) (directory ref : Text) : Except Thrown (Option GitState) :=
  match tools.gitState w directory ref with
  | .ok none =>
    if ref = Git.headName then .ok none else .error (.failure (Failure.refNotFound directory ref))
  | state => state

/-! ## Scanning -/

/-- Picks up the files of a directory. -/
def scan (options : CheckoutOptions) (directory : Text) : Job Workspace (List SourceFile) := do
  let w ← Job.world
  let extensions := options.extensions.getD (← Job.registry).extensions
  match tools.find w directory (patternsOf extensions) options.ignore with
  | .error message => Job.throw (scanFailure directory message)
  | .ok found =>
    Job.report ((found.filter (isOversized options.maxFileBytes)).map oversizedEntry)
    if options.readConcurrency < 1 then
      Job.throw (.ofKind .general (Text.ofString "maxConcurrency must be at least 1"))
    else return sourceFiles options found

/-! ## The provider -/

/-- The state of a directory at a ref. -/
def stateOf (directory ref : Text) : Job Workspace (Option GitState) := do
  Job.ofOutcome (tools.resolveRef (← Job.world) directory ref)

/-- The fingerprint of a repository; files are looked at only if the commit does not tell. -/
def lookUp (options : CheckoutOptions) : FingerprintLookup Workspace := fun repository ref => do
  let directory := (← Job.world).absolute repository
  match ← tools.stateOf directory ref with
  | some ⟨commit, false⟩ => return some commit
  | state => return some (fingerprintOf state (← tools.scan options directory))

/-- The fingerprint of a repository by its commit alone; none unless its work tree is clean. -/
def lookUpCommit : FingerprintLookup Workspace := fun repository ref => do
  let w ← Job.world
  match ← Job.ofOutcome (tools.gitState w (w.absolute repository) ref) with
  | some ⟨commit, false⟩ => return some commit
  | _ => return none

/-- The content of a repository. -/
def fetch (options : CheckoutOptions) (repository ref : Text) :
    Job Workspace (Snapshot Workspace) := do
  let directory := (← Job.world).absolute repository
  let state ← tools.stateOf directory ref
  let files ← tools.scan options directory
  Job.note .info "Loaded local checkout"
    [("root", .str directory), ("ref", .str ref), ("files", Json.ofNat files.length),
      ("git", .bool state.isSome)]
  return {
    files
    fingerprint := some (fingerprintOf state files)
    ref
    release := Job.note .debug "Released local snapshot"
      [("root", .str directory), ("ref", .str ref)] }

/-- Provides the contents of directories. -/
def provider (options : CheckoutOptions) : ContentProvider Workspace where
  fetch := tools.fetch options
  fingerprint := some (tools.lookUp options)

end Tools

/-! ## The standard tools -/

/-- Is a path the given directory or inside it? -/
def isWithin (directory path : Text) : Bool :=
  path = directory || (FileSystem.opening directory).isPrefixOf path

/-- The repository whose work tree a directory lies in. One that was made without a commit is found
by its own directory. -/
def repositoryOf? (w : Workspace) (directory : Text) : Option GitRepository :=
  let unknown : Option GitRepository :=
    ((Workspace.ascend directory).find? fun d =>
      (w.files.node? (FileSystem.opening d ++ Git.repositoryDirectory)).isSome).map fun d =>
        { top := d }
  (w.git.or unknown).filter fun r =>
    let home := FileSystem.opening r.top ++ Git.repositoryDirectory
    Git.isValid r w.files && w.files.isDirectory directory && isWithin r.top directory
      && !isWithin home directory

/-- What is said where nothing is checked out. -/
def noHead : Text :=
  Text.ofString ("fatal: ambiguous argument 'HEAD': "
    ++ "unknown revision or path not in the working tree.\n"
    ++ "Use '--' to separate paths from revisions, like this:\n"
    ++ "'git <command> [<revision>...] -- [<file>...]'\n")

/-- What is said outside version control. -/
def noRepository : Text :=
  Text.ofString "fatal: not a git repository (or any of the parent directories): .git\n"

/-- Asks the repository whose work tree a directory lies in. -/
def ask {α : Type} (question : GitRepository → FileSystem → Except Text α) (w : Workspace)
    (directory : Text) : Except Text α :=
  match repositoryOf? w directory with
  | none => .error noRepository
  | some r => question r w.files

/-- The id of the commit that is checked out. -/
def headOf (r : GitRepository) (fs : FileSystem) : Except Text Text :=
  match Git.headId? r fs with
  | none => .error noHead
  | some id => .ok id

/-- The commands of `Git` in the repository whose work tree a directory lies in, and the patterns of
`Glob`. -/
def standard : Tools where
  isInside w directory := (repositoryOf? w directory).isSome
  commit? w directory ref :=
    (repositoryOf? w directory).bind fun r => Git.commitName? r w.files ref
  head := ask headOf
  isDirty := ask Git.isDirty
  find w := Glob.find w.files

/-- The fingerprint of a repository. -/
def lookUp (options : CheckoutOptions) : FingerprintLookup Workspace := standard.lookUp options

/-- The fingerprint of a repository by its commit alone. -/
def lookUpCommit : FingerprintLookup Workspace := standard.lookUpCommit

/-- The content of a repository. -/
def fetch (options : CheckoutOptions) (repository ref : Text) :
    Job Workspace (Snapshot Workspace) :=
  standard.fetch options repository ref

/-- Provides the contents of directories. -/
def provider (options : CheckoutOptions) : ContentProvider Workspace := standard.provider options

end Checkout

end CallAtlas
