import CallAtlas.Workspace.Revision

/-!
# New commits

All changes of a work tree are committed in steps, each of which may be refused: the changes are
staged, the commit is made with a message, and the commit gets a tag. Something is not changed while
a file with the ending `.lock` stands beside it. A commit also ends what was begun and not finished,
such as joining other commits, which must be there.
-/

namespace CallAtlas

namespace Git

/-! ## Messages -/

/-- The lines without blank ones at the beginning and at the end, and with one at most between two
others. -/
def spaced : List Text → List Text
  | [] => []
  | line :: rest =>
    if line.isEmpty then spaced rest
    else
      match spaced rest with
      | [] => [line]
      | more => line :: (if (rest.head?.any List.isEmpty) then [] :: more else more)

/-- A message as it is kept: no line ends with white space, blank lines are few, and the last line
has an end. -/
def cleaned (message : Text) : Text :=
  (spaced ((Text.splitAt Text.newline message).map trimEnd)).flatMap fun line =>
    line ++ [Text.newline]

/-- What a line begins with that tells who has signed. -/
def signMark : Text := Text.ofString "Signed-off-by: "

/-- Does a message say nothing but who has signed? -/
def saysNothing (message : Text) : Bool :=
  (Text.splitAt Text.newline message).all fun line =>
    signMark.isPrefixOf line || (trimEnd line).isEmpty

/-! ## What is not finished -/

/-- The name of the file that tells which commits are being merged. -/
def mergeName : Text := Text.ofString "MERGE_HEAD"

/-- The name of the commit whose changes are being made once more. -/
def pickName : Text := Text.ofString "CHERRY_PICK_HEAD"

/-- Can what is not finished be committed? The commits that are being merged must be there, or else
the one whose changes are being made once more. -/
def isFinishable (r : GitRepository) (fs : FileSystem) : Bool :=
  match fs.node? (pathIn r.top mergeName) with
  | some .directory => false
  | some (.file content) => (linesOf content).all fun line => (revision? r fs line).isSome
  | none => (follow? r fs maxSteps pickName).all fun f => (commitOf? r f.2).isSome

/-- The files without those that tell what is not finished. Of names that lead to others, the last
one goes. -/
def finished (r : GitRepository) (fs : FileSystem) : FileSystem :=
  let plain :=
    mergeName :: ["MERGE_MSG", "MERGE_MODE", "SQUASH_MSG", "AUTO_MERGE"].map Text.ofString
  let names := [pickName, Text.ofString "REVERT_HEAD"].filterMap fun n =>
    (follow? r fs maxSteps n).map Prod.fst
  (plain ++ names).foldl (fun fs n =>
    if (content? fs r.top n).isSome then fs.remove (pathIn r.top n) else fs) fs

/-! ## Steps -/

/-- Is something in the repository's own directory locked? -/
def isLocked (r : GitRepository) (fs : FileSystem) (name : Text) : Bool :=
  (fs.node? (pathIn r.top (name ++ Text.ofString ".lock"))).isSome

/-- The repository and the files after all that is not ignored is staged. -/
def stage? (r : GitRepository) (fs : FileSystem) : Option (GitRepository × FileSystem) :=
  if !isValid r fs || isLocked r fs indexName then none
  else
    (tracked r fs).toOption.map fun index =>
      let rules := rules r fs
      let isStaged (path : Text) : Bool :=
        (index.lookup path).isSome || !Ignore.isIgnored rules path
      ({ r with index := (workFiles r fs).filter fun f => isStaged f.1 },
        place fs r.top indexName (.file indexMark))

/-- The files with a file of a full name. Directories without files make way for it; the slash at the
end of a name without a last segment is in its way. -/
def writeName? (r : GitRepository) (fs : FileSystem) (name content : Text) : Option FileSystem :=
  let file := pathIn r.top name
  if name.getLast? = some Text.slash then none
  else
    let fs := if fs.isDirectory file && (fs.filesIn file).isEmpty then fs.remove file else fs
    (fs.makeDirectory (Path.parent file) []).toOption.bind fun fs =>
      (fs.write file [] content).toOption

/-- Are the changes of a name logged from the first one on, with some settings? -/
def startsLog (settings : List GitSetting) (name : Text) : Bool :=
  let begins (s : String) : Bool := (Text.ofString s).isPrefixOf name
  let isUsual := name = headName || begins "refs/heads/" || begins "refs/remotes/"
  match GitConfig.value "core.logallrefupdates" settings with
  | none => isUsual
  | some value =>
    if (value.map fun t => t.map GitConfig.small) = some (Text.ofString "always") then true
    else isUsual && (GitConfig.truth? value).getD true

/-- The repository and the files after a change of a name is logged. -/
def addLog (r : GitRepository) (fs : FileSystem) (name : Text) (change : NameChange) :
    GitRepository × FileSystem :=
  match log? r fs name with
  | none =>
    if startsLog ((settings? r fs).getD []) name then write [change] else (r, fs)
  | some log => write (change :: log)
where
  write (log : List NameChange) : GitRepository × FileSystem :=
    match writeName? r fs (logName name) logMark with
    | some fs => ({ r with logs := (name, log) :: r.logs.filter fun l => l.1 ≠ name }, fs)
    | none => (r, fs)

/-- A full name and those that it leads to, up to the one that is no name of a name. -/
def chain (r : GitRepository) (fs : FileSystem) : (fuel : Nat) → Text → List Text
  | 0, name => [name]
  | n + 1, name =>
    match (content? fs r.top name).bind symbol? with
    | some target => name :: chain r fs n target
    | none => [name]

/-- The repository and the files after a commit of what is staged, to the branch that is checked
out. -/
def commit? (r : GitRepository) (fs : FileSystem) (id message : Text) :
    Option (GitRepository × FileSystem) :=
  let kept := cleaned message
  let names := chain r fs maxSteps headName
  let branch := names.getLastD headName
  let isBroken := (content? fs r.top branch).any fun content =>
    (id? r content).isNone || !names.all isName
  if saysNothing kept || names.any (isLocked r fs) || isBroken || (packed? r fs).isNone
      || !isReadable r fs || !isFinishable r fs
      || ((settings? r fs).getD []).any GitConfig.refusesCommits then none
  else
    let before := headId? r fs
    let c : GitCommit :=
      { id, parent := (head? r fs).map GitCommit.id, message := kept, tree := r.index }
    let after := { r with commits := c :: r.commits }
    let fs := place fs r.top (Text.ofString "COMMIT_EDITMSG") (.file kept)
    (writeName? r fs branch (id ++ [Text.newline])).map fun fs =>
      names.foldl (fun acc name => addLog acc.1 acc.2 name ⟨before, id⟩)
        (after, finished after fs)

/-- The files with a tag of the commit that is checked out. A tag that is there already, or whose
name is not in order, is refused. -/
def tag? (r : GitRepository) (fs : FileSystem) (name : Text) : Option FileSystem :=
  let full := Text.ofString "refs/tags/" ++ name
  if !isName full || name.head? = some (Text.unit '-') || (follow? r fs maxSteps full).isSome
      || (content? fs r.top full).isSome || isLocked r fs full
      || ((settings? r fs).getD []).any (GitConfig.asksToSign "tag.gpgsign") then none
  else (head? r fs).bind fun c => writeName? r fs full (c.id ++ [Text.newline])

/-! ## Whole commits -/

/-- What became of an attempt to commit all changes. -/
structure Attempt where
  repository : GitRepository
  files : FileSystem
  /-- Was a commit made? -/
  committed : Bool := false
  /-- The command that was refused. -/
  refused : Option Text := none

/-- Stages and commits all changes, and gives the commit a tag. -/
def attempt (r : GitRepository) (fs : FileSystem) (id message : Text) (tag : Option Text) :
    Attempt :=
  match stage? r fs with
  | none => ⟨r, fs, false, some (Text.ofString "add -A")⟩
  | some (r, fs) =>
    match commit? r fs id message with
    | none => ⟨r, fs, false, some (Text.ofString "commit -q --allow-empty -m " ++ message)⟩
    | some (r, fs) =>
      match tag with
      | none => ⟨r, fs, true, none⟩
      | some name =>
        match tag? r fs name with
        | none => ⟨r, fs, true, some (Text.ofString "tag " ++ name)⟩
        | some fs => ⟨r, fs, true, none⟩

end Git

end CallAtlas
