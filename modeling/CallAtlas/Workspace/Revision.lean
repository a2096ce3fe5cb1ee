import CallAtlas.Regex.Extended
import CallAtlas.Workspace.Git
import CallAtlas.Workspace.Git.Moment

/-!
# Commits by name

A revision is a name of a commit with steps behind it, which are taken from the left: `^` leads to
the commit before and `~` as many commits back as it tells, a kind in braces behind `^` asks for an
object of that kind, and an expression in them for the nearest commit whose message matches. Behind
a name, braces after `@` tell how many changes or what time ago the name is meant. A colon and a
slash begin an expression for the nearest of all commits.

To ask for a commit, the kind is written behind the whole revision, and the result is read like any
other revision. So the closing brace may also end braces that were left open.
-/

namespace CallAtlas.Git

/-- What a revision stands for. -/
inductive GitObject where
  | commit (c : GitCommit)
  /-- The files of a commit. -/
  | tree
deriving DecidableEq, Inhabited

/-- What came of looking for an object. -/
inductive Finding where
  | found (o : GitObject)
  | missing
  /-- The revision could be read, and nothing is there; no other reading is tried. -/
  | refused
deriving DecidableEq, Inhabited

namespace Finding

/-- A finding, or another one if nothing was found. -/
def orElse (f : Finding) (other : Unit → Finding) : Finding :=
  match f with
  | .missing => other ()
  | f => f

/-- Goes on from a commit. -/
def andThen (f : Finding) (next : GitCommit → Finding) : Finding :=
  match f with
  | .found (.commit c) => next c
  | .found .tree => .missing
  | f => f

/-- A commit, if there is one. -/
def ofCommit? : Option GitCommit → Finding
  | some c => .found (.commit c)
  | none => .missing

/-- The commit that was found. -/
def commit? : Finding → Option GitCommit
  | .found (.commit c) => some c
  | _ => none

end Finding

/-! ## Parts of revisions -/

/-- The digits that end a text. -/
def trailingDigits (t : Text) : Text := (t.reverse.takeWhile GitConfig.isDigit).reverse

/-- The places in a text where two given units stand, the last one first, with what comes before and
after them. -/
def splits (a b : CodeUnit) (t : Text) : List (Text × Text) :=
  let rec go (before : Text) : Text → List (Text × Text) → List (Text × Text)
    | u :: v :: rest, found =>
      go (before ++ [u]) (v :: rest) (if u = a && v = b then (before, rest) :: found else found)
    | _, found => found
  go [] t []

/-- The commit before a commit. -/
def parent? (r : GitRepository) (c : GitCommit) : Option GitCommit := c.parent.bind (commitOf? r)

/-- The commit that is a number of commits before a commit. -/
def ancestor? (r : GitRepository) (c : GitCommit) : Nat → Option GitCommit
  | 0 => some c
  | n + 1 => (ancestor? r c n).bind (parent? r)

/-! ## Messages -/

/-- The first of several commits whose message matches an expression. Behind `!-` the expression
tells what a message must not match; behind `!!` it begins with an exclamation mark. Messages are
matched byte by byte. -/
def byMessage? (commits : List GitCommit) (expression : Text) : Option GitCommit :=
  let mark := Text.unit '!'
  let (negated, body) : Bool × Option Text :=
    match expression with
    | u :: v :: rest =>
      if u ≠ mark then (false, some expression)
      else if v = Text.unit '-' then (true, some rest)
      else if v = mark then (false, some (v :: rest))
      else (false, none)
    | [u] => (false, if u = mark then none else some [u])
    | [] => (false, some [])
  let bytes (t : Text) : Text := (Text.toUtf8 t).map UInt8.toUInt16
  (body.bind fun b => Regex.Extended.ofText? (bytes b)).bind fun regex =>
    commits.find? fun h => regex.test false (bytes h.message) != negated

/-- The commits of a list and those before them, each once; those that are not listed come behind all
that are. All commits are as old as one another. -/
def withAncestors (r : GitRepository) : (fuel : Nat) → List GitCommit → List GitCommit
  | 0, commits => commits
  | n + 1, commits =>
    let seen := commits.eraseDups
    let more := (seen.filterMap (parent? r)).filter fun c => !seen.contains c
    if more.isEmpty then seen else withAncestors r n (seen ++ more)

/-- A commit and those before it. -/
def history (r : GitRepository) (commits : List GitCommit) : List GitCommit :=
  withAncestors r r.commits.length commits

/-- The full names of all that has a name, with their commits. -/
def tips (r : GitRepository) (fs : FileSystem) : List GitCommit :=
  let names := ((fs.filesIn (FileSystem.opening r.top ++ repositoryDirectory)).map Prod.fst).filter
    (Text.ofString "refs/").isPrefixOf
  let ordered := names.mergeSort fun a b => !Text.before b a
  let commits := ordered.filterMap fun n => (follow? r fs maxSteps n).bind fun f => commitOf? r f.2
  (head? r fs).toList ++ commits.reverse

/-! ## Earlier values of names -/

/-- From which number on digits are a time rather than a count of changes. -/
def firstTime : Nat := 100000000

/-- The number that digits stand for in 32 bits; none if the digits are broken off at a number below
zero. -/
def countOf? (digits : Text) : Option Nat :=
  digits.foldl (fun (n : Option Nat) u =>
    n.bind fun n =>
      let m := (10 * n + (u.toNat - 48)) % 4294967296
      if m < 2147483648 then some m else none) (some 0)

/-- The id that a name stood for before a number of changes, given its id now. A change that made the
name does not count. -/
def changedId? (now : Text) : List NameChange → (count : Nat) → Option Text
  | [], 0 => some now
  | c :: _, 0 => some c.after
  | [], _ + 1 => none
  | [c], 1 => c.before
  | c :: rest, 1 =>
    match c.before with
    | some id => some id
    | none => (rest.find? fun d => d.before.isSome).bind NameChange.before
  | _ :: rest, n + 2 => changedId? now rest (n + 1)

/-- The first id of a log. -/
def oldestId? (log : List NameChange) : Option Text :=
  log.getLast?.map fun c => c.before.getD c.after

/-- The seconds that count as the present. -/
def presentSeconds : Nat := 1784073600

/-- What a name stood for at a time, given its id now and its log. -/
def loggedAt (r : GitRepository) (now : Text) (log : List NameChange) (moment : Moment) : Finding :=
  if log.isEmpty then .refused
  else
    match moment with
    | .never => .refused
    | .early => .ofCommit? ((oldestId? log).bind (commitOf? r))
    | .late => .ofCommit? (commitOf? r now)

/-- What a name stood for, given its id now, its log and what stands in the braces behind it. -/
def logged (r : GitRepository) (now : Text) (log : List NameChange) (spec : Text) : Finding :=
  let count? := if spec.all GitConfig.isDigit then countOf? spec else none
  match count? with
  | none =>
    match Moment.ofText? spec with
    | none => .missing
    | some moment => loggedAt r now log moment
  | some count =>
    if firstTime ≤ count then loggedAt r now log (if count < presentSeconds then .early else .late)
    else
      match changedId? now log count with
      | none => .refused
      | some id => .ofCommit? (commitOf? r id)

/-- Is a path without a proper segment at its beginning, between two slashes or at its end? -/
def isLoose (t : Text) : Bool :=
  (Text.splitAt Text.slash t).any fun segment => segment.all fun u => u = Text.dot

/-- Does a text begin with braces that ask for the branch that a branch follows? No branch follows
another one. -/
def asksForOther (t : Text) : Bool :=
  let small := t.map GitConfig.small
  ["@\x7bu\x7d", "@\x7bupstream\x7d", "@\x7bpush\x7d"].any fun s =>
    (Text.ofString s).isPrefixOf small

/-- A name, and what stands in the braces behind it, if there are any. None if the text cannot be
read as a name. -/
def nameParts? (t : Text) : Option (Text × Option Text) :=
  let plain : Option (Text × Option Text) := some (t, none)
  if t.getLast? ≠ some (Text.unit '\x7d') then plain
  else
    let places := splits (Text.unit '@') (Text.unit '\x7b') t
    match places.find? fun p => 1 < p.2.length with
    | none => plain
    | some (name, rest) =>
      if rest.head? = some (Text.unit '-') then if name.isEmpty then plain else none
      else if asksForOther (t.drop name.length) then plain
      else some (name, some rest.dropLast)

/-- The first of the full names of a name that leads to an id and has a log: the id and the log. -/
def loggedName? (r : GitRepository) (fs : FileSystem) (name : Text) :
    Option (Text × List NameChange) :=
  let name := if name = Text.ofString "@" then headName else name
  (fullNames name).findSome? fun full =>
    (follow? r fs maxSteps full).bind fun (target, id) =>
      ((log? r fs full).or (log? r fs target)).map fun log => (id, log)

/-- The commit of a name, with braces behind it that tell when it is meant or without them. -/
def named (r : GitRepository) (fs : FileSystem) (t : Text) : Finding :=
  if t.length = idLength && t.all isHexDigit then .ofCommit? (commitOf? r t)
  else
    match nameParts? t with
    | none => .missing
    | some (name, spec?) =>
      if !name.isEmpty && isLoose name then .missing
      else
        match spec? with
        | none => .ofCommit? ((find? r fs name).bind fun f => commitOf? r f.2)
        | some spec =>
          let logged? :=
            if name.isEmpty then
              (follow? r fs maxSteps headName).map fun f => (f.2, (log? r fs f.1).getD [])
            else loggedName? r fs name
          match logged? with
          | none => .missing
          | some (now, log) => logged r now log spec

/-! ## Revisions -/

/-- What the braces behind a caret ask for. -/
inductive Peel where
  /-- The object itself. -/
  | same
  | commit
  | tree
  /-- A kind of which there is nothing. -/
  | other
  /-- The nearest commit whose message matches. -/
  | message (expression : Text)

/-- What the braces behind a caret ask for, behind the opening one. -/
def peel? (t : Text) : Option Peel :=
  let closing := [Text.unit '\x7d']
  let begins (s : String) : Bool := (Text.ofString s ++ closing).isPrefixOf t
  if begins "commit" then some .commit
  else if begins "tag" || begins "blob" then some .other
  else if begins "tree" then some .tree
  else if begins "object" || begins "" then some .same
  else
    match t with
    | u :: rest =>
      if u ≠ Text.slash then none
      else if closing.isPrefixOf rest then some .commit
      else some (.message rest.dropLast)
    | [] => none

/-- The object that braces behind a caret ask for, given the object before them. -/
def peeled (r : GitRepository) (f : Finding) : Peel → Finding
  | .same => f
  | .commit => f.andThen fun c => .found (.commit c)
  | .tree => match f with
    | .found _ => .found .tree
    | f => f
  | .other => match f with
    | .found _ => .missing
    | f => f
  | .message expression => f.andThen fun c => .ofCommit? (byMessage? (history r [c]) expression)

/-- The object of a revision that begins with a name. -/
def object (r : GitRepository) (fs : FileSystem) : (fuel : Nat) → Text → Finding
  | 0, _ => .missing
  | n + 1, t =>
    let digits := trailingDigits t
    let body := t.take (t.length - digits.length)
    let count := if digits.isEmpty then 1 else Moment.valueOf digits
    let steps := body.getLast?
    if steps = some (Text.unit '~') then
      (object r fs n body.dropLast).andThen fun c =>
        if r.commits.length < count then .missing else .ofCommit? (ancestor? r c count)
    else if steps = some (Text.unit '^') then
      (object r fs n body.dropLast).andThen fun c =>
        if count < 2 then .ofCommit? (ancestor? r c count) else .missing
    else
      let inner : Finding :=
        if t.getLast? ≠ some (Text.unit '\x7d') then .missing
        else
          match (splits (Text.unit '^') (Text.unit '\x7b') t).head? with
          | none => .missing
          | some (before, inside) =>
            match peel? inside with
            | none => .missing
            | some p => peeled r (object r fs n before) p
      inner.orElse fun _ => named r fs t

/-- The commit of a revision. -/
def revision? (r : GitRepository) (fs : FileSystem) (t : Text) : Option GitCommit :=
  let anywhere : Finding :=
    match t with
    | u :: v :: expression =>
      if u = Text.unit ':' && v = Text.slash && !expression.isEmpty then
        .ofCommit? (byMessage? (history r (tips r fs)) expression)
      else .missing
    | _ => .missing
  ((object r fs (t.length + 1) t).orElse fun _ => anywhere).commit?

/-- What is written behind a revision to ask for a commit. -/
def commitMark : Text := Text.ofString "^\x7bcommit\x7d"

/-- Are two revisions with dots between them written, so that two commits are meant? -/
def isRange (r : GitRepository) (fs : FileSystem) (t : Text) : Bool :=
  let dots := Text.ofString ".."
  let side? (t : Text) : Option GitCommit := revision? r fs (if t.isEmpty then headName else t)
  match (splits Text.dot Text.dot t).getLast? with
  | none => false
  | some (first, rest) =>
    let second := if rest.head? = some Text.dot then rest.drop 1 else rest
    !(first.isEmpty && second.isEmpty && t = dots) && (side? first).isSome && (side? second).isSome

/-- The commit that a ref stands for. A caret before the ref excludes the commit, which is told by
the second part of the answer. -/
def resolve? (r : GitRepository) (fs : FileSystem) (ref : Text) : Option (GitCommit × Bool) :=
  let asked := ref ++ commitMark
  let excluded := asked.head? = some (Text.unit '^')
  if ref.head? = some (Text.unit '-') || ref.any (· == 0) || (packed? r fs).isNone
      || !isReadable r fs || isRange r fs asked then none
  else (revision? r fs (if excluded then asked.drop 1 else asked)).map fun c => (c, excluded)

/-- What is printed for the commit that a ref stands for, with a caret before one that is
excluded. -/
def commitName? (r : GitRepository) (fs : FileSystem) (ref : Text) : Option Text :=
  (resolve? r fs ref).map fun (c, excluded) =>
    if excluded then Text.unit '^' :: c.id else c.id

end CallAtlas.Git
