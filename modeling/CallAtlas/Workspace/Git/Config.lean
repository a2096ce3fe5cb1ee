import CallAtlas.Text.Basic

/-!
# Settings of a repository

The settings of a repository are kept in a file. A line with brackets begins a section, whose name
may have another one in quotes behind it, and the lines below it give keys, each with an equals sign
and a value or alone. Blanks around a value do not count, quotes keep them, a backslash at the end of
a line joins it to the next one, and a number sign or a semicolon begins a comment. A file that is
written otherwise is refused as a whole, and so are settings that have no meaning.
-/

namespace CallAtlas

/-- A setting. -/
structure GitSetting where
  /-- The names of the section and the key, with dots between them. -/
  name : Text
  /-- The value, unless the key stands alone. -/
  value : Option Text
  /-- The number of the line that it ends on. -/
  line : Nat
deriving DecidableEq, Repr

namespace GitConfig

/-! ## Units -/

/-- Is the unit ASCII white space? -/
def isSpace (u : CodeUnit) : Bool := u = 0x20 || u = 9 || u = Text.newline || u = 13

/-- Is the unit an ASCII letter? -/
def isLetter (u : CodeUnit) : Bool := (65 ≤ u && u ≤ 90) || (97 ≤ u && u ≤ 122)

/-- Is the unit a decimal digit? -/
def isDigit (u : CodeUnit) : Bool := 48 ≤ u && u ≤ 57

/-- May a unit stand in a key? -/
def isKeyUnit (u : CodeUnit) : Bool := isLetter u || isDigit u || u = Text.unit '-'

/-- The small letter of an ASCII letter. -/
def small (u : CodeUnit) : CodeUnit := if 65 ≤ u && u ≤ 90 then u + 32 else u

/-- The text with plain line ends, without a mark of the byte order before it. -/
def plain (t : Text) : Text :=
  let rec go : Text → Text
    | u :: v :: rest => if u = 13 && v = Text.newline then go (v :: rest) else u :: go (v :: rest)
    | t => t
  go (if t.head? = some 0xFEFF then t.drop 1 else t)

/-! ## Reading -/

/-- The name in quotes behind the name of a section, and what comes after the brackets. -/
def quotedName? : Text → Option (Text × Text)
  | u :: v :: rest =>
    if u = Text.unit '"' then if v = Text.unit ']' then some ([], rest) else none
    else if u = Text.newline then none
    else if u = Text.backslash then
      if v = Text.newline then none
      else (quotedName? rest).map fun (name, after) => (v :: name, after)
    else (quotedName? (v :: rest)).map fun (name, after) => (u :: name, after)
  | _ => none

/-- The name of a section behind its opening bracket, and what comes after the closing one. -/
def section? : Text → Option (Text × Text)
  | [] => none
  | u :: rest =>
    if u = Text.unit ']' then some ([], rest)
    else if isKeyUnit u || u = Text.dot then
      (section? rest).map fun (name, after) => (small u :: name, after)
    else if isSpace u && u ≠ Text.newline then
      match rest.dropWhile fun v => isSpace v && v ≠ Text.newline with
      | v :: after =>
        if v = Text.unit '"' then
          (quotedName? after).map fun (name, behind) => (Text.dot :: name, behind)
        else none
      | [] => none
    else none

/-- The unit that a letter behind a backslash stands for. -/
def escaped? (u : CodeUnit) : Option CodeUnit :=
  [(Text.unit 't', 9), (Text.unit 'b', 8), (Text.unit 'n', Text.newline),
    (Text.backslash, Text.backslash), (Text.unit '"', Text.unit '"')].lookup u

/-- The value behind an equals sign, the number of line ends in it, and what comes after it. `kept`
is what was read of it, and `blanks` are those that count, as spaces, only if more follows. -/
def value? (quoted : Bool) (kept blanks : Text) : Text → Option (Text × Nat × Text)
  | [] => if quoted then none else some (kept, 0, [])
  | u :: rest =>
    if u = Text.newline then if quoted then none else some (kept, 0, rest)
    else if isSpace u && !quoted then
      value? false kept (if kept.isEmpty then [] else blanks ++ [0x20]) rest
    else if !quoted && (u = Text.unit ';' || u = Text.unit '#') then
      let behind := rest.dropWhile fun v => v ≠ Text.newline
      some (kept, 0, behind.drop 1)
    else if u = Text.unit '"' then value? (!quoted) (kept ++ blanks) [] rest
    else if u = Text.backslash then
      match rest with
      | [] => if quoted then none else some (kept ++ blanks, 0, [])
      | v :: after =>
        if v = Text.newline then
          (value? quoted (kept ++ blanks) [] after).map fun (t, lines, behind) =>
            (t, lines + 1, behind)
        else (escaped? v).bind fun w => value? quoted (kept ++ blanks ++ [w]) [] after
    else value? quoted (kept ++ blanks ++ [u]) [] rest

/-- The settings of the rest of a file, from a line on; `owner` is what the names begin with. -/
def settings? : (fuel : Nat) → (owner : Text) → (line : Nat) → Text → Option (List GitSetting)
  | 0, _, _, _ => none
  | _ + 1, _, _, [] => some []
  | n + 1, owner, line, u :: rest =>
    if u = Text.newline then settings? n owner (line + 1) rest
    else if isSpace u then settings? n owner line rest
    else if u = Text.unit '#' || u = Text.unit ';' then
      settings? n owner line (rest.dropWhile fun v => v ≠ Text.newline)
    else if u = Text.unit '[' then
      (section? rest).bind fun (name, after) =>
        if name.isEmpty then none else settings? n (name ++ [Text.dot]) line after
    else if !isLetter u then none
    else
      let key := (u :: rest.takeWhile isKeyUnit).map small
      let behind := (rest.dropWhile isKeyUnit).dropWhile fun v => v = 0x20 || v = 9
      let name := owner ++ key
      match behind with
      | [] => some [⟨name, none, line⟩]
      | v :: after =>
        if v = Text.newline then
          (settings? n owner (line + 1) after).map fun more => ⟨name, none, line⟩ :: more
        else if v ≠ Text.unit '=' then none
        else
          (value? false [] [] after).bind fun (value, lines, next) =>
            (settings? n owner (line + lines + 1) next).map fun more =>
              ⟨name, some value, line + lines⟩ :: more

/-- The settings of a file. -/
def ofText? (t : Text) : Option (List GitSetting) := settings? (t.length + 1) [] 1 (plain t)

/-! ## Meaning -/

/-- The value of a digit in a base. -/
def digit? (base : Nat) (u : CodeUnit) : Option Nat :=
  let v :=
    if isDigit u then u.toNat - 48
    else if isLetter u then (small u).toNat - 87
    else base
  if v < base then some v else none

/-- The digits of a number without a sign and its base, by how it is written. -/
def based (t : Text) : Nat × Text :=
  match t with
  | u :: v :: rest =>
    if u = Text.unit '0' then
      if small v = Text.unit 'x' && (rest.head?.bind (digit? 16)).isSome then (16, rest)
      else (8, t)
    else (10, t)
  | t => (10, t)

/-- How often the unit behind a number counts. -/
def factor? (t : Text) : Option Nat :=
  match t.map small with
  | [] => some 1
  | [u] =>
    [(Text.unit 'k', 1024), (Text.unit 'm', 1048576), (Text.unit 'g', 1073741824)].lookup u
  | _ => none

/-- Why a text is no number. -/
inductive NumberFault where
  | unit
  | range

/-- The largest number. -/
def largest : Nat := 2147483647

/-- A number with a sign or without one, with a unit behind it or without one. -/
def integer (t : Text) : Except NumberFault Int :=
  let t := t.dropWhile isSpace
  let signed := t.head? = some (Text.unit '-') || t.head? = some (Text.unit '+')
  let (base, body) := based (if signed then t.drop 1 else t)
  let digits := body.takeWhile fun u => (digit? base u).isSome
  match if digits.isEmpty then none else factor? (body.drop digits.length) with
  | none => .error .unit
  | some factor =>
    let n := factor * digits.foldl (fun (n : Nat) u => base * n + (digit? base u).getD 0) 0
    if largest < n then .error .range
    else .ok (if t.head? = some (Text.unit '-') then -(n : Int) else n)

/-- A number, if it is one. -/
def integer? (t : Text) : Option Int := (integer t).toOption

/-- What a setting says that holds or does not. -/
def truth? (value : Option Text) : Option Bool :=
  match value with
  | none => some true
  | some t =>
    let word := t.map small
    let is (s : String) : Bool := word = Text.ofString s
    if is "true" || is "yes" || is "on" then some true
    else if t.isEmpty || is "false" || is "no" || is "off" then some false
    else (integer? t).map fun n => n ≠ 0

/-- The settings that hold or do not, and the words that they can have as well. -/
def truths : List (String × List String) :=
  ["core.bare", "core.filemode", "core.ignorecase", "core.symlinks", "core.trustctime",
    "core.quotepath", "core.preloadindex", "core.precomposeunicode", "core.protecthfs",
    "core.protectntfs", "core.sparsecheckout", "core.sparsecheckoutcone", "core.warnambiguousrefs",
    "core.fsyncobjectfiles", "core.usereplacerefs", "core.commitgraph", "core.multipackindex",
    "user.useconfigonly", "advice.statushints", "pager.color", "color.pager", "color.advice",
    "index.sparse", "feature.manyfiles", "feature.experimental",
    "extensions.worktreeconfig"].map (fun name => (name, []))
    ++ [("core.autocrlf", ["input"]), ("core.safecrlf", ["warn"]),
      ("core.logallrefupdates", ["always"]),
      ("branch.autosetupmerge", ["always", "inherit", "simple"])]

/-- The settings that need a value. -/
def texts : List String :=
  ["core.checkstat", "core.attributesfile", "core.hookspath", "core.checkroundtripencoding",
    "core.notesref", "core.editor", "core.askpass", "core.excludesfile", "core.whitespace",
    "core.fsync", "core.fsyncmethod", "core.untrackedcache", "user.name", "user.email",
    "i18n.commitencoding", "i18n.logoutputencoding", "mailmap.file", "mailmap.blob"]

/-- The settings that are numbers, with the least and the largest one. -/
def numbers : List (String × Int × Int) :=
  [("core.repositoryformatversion", -largest, 1), ("core.compression", -1, 9),
    ("core.loosecompression", -1, 9), ("core.packedgitwindowsize", 0, largest),
    ("core.packedgitlimit", 0, largest), ("core.deltabasecachelimit", 0, largest),
    ("core.bigfilethreshold", 0, largest), ("pack.packsizelimit", 0, largest),
    ("index.version", -largest, largest)]

/-- What a table holds for a name. -/
def rowOf? {α : Type} (table : List (String × α)) (name : Text) : Option α :=
  (table.find? fun e => Text.ofString e.1 = name).map Prod.snd

/-- Is it told how far ids are shortened? -/
def isShortening (value : Text) : Bool :=
  let is (s : String) : Bool := value.map small = Text.ofString s
  value.isEmpty || is "auto" || is "false" || is "no" || is "off"
    || (integer? value).any fun n => 4 ≤ n && n ≤ 40

/-- Does a setting have a meaning? -/
def isSound (s : GitSetting) : Bool :=
  match rowOf? truths s.name, rowOf? numbers s.name with
  | some words, _ =>
    (truth? s.value).isSome || s.value.any fun t => words.any fun w => Text.ofString w = t.map small
  | none, some (least, most) =>
    (s.value.bind integer?).any fun n => least ≤ n && n ≤ most
  | none, none =>
    if s.name = Text.ofString "core.abbrev" then s.value.any isShortening
    else s.value.isSome || !texts.any fun name => Text.ofString name = s.name

/-- The last value of a name. -/
def value (name : String) (settings : List GitSetting) : Option (Option Text) :=
  (settings.reverse.find? fun s => s.name = Text.ofString name).map GitSetting.value

/-- Is the repository one without a work tree? That is told only together with its layout. -/
def isBare (settings : List GitSetting) : Bool :=
  let layout := (value "core.repositoryformatversion" settings).join.bind integer?
  (layout.any fun n => n ≠ -1) && ((value "core.bare" settings).bind truth?).getD false

/-- The path of further rules that tell which files are ignored. -/
def ignoreFile? (settings : List GitSetting) : Option Text :=
  (value "core.excludesfile" settings).join

/-- Settings about the state of a work tree that hold or do not. -/
def statusTruths : List (String × List String) :=
  ["color.ui", "color.status", "color.diff", "diff.color"].map
      (fun name => (name, ["never", "always", "auto"]))
    ++ ["status.relativepaths", "status.short", "status.branch", "status.displaycommentprefix",
      "status.aheadbehind", "status.showstash", "diff.noprefix", "diff.mnemonicprefix",
      "diff.autorefreshindex", "diff.suppressblankempty", "diff.indentheuristic",
      "index.recordendofindexentries"].map (fun name => (name, []))
    ++ ["status.renames", "diff.renames"].map (fun name => (name, ["copies", "copy"]))

/-- Settings about the state of a work tree that are numbers. -/
def statusNumbers : List String :=
  ["status.renamelimit", "diff.renamelimit", "diff.context", "diff.interhunkcontext"]

/-- Settings about the state of a work tree that are numbers, or hold or do not. -/
def statusCounts : List String := ["status.submodulesummary", "index.threads"]

/-- The text in quotes. -/
def quoted (t : Text) : Text := Text.unit '\'' :: t ++ [Text.unit '\'']

/-- What is said of a setting with a value that is none. -/
def valueFault (kind : String) (s : GitSetting) (behind : String) : Text :=
  Text.ofString ("fatal: bad " ++ kind ++ " config value ") ++ quoted (s.value.getD [])
    ++ Text.ofString " for " ++ quoted s.name ++ Text.ofString (behind ++ "\n")

/-- What is said of a number that is none. -/
def numberFault (s : GitSetting) (fault : NumberFault) : Text :=
  valueFault "numeric" s (" in file .git/config: " ++
    match fault with
    | .unit => "invalid unit"
    | .range => "out of range")

/-- What is said of a setting for some other reason. -/
def settingFault (reason : Text) (s : GitSetting) : Text :=
  Text.ofString "error: " ++ reason ++ Text.ofString "\nfatal: bad config variable " ++ quoted s.name
    ++ Text.ofString " in file '.git/config' at line " ++ Text.ofString (Nat.repr s.line)
    ++ [Text.newline]

/-- What is said of a setting about the state of a work tree that has no meaning. -/
def statusFault? (s : GitSetting) : Option Text :=
  let is (name : String) : Bool := s.name = Text.ofString name
  let value := s.value.getD []
  let isWord (words : List String) : Bool := words.any fun w => Text.ofString w = value.map small
  let number? : Option NumberFault := match integer value with
    | .error fault => some fault
    | .ok _ => none
  if is "status.showuntrackedfiles" then
    if s.value.isNone then
      some (settingFault (Text.ofString "missing value for " ++ quoted s.name) s)
    else if ["no", "normal", "all"].any fun w => Text.ofString w = value then none
    else some (settingFault (Text.ofString "Invalid untracked files mode " ++ quoted value) s)
  else if statusNumbers.any is then number?.map (numberFault s)
  else if statusCounts.any is then
    if (truth? s.value).isSome then none else number?.map (numberFault s)
  else
    (rowOf? statusTruths s.name).bind fun words =>
      if (truth? s.value).isSome || isWord words then none
      else some (valueFault "boolean" s "")

/-- Are files that are not tracked told? A setting that has no meaning is told instead. -/
def showsUntracked (settings : List GitSetting) : Except Text Bool :=
  match settings.findSome? statusFault? with
  | some said => .error said
  | none => .ok ((value "status.showuntrackedfiles" settings).join != some (Text.ofString "no"))

/-- Does a setting ask for a signature, which cannot be made here, or has it no meaning? -/
def asksToSign (name : String) (s : GitSetting) : Bool :=
  s.name = Text.ofString name && (truth? s.value).getD true

/-- Does a setting keep commits from being made? -/
def refusesCommits (s : GitSetting) : Bool :=
  let is (name : String) : Bool := s.name = Text.ofString name
  let ways := ["default", "verbatim", "whitespace", "strip", "scissors"]
  (statusFault? s).isSome || asksToSign "commit.gpgsign" s
    || ((is "commit.status" || is "commit.verbose" || is "rerere.enabled")
      && (truth? s.value).isNone)
    || (is "commit.cleanup" && !s.value.any fun t => ways.any fun w => Text.ofString w = t)

end GitConfig

end CallAtlas
