import CallAtlas.Path.Basic

/-!
# Ignored files

Files of a work tree are ignored by rules, one on each line of files named `.gitignore`. A rule is
for the directory of its file; of the rules that match a path the last one counts, those of inner
directories after those of outer ones, and a rule behind an exclamation mark takes paths back. What
lies in an ignored directory is ignored.

Patterns are matched byte by byte. `*` and `?` stand for bytes inside a segment, `**` as a whole
segment for any number of segments, and `[...]` for one byte of a set.
-/

namespace CallAtlas

namespace Ignore

/-- Bytes of a path or of a pattern. -/
abbrev Bytes := List UInt8

/-- The byte of an ASCII character. -/
abbrev byte (c : Char) : UInt8 := c.val.toUInt8

/-! ## Sets of bytes -/

/-- Is a byte in one of some ranges? -/
def isBetween (ranges : List (Nat × Nat)) (b : UInt8) : Bool :=
  ranges.any fun r => r.1 ≤ b.toNat && b.toNat ≤ r.2

/-- The classes of bytes that have a name, by their ranges. -/
def classes : List (String × List (Nat × Nat)) :=
  let digits := (48, 57)
  let capitals := (65, 90)
  let smalls := (97, 122)
  [("alnum", [digits, capitals, smalls]), ("alpha", [capitals, smalls]),
    ("blank", [(9, 9), (32, 32)]), ("cntrl", [(0, 31), (127, 127)]), ("digit", [digits]),
    ("graph", [(33, 126)]), ("lower", [smalls]), ("print", [(32, 126)]),
    ("punct", [(33, 47), (58, 64), (91, 96), (123, 126)]),
    ("space", [(9, 10), (13, 13), (32, 32)]), ("upper", [capitals]),
    ("xdigit", [digits, (65, 70), (97, 102)])]

/-- The class of a name. -/
def class? (name : Bytes) : Option (List (Nat × Nat)) :=
  (classes.find? fun c => c.1.toUTF8.toList == name).map Prod.snd

/-- The name of a class between `[:` and `:]`, and what comes after it. If the closing bracket is
missing there is no set; if the colon before it is missing there is no class. -/
def className? (t : Bytes) : Option (Option Bytes × Bytes) :=
  let inside := t.takeWhile fun b => b ≠ byte ']'
  if inside.length = t.length then none
  else if inside.getLast? = some (byte ':') then
    some (some inside.dropLast, t.drop (inside.length + 1))
  else some (none, t)

/-- Does a set hold a byte, and what comes after it? `before` is the member before, from which a
range may begin. None if the set is not closed or names no class. -/
def setHolds? (b : UInt8) : (fuel : Nat) → (before : Option UInt8) → (held : Bool) → Bytes →
    Option (Bool × Bytes)
  | 0, _, _, _ => none
  | n + 1, before, held, t =>
    let onward (member : Option UInt8) (holds : Bool) (rest : Bytes) : Option (Bool × Bytes) :=
      match rest with
      | [] => none
      | c :: after =>
        if c = byte ']' then some (held || holds, after)
        else setHolds? b n member (held || holds) rest
    match t, before with
    | [], _ => none
    | c :: rest, before =>
      let plain := onward (some c) (b == c) rest
      if c = byte '\\' then
        match rest with
        | [] => none
        | e :: after => onward (some e) (b == e) after
      -- A dash at either end of a set stands for itself.
      else if c = byte '-' then
        match before, rest with
        | some low, high :: after =>
          if high = byte ']' then plain
          else if high = byte '\\' then
            match after with
            | [] => none
            | e :: after => onward none (low ≤ b && b ≤ e) after
          else onward none (low ≤ b && b ≤ high) after
        | _, _ => plain
      else if c = byte '[' && rest.head? == some (byte ':') then
        match className? (rest.drop 1) with
        | none => none
        | some (none, _) => plain
        | some (some name, after) =>
          match class? name with
          | none => none
          | some ranges => onward none (isBetween ranges b) after
      else plain

/-! ## Matching -/

/-- The suffixes of a text that begin where a star may end: everywhere, or up to the first
slash. -/
def starEnds (crosses : Bool) : Bytes → List Bytes
  | [] => []
  | b :: rest =>
    (b :: rest) :: if !crosses && b = byte '/' then [] else starEnds crosses rest

/-- Does a pattern match a text? `paths` tells that slashes count, and `start` that a segment of
the pattern begins. -/
def wildMatch (paths : Bool) : (fuel : Nat) → (start : Bool) → Bytes → Bytes → Bool
  | 0, _, _, _ => false
  | _ + 1, _, [], t => t.isEmpty
  | n + 1, start, p :: ps, t =>
    if p = byte '*' then
      let after := ps.dropWhile fun q => q = byte '*'
      -- Two stars that make up a whole segment stand for any number of segments.
      let isSegment := start && ps.head? == some (byte '*')
        && (after.isEmpty || after.head? == some (byte '/')
          || [byte '\\', byte '/'].isPrefixOf after)
      let crosses := !paths || isSegment
      match after with
      | [] => crosses || !t.contains (byte '/')
      | q :: qs =>
        (paths && isSegment && q = byte '/' && wildMatch paths n true qs t)
          || if !crosses && q = byte '/' then
              match t.dropWhile fun b => b ≠ byte '/' with
              | [] => false
              | _ :: rest => wildMatch paths n true qs rest
            else (starEnds crosses t).any fun s => wildMatch paths n false after s
    else
      match t with
      | [] => false
      | b :: rest =>
        if p = byte '\\' then
          match ps with
          | [] => false
          | e :: qs => b == e && wildMatch paths n (e = byte '/') qs rest
        else if p = byte '?' then
          !(paths && b = byte '/') && wildMatch paths n false ps rest
        else if p = byte '[' then
          let negated := ps.head? == some (byte '!') || ps.head? == some (byte '^')
          match setHolds? b (ps.length + 1) none false (if negated then ps.drop 1 else ps) with
          | none => false
          | some (held, qs) =>
            held != negated && !(paths && b = byte '/') && wildMatch paths n false qs rest
        else b == p && wildMatch paths n (p = byte '/') ps rest

/-- Does a pattern match a whole text? -/
def matchesAll (paths : Bool) (pattern t : Bytes) : Bool :=
  wildMatch paths (pattern.length + t.length + 1) true pattern t

/-! ## Rules -/

/-- A rule that tells which files are ignored. -/
structure Rule where
  /-- The directory that the rule is for, as a path from the top with a slash after it. -/
  directory : Text
  pattern : Bytes
  directoriesOnly : Bool
  /-- Does the rule take files back? -/
  negated : Bool
deriving DecidableEq, Inhabited

/-- Does a byte have a meaning of its own in a pattern? -/
def isSpecial (b : UInt8) : Bool :=
  b = byte '*' || b = byte '?' || b = byte '[' || b = byte '\\'

/-- The line without the spaces at its end; one behind a backslash stays. -/
def trimEnd : Bytes → Bytes
  | [] => []
  | [b] => if b = byte ' ' then [] else [b]
  | b :: c :: rest =>
    if b = byte '\\' then b :: c :: trimEnd rest
    else
      match trimEnd (c :: rest) with
      | [] => if b = byte ' ' then [] else [b]
      | trimmed => b :: trimmed

/-- The line without a carriage return at its end, up to a byte that is zero. -/
def lineOf (line : Bytes) : Bytes :=
  let line := if line.getLast? = some (byte '\r') then line.dropLast else line
  line.takeWhile fun b => b ≠ 0

/-- The rule of a line. -/
def ruleOf? (directory : Text) (line : Bytes) : Option Rule :=
  if line.isEmpty || line.head? = some (byte '#') then none
  else
    let line := trimEnd (lineOf line)
    let negated := line.head? = some (byte '!')
    let pattern := if negated then line.drop 1 else line
    let directoriesOnly := pattern.getLast? = some (byte '/')
    some
      { directory
        pattern := if directoriesOnly then pattern.dropLast else pattern
        directoriesOnly
        negated }

/-- Does a pattern without slashes match the last segment of a path? -/
def matchesName (pattern name : Bytes) : Bool :=
  if pattern.any isSpecial then matchesAll false pattern name else pattern == name

/-- Does a pattern match a path from its directory? The bytes before the first special one are
compared, and the rest is matched on its own. -/
def matchesPath (pattern path : Bytes) : Bool :=
  let pattern := if pattern.head? = some (byte '/') then pattern.drop 1 else pattern
  let plain := pattern.takeWhile fun b => !isSpecial b
  plain.isPrefixOf path
    && matchesAll true (pattern.drop plain.length) (path.drop plain.length)

/-- Does a rule match a path? -/
def Rule.describes (r : Rule) (path : Text) (isDirectory : Bool) : Bool :=
  (isDirectory || !r.directoriesOnly) && r.directory.isPrefixOf path
    && (if r.pattern.contains (byte '/') then
          matchesPath r.pattern (Text.toUtf8 (path.drop r.directory.length))
        else matchesName r.pattern (Path.baseName path).toUtf8)

/-- The rules of a file for a directory. A mark of the byte order before them does not count. -/
def rulesIn (directory content : Text) : List Rule :=
  let content := if content.head? = some 0xFEFF then content.drop 1 else content
  (Text.splitAt Text.newline content).filterMap fun line => ruleOf? directory line.toUtf8

/-- The name of the files that hold rules. -/
def fileName : Text := Text.ofString ".gitignore"

/-- The rules of a work tree with the given files, those of outer directories first. -/
def rulesOf (files : List (Text × Text)) : List Rule :=
  let holders := files.filter fun f => Path.baseName f.1 = fileName
  let ordered := holders.mergeSort fun a b => a.1.length ≤ b.1.length
  ordered.flatMap fun f => rulesIn (f.1.take (f.1.length - fileName.length)) f.2

/-- What the rules say of a path alone. -/
def verdict (rules : List Rule) (path : Text) (isDirectory : Bool) : Bool :=
  match rules.reverse.find? fun r => r.describes path isDirectory with
  | some r => !r.negated
  | none => false

/-- The directories above a path from the top, the outermost first. -/
def directoriesOf (path : Text) : List Text :=
  let segments := Text.splitAt Text.slash path
  (List.range (segments.length - 1)).map fun i => Text.join [Text.slash] (segments.take (i + 1))

/-- Is a file ignored? -/
def isIgnored (rules : List Rule) (path : Text) : Bool :=
  (directoriesOf path).any (fun d => verdict rules d true) || verdict rules path false

end Ignore

end CallAtlas
