import CallAtlas.Number.Reading
import CallAtlas.Regex.Basic
import CallAtlas.Text.Identifier

/-!
# Reading regular expressions

A regular expression is written with `|` between alternatives, quantifiers behind what is repeated,
sets in brackets, groups in parentheses and escapes behind a backslash. A brace that opens no
quantifier, a closing brace and a closing bracket stand for themselves. A text that is no regular
expression is refused, and the first fault in it tells why.
-/

namespace CallAtlas

/-- Why a text is no regular expression. -/
inductive RegexFault where
  | unterminatedGroup
  | unmatchedParenthesis
  | escapeAtEnd
  | invalidEscape
  | nothingToRepeat
  | boundsOutOfOrder
  | invalidQuantifier
  | invalidGroup
  | invalidGroupName
  | duplicateGroupName
  | invalidReference
  | unknownReference
  | unterminatedSet
  | rangeOutOfOrder
deriving DecidableEq, Repr

/-- What is said of a fault. -/
def RegexFault.message : RegexFault → String
  | unterminatedGroup => "Unterminated group"
  | unmatchedParenthesis => "Unmatched ')'"
  | escapeAtEnd => "\\ at end of pattern"
  | invalidEscape => "Invalid escape"
  | nothingToRepeat => "Nothing to repeat"
  | boundsOutOfOrder => "numbers out of order in \x7b\x7d quantifier"
  | invalidQuantifier => "Invalid quantifier"
  | invalidGroup => "Invalid group"
  | invalidGroupName => "Invalid capture group name"
  | duplicateGroupName => "Duplicate capture group name"
  | invalidReference => "Invalid named reference"
  | unknownReference => "Invalid named capture referenced"
  | unterminatedSet => "Unterminated character class"
  | rangeOutOfOrder => "Range out of order in character class"

namespace Regex

/-! ## Numbers and escapes -/

/-- Is the unit a decimal digit? -/
def isDigit (u : CodeUnit) : Bool := UnitClass.digit.contains u

/-- The decimal number at the beginning of a text, and what comes after it. -/
def number? (t : Text) : Option (Nat × Text) :=
  let digits := t.takeWhile isDigit
  (Number.ofDigits? 10 digits).map fun n => (n, t.drop digits.length)

/-- The value of a number of hexadecimal digits at the beginning of a text. -/
def hex? (count : Nat) (t : Text) : Option CodeUnit :=
  let digits := t.take count
  if digits.length = count then (Number.ofDigits? 16 digits).map Nat.toUInt16 else none

/-- The octal number of up to three digits at the beginning of a text, below 256. -/
def octal (t : Text) : Nat × Text :=
  let isOctal (u : CodeUnit) : Bool := 48 ≤ u.toNat && u.toNat ≤ 55
  let digits := (t.take 3).takeWhile isOctal
  let value (ds : Text) : Nat := (Number.ofDigits? 8 ds).getD 0
  let digits := if 255 < value digits then digits.take 2 else digits
  (value digits, t.drop digits.length)

/-- The class that a letter behind a backslash stands for. -/
def classOf? (u : CodeUnit) : Option SetItem :=
  if u = Text.unit 'd' then some (.class false .digit)
  else if u = Text.unit 'D' then some (.class true .digit)
  else if u = Text.unit 'w' then some (.class false .word)
  else if u = Text.unit 'W' then some (.class true .word)
  else if u = Text.unit 's' then some (.class false .blank)
  else if u = Text.unit 'S' then some (.class true .blank)
  else none

/-- The control unit that a letter behind a backslash stands for. -/
def controlOf? (u : CodeUnit) : Option CodeUnit :=
  [(Text.unit 'f', 12), (Text.unit 'n', 10), (Text.unit 'r', 13), (Text.unit 't', 9),
    (Text.unit 'v', 11)].lookup u

/-- Is the unit an ASCII letter? -/
def isLetter (u : CodeUnit) : Bool :=
  (65 ≤ u.toNat && u.toNat ≤ 90) || (97 ≤ u.toNat && u.toNat ≤ 122)

/-- The unit that the text behind a backslash stands for, and what comes after it. In a set, digits
and the underscore name control units as letters do. -/
def escapedUnit (inSet : Bool) (t : Text) : CodeUnit × Text :=
  match t with
  | [] => (Text.backslash, [])
  | u :: rest =>
    match controlOf? u with
    | some c => (c, rest)
    | none =>
      if u = Text.unit 'c' then
        match rest with
        | v :: after =>
          if isLetter v || (inSet && (isDigit v || v = Text.unit '_')) then
            ((v.toNat % 32).toUInt16, after)
          else (Text.backslash, t)
        | [] => (Text.backslash, t)
      else if u = Text.unit 'x' then
        match hex? 2 rest with
        | some c => (c, rest.drop 2)
        | none => (u, rest)
      else if u = Text.unit 'u' then
        match hex? 4 rest with
        | some c => (c, rest.drop 4)
        | none => (u, rest)
      else if isDigit u && u.toNat ≤ 55 then
        let (value, rest) := octal t
        (value.toUInt16, rest)
      else (u, rest)

/-! ## Names and numbers of groups -/

/-- What was said of groups so far. -/
structure GroupNames where
  /-- All groups that are numbered, in order, by their names if they have any. -/
  all : List (Option Text) := []
  /-- How many of them were opened. -/
  opened : Nat := 0
  defined : List Text := []
  referenced : List Text := []

/-- Is there a group with a name anywhere? -/
def GroupNames.areUsed (g : GroupNames) : Bool := g.all.any Option.isSome

/-- The number of the group with a name. -/
def GroupNames.numberOf? (g : GroupNames) (name : Text) : Option Nat :=
  (g.all.findIdx? fun n => n == some name).map fun i => i + 1

/-- Reads a part of a regular expression. -/
abbrev Reader (α : Type) := StateT GroupNames (Except RegexFault) α

/-- The groups of a text that are numbered. Escaped units and sets are passed over. -/
def groupsIn (inSet : Bool) : Text → List (Option Text)
  | [] => []
  | u :: rest =>
    if u = Text.backslash then
      match rest with
      | [] => []
      | _ :: after => groupsIn inSet after
    else if inSet then groupsIn (u != Text.unit ']') rest
    else if u = Text.unit '[' then groupsIn true rest
    else if u = Text.unit '(' then
      match rest with
      | q :: l :: after =>
        if q ≠ Text.unit '?' then none :: groupsIn false rest
        else if l = Text.unit '<' && after.head? != some (Text.unit '=')
            && after.head? != some (Text.unit '!') then
          some (after.takeWhile fun v => v ≠ Text.unit '>') :: groupsIn false rest
        else groupsIn false rest
      | _ => none :: groupsIn false rest
    else groupsIn false rest

/-- The name in angles behind the opening one, and what comes after it. -/
def groupName? (t : Text) : Option (Text × Text) :=
  let name := t.takeWhile fun u => u ≠ Text.unit '>'
  let points := Text.codePoints name
  let isSign (c : Nat) : Bool := c == '$'.toNat || c == '_'.toNat
  match points with
  | [] => none
  | c :: rest =>
    if (isSign c || Text.isIdentifierStart c)
        && rest.all (fun d => isSign d || Text.isIdentifierContinue d)
        && name.length < t.length then
      some (name, t.drop (name.length + 1))
    else none

/-! ## Sets -/

/-- A member of a set: a unit or a class, and what comes after it. -/
def setMember : Text → Reader ((CodeUnit ⊕ SetItem) × Text)
  | [] => throw .unterminatedSet
  | u :: rest => do
    if u = Text.backslash then
      match rest with
      | [] => throw .escapeAtEnd
      | v :: after =>
        match classOf? v with
        | some c => return (.inr c, after)
        | none =>
          if v = Text.unit 'b' then return (.inl 8, after)
          else if v = Text.unit 'k' ∧ (← get).areUsed then throw .invalidEscape
          else
            let (c, after) := escapedUnit true rest
            return (.inl c, after)
    else return (.inl u, rest)

/-- A member of a set on its own. -/
def single : CodeUnit ⊕ SetItem → SetItem
  | .inl u => .range u u
  | .inr c => c

/-- The items of a set up to the closing bracket. A range whose ends are out of order is refused; a
class makes no range. -/
def setItems : (fuel : Nat) → Text → Reader (List SetItem × Text)
  | 0, _ => throw .unterminatedSet
  | _ + 1, [] => throw .unterminatedSet
  | fuel + 1, u :: rest => do
    if u = Text.unit ']' then return ([], rest)
    else
      let (low, after) ← setMember (u :: rest)
      match after with
      | d :: e :: more =>
        if d = Text.unit '-' && e != Text.unit ']' then
          let (high, behind) ← setMember (e :: more)
          match low, high with
          | .inl l, .inl h =>
            if h < l then throw .rangeOutOfOrder
            else
              let (items, t) ← setItems fuel behind
              return (.range l h :: items, t)
          | _, _ =>
            let (items, t) ← setItems fuel behind
            return (single low :: .range d d :: single high :: items, t)
        else
          let (items, t) ← setItems fuel after
          return (single low :: items, t)
      | _ =>
        let (items, t) ← setItems fuel after
        return (single low :: items, t)

/-- The set behind an opening bracket. -/
def charSet (t : Text) : Reader (Regex × Text) := do
  let negated := t.head? == some (Text.unit '^')
  let (items, rest) ← setItems (t.length + 1) (if negated then t.drop 1 else t)
  return (.set negated items, rest)

/-! ## Quantifiers -/

/-- The bounds of a quantifier in braces, behind the opening one. -/
def bounds? (t : Text) : Option (Nat × Option Nat × Text) :=
  (number? t).bind fun (least, rest) =>
    match rest with
    | u :: after =>
      if u = Text.unit '\x7d' then some (least, some least, after)
      else if u = Text.unit ',' then
        match number? after with
        | some (greatest, v :: behind) =>
          if v = Text.unit '\x7d' then some (least, some greatest, behind) else none
        | some (_, []) => none
        | none =>
          match after with
          | v :: behind => if v = Text.unit '\x7d' then some (least, none, behind) else none
          | [] => none
      else none
    | [] => none

/-- The bounds of the quantifier at the beginning of a text. -/
def quantifier? : Text → Option (Nat × Option Nat × Text)
  | [] => none
  | u :: rest =>
    if u = Text.unit '*' then some (0, none, rest)
    else if u = Text.unit '+' then some (1, none, rest)
    else if u = Text.unit '?' then some (0, some 1, rest)
    else if u = Text.unit '\x7b' then bounds? rest
    else none

/-- Bounds from here on count as equal. -/
def boundLimit : Nat := 2147483647

/-- An expression with the quantifier that may follow it. -/
def quantified (r : Regex) (t : Text) : Reader (Regex × Text) :=
  match quantifier? t with
  | none => return (r, t)
  | some (least, greatest, rest) =>
    let rest := if rest.head? == some (Text.unit '?') then rest.drop 1 else rest
    if greatest.any fun n => min n boundLimit < min least boundLimit then throw .boundsOutOfOrder
    else return (.repeated r least greatest, rest)

/-! ## Groups -/

/-- What kind of group an opening parenthesis begins. -/
inductive GroupKind where
  | plain
  /-- A group with a number and perhaps a name. -/
  | numbered (name : Option Text)
  | look (ahead negated : Bool)
deriving DecidableEq

/-- Keeps the name of a group that is complete. -/
def define (name : Text) : Reader Unit := do
  let names ← get
  if names.defined.contains name then throw .duplicateGroupName
  else StateT.set { names with defined := name :: names.defined }

/-- The kind of the group behind an opening parenthesis. -/
def groupKind (t : Text) : Reader (GroupKind × Text) :=
  match t with
  | q :: k :: rest =>
    if q ≠ Text.unit '?' then return (.numbered none, t)
    else if k = Text.unit ':' then return (.plain, rest)
    else if k = Text.unit '=' then return (.look true false, rest)
    else if k = Text.unit '!' then return (.look true true, rest)
    else if k = Text.unit '<' then
      match rest with
      | m :: behind =>
        if m = Text.unit '=' then return (.look false false, behind)
        else if m = Text.unit '!' then return (.look false true, behind)
        else
          match groupName? rest with
          | none => throw .invalidGroupName
          | some (name, after) => return (.numbered (some name), after)
      | [] => throw .invalidGroupName
    else throw .invalidGroup
  | [q] => if q = Text.unit '?' then throw .invalidGroup else return (.numbered none, t)
  | [] => return (.numbered none, [])

/-! ## Expressions -/

/-- A reference to a group by its name, behind the letter that opens it. -/
def reference (t : Text) : Reader (Regex × Text) := do
  match t with
  | [] => throw .invalidReference
  | u :: rest =>
    if u ≠ Text.unit '<' then throw .invalidReference
    else
      match groupName? rest with
      | none => throw .invalidGroupName
      | some (name, after) =>
        modify fun names => { names with referenced := name :: names.referenced }
        return (.sameAs (((← get).numberOf? name).getD 0) true, after)

/-- A reference to a group by its number, and what comes after it. A number that no group has is no
reference. -/
def numberedReference? (t : Text) : Reader (Option (Regex × Text)) := do
  let total := (← get).all.length
  match number? t with
  | some (n, rest) =>
    return if t.head? != some (Text.unit '0') && n ≤ total then some (.sameAs n true, rest) else none
  | none => return none

/-- The next number of a group. -/
def nextNumber : Reader Nat := do
  modify fun names => { names with opened := names.opened + 1 }
  return (← get).opened

/-- A place or a unit that the text behind a backslash stands for, and whether it can be
repeated. -/
def escape (t : Text) : Reader (Regex × Bool × Text) := do
  match t with
  | [] => throw .escapeAtEnd
  | u :: rest =>
    if u = Text.unit 'b' then return (.boundary false, false, rest)
    else if u = Text.unit 'B' then return (.boundary true, false, rest)
    else if u = Text.unit 'k' ∧ (← get).areUsed then
      let (r, after) ← reference rest
      return (r, true, after)
    else
      match classOf? u, ← numberedReference? t with
      | some c, _ => return (.set false [c], true, rest)
      | none, some (r, after) => return (r, true, after)
      | none, none =>
        let (c, rest) := escapedUnit false t
        return (.unit c, true, rest)

mutual

/-- Alternatives up to a closing parenthesis or the end. -/
def alternatives : (fuel : Nat) → Text → Reader (Regex × Text)
  | 0, _ => throw .unterminatedGroup
  | fuel + 1, t => do
    let (r, rest) ← sequence fuel t
    match rest with
    | u :: after =>
      if u = Text.unit '|' then
        let (s, behind) ← alternatives fuel after
        return (.either r s, behind)
      else return (r, rest)
    | [] => return (r, [])

/-- A row of terms up to the end of the alternative. -/
def sequence : (fuel : Nat) → Text → Reader (Regex × Text)
  | 0, _ => throw .unterminatedGroup
  | _ + 1, [] => return (.empty, [])
  | fuel + 1, u :: rest => do
    if u = Text.unit '|' || u = Text.unit ')' then return (.empty, u :: rest)
    else
      let (r, after) ← term fuel u rest
      let (s, behind) ← sequence fuel after
      return (.seq r s, behind)

/-- A term that begins with a unit. -/
def term : (fuel : Nat) → CodeUnit → Text → Reader (Regex × Text)
  | 0, _, _ => throw .unterminatedGroup
  | fuel + 1, u, rest => do
    if u = Text.unit '^' then return (.start, rest)
    else if u = Text.unit '$' then return (.finish, rest)
    else if u = Text.dot then quantified .any rest
    else if u = Text.unit '[' then
      let (r, after) ← charSet rest
      quantified r after
    else if u = Text.backslash then
      let (r, isRepeatable, after) ← escape rest
      if isRepeatable then quantified r after else return (r, after)
    else if u = Text.unit '(' then
      let (kind, inner) ← groupKind rest
      let number ← match kind with
        | .numbered _ => nextNumber
        | _ => pure 0
      let (r, after) ← alternatives fuel inner
      match after with
      | v :: behind =>
        if v ≠ Text.unit ')' then throw .unterminatedGroup
        else
          match kind with
          | .plain => quantified r behind
          | .numbered name =>
            name.forM define
            quantified (.group number r) behind
          | .look true negated => quantified (.look true negated r) behind
          | .look false negated =>
            let (s, onward) ← quantified (.look false negated r) behind
            if onward.length < behind.length then throw .invalidQuantifier else return (s, onward)
      | [] => throw .unterminatedGroup
    else if (quantifier? (u :: rest)).isSome then throw .nothingToRepeat
    else quantified (.unit u) rest

end

/-- The regular expression that a text writes, with the groups that are asked for again. -/
def ofText (t : Text) : Except RegexFault Regex := do
  let ((r, rest), names) ← (alternatives (4 * t.length + 4) t).run { all := groupsIn false t }
  if !rest.isEmpty then throw .unmatchedParenthesis
  else if names.referenced.any fun n => !names.defined.contains n then throw .unknownReference
  else return r.keeping r.recalled

/-- The regular expression that a text writes, if it writes one. -/
def ofText? (t : Text) : Option Regex := (ofText t).toOption

/-- The regular expression that a string writes; one that nothing matches if it writes none. -/
def ofString (s : String) : Regex := (ofText? (Text.ofString s)).getD never

end Regex

end CallAtlas
