import CallAtlas.Regex.Reader

/-!
# Reading extended regular expressions

Extended regular expressions have alternatives, groups, quantifiers and sets as others have, but
rules of their own. A quantifier needs something to repeat, which may be repeated already but may
not be a place. A closing parenthesis that closes no group stands for itself. A dot stands for any
unit, the end of a line included. A set knows no escapes; classes of units are named in it between
colons. Behind a backslash stand digits for groups that are closed, letters for classes and signs
for places; any other unit stands for itself.
-/

namespace CallAtlas.Regex.Extended

/-! ## Classes -/

/-- The classes of units that have a name, by their ranges. -/
def classes : List (String × List (CodeUnit × CodeUnit)) :=
  let digits := (48, 57)
  let capitals := (65, 90)
  let smalls := (97, 122)
  [("alnum", [digits, capitals, smalls]), ("alpha", [capitals, smalls]),
    ("blank", [(9, 9), (32, 32)]), ("cntrl", [(0, 31), (127, 127)]), ("digit", [digits]),
    ("graph", [(33, 126)]), ("lower", [smalls]), ("print", [(32, 126)]),
    ("punct", [(33, 47), (58, 64), (91, 96), (123, 126)]), ("space", [(9, 13), (32, 32)]),
    ("upper", [capitals]), ("xdigit", [digits, (65, 70), (97, 102)])]

/-- The units of a class with a name. -/
def classItems? (name : Text) : Option (List SetItem) :=
  (classes.find? fun c => Text.ofString c.1 == name).map fun c =>
    c.2.map fun r => .range r.1 r.2

/-- The units between words. -/
def spaces : List SetItem := (classItems? (Text.ofString "space")).getD []

/-! ## Sets -/

/-- A token of a set. -/
inductive SetToken where
  | unit (u : CodeUnit)
  /-- A hyphen, which may make a range. -/
  | hyphen
  | closing
  /-- The beginning of a name between dots, equals signs or colons. -/
  | name (mark : CodeUnit)
deriving DecidableEq

/-- A member of a set. -/
inductive Member where
  | unit (u : CodeUnit)
  | items (is : List SetItem)

/-- The first token of a text. -/
def setToken? : Text → Option (SetToken × Text)
  | [] => none
  | u :: rest =>
    if u = Text.unit '[' then
      match rest with
      | v :: after =>
        if v = Text.dot || v = Text.unit '=' || v = Text.unit ':' then some (.name v, after)
        else some (.unit u, rest)
      | [] => some (.unit u, [])
    else if u = Text.unit '-' then some (.hyphen, rest)
    else if u = Text.unit ']' then some (.closing, rest)
    else some (.unit u, rest)

/-- The name up to a mark with a bracket behind it, and what comes after that. -/
def markedName? (mark : CodeUnit) : Text → Option (Text × Text)
  | u :: v :: rest =>
    if u = mark && v = Text.unit ']' then some ([], rest)
    else (markedName? mark (v :: rest)).map fun (name, after) => (u :: name, after)
  | _ => none

/-- The member that a token and the text behind it make. A hyphen is a member of its own where one
is accepted, and at the end of the set. -/
def member? (acceptHyphen : Bool) (token : SetToken) (rest : Text) : Option (Member × Text) :=
  match token with
  | .unit u => some (.unit u, rest)
  | .closing => some (.unit (Text.unit ']'), rest)
  | .hyphen =>
    if acceptHyphen || rest.head? == some (Text.unit ']') then some (.unit (Text.unit '-'), rest)
    else none
  | .name mark =>
    (markedName? mark rest).bind fun (name, after) =>
      if mark = Text.unit ':' then (classItems? name).map fun is => (.items is, after)
      else
        match name with
        | [u] =>
          some (if mark = Text.unit '=' then .items [.range u u] else .unit u, after)
        | _ => none

/-- The items of a set up to the closing bracket; one that comes first is a member. -/
def setItems? : (fuel : Nat) → (first : Bool) → Text → Option (List SetItem × Text)
  | 0, _, _ => none
  | n + 1, first, t =>
    let onward (is : List SetItem) (rest : Text) : Option (List SetItem × Text) :=
      (setItems? n false rest).map fun (more, after) => (is ++ more, after)
    (setToken? t).bind fun (token, rest) =>
      if token = .closing && !first then some ([], rest)
      else
        (member? first token rest).bind fun (member, rest) =>
          match member with
          | .items is => onward is rest
          | .unit u =>
            match setToken? rest with
            | some (.hyphen, behind) =>
              (setToken? behind).bind fun (token, after) =>
                if token = .closing then
                  some ([.range u u, .range (Text.unit '-') (Text.unit '-')], after)
                else
                  (member? true token after).bind fun (last, after) =>
                    match last with
                    | .unit v => if v < u then none else onward [.range u v] after
                    | .items _ => none
            | some _ => onward [.range u u] rest
            | none => none

/-- The set behind an opening bracket. -/
def charSet? (t : Text) : Option (Regex × Text) :=
  let negated := t.head? == some (Text.unit '^')
  let inside := if negated then t.drop 1 else t
  (setItems? (t.length + 1) true inside).map fun (items, rest) => (.set negated items, rest)

/-! ## Quantifiers -/

/-- The greatest number in the braces of a quantifier. -/
def boundLimit : Nat := 32767

/-- What comes after a comma, which may stand behind a backslash. -/
def afterComma? : Text → Option Text
  | u :: rest =>
    if u = Text.unit ',' then some rest
    else if u = Text.backslash && rest.head? == some (Text.unit ',') then some (rest.drop 1)
    else none
  | [] => none

/-- The bounds of a quantifier in braces, behind the opening one. Without a first number it is
zero. -/
def bounds? (t : Text) : Option (Nat × Option Nat × Text) :=
  let numberIn (t : Text) : Option Nat × Text :=
    match number? t with
    | some (n, rest) => (some n, rest)
    | none => (none, t)
  let ended (least : Nat) (greatest : Option Nat) (rest : Text) :
      Option (Nat × Option Nat × Text) :=
    match rest with
    | u :: after =>
      if u = Text.unit '\x7d' && greatest.all (fun n => least ≤ n)
          && greatest.getD least ≤ boundLimit then some (least, greatest, after)
      else none
    | [] => none
  let (first, rest) := numberIn t
  match afterComma? rest with
  | some after =>
    let (last, behind) := numberIn after
    ended (first.getD 0) last behind
  | none => first.bind fun n => ended n (some n) rest

/-- An expression with the quantifiers at the beginning of a text, and what comes after them. -/
def quantified? : (fuel : Nat) → Regex → Text → Option (Regex × Text)
  | 0, r, t => some (r, t)
  | n + 1, r, t =>
    match t with
    | [] => some (r, [])
    | u :: rest =>
      if u = Text.unit '*' then quantified? n (.repeated r 0 none) rest
      else if u = Text.unit '+' then quantified? n (.repeated r 1 none) rest
      else if u = Text.unit '?' then quantified? n (.repeated r 0 (some 1)) rest
      else if u = Text.unit '\x7b' then
        (bounds? rest).bind fun (least, greatest, after) =>
          quantified? n (if greatest = some 0 then .empty else .repeated r least greatest) after
      else some (r, t)

/-! ## Expressions -/

/-- An expression that is being read. -/
structure Draft where
  rest : Text
  /-- How many groups were opened. -/
  opened : Nat := 0
  /-- The groups that can be asked for. -/
  closed : List Nat := []

/-- Reads a part of an expression. -/
abbrev Reader (α : Type) := StateT Draft Option α

/-- Goes on with the given text. -/
def goOn (rest : Text) : Reader Unit := modify fun d => { d with rest }

/-- A place where a word begins or ends. -/
def wordPlace (begins : Bool) : Regex :=
  .seq (.boundary false) (.look true (!begins) (.set false [.class false .word]))

/-- What a unit behind a backslash stands for, and whether it can be repeated. -/
def escape (closed : List Nat) (u : CodeUnit) : Option (Regex × Bool) :=
  let place (r : Regex) : Option (Regex × Bool) := some (r, false)
  let units (negated : Bool) (items : List SetItem) : Option (Regex × Bool) :=
    some (.set negated items, true)
  let word : List SetItem := [.class false .word]
  if u = Text.unit '<' then place (wordPlace true)
  else if u = Text.unit '>' then place (wordPlace false)
  else if u = Text.unit 'b' then place (.boundary false)
  else if u = Text.unit 'B' then place (.boundary true)
  else if u = 0x60 then place .start
  else if u = Text.unit '\'' then place .finish
  else if u = Text.unit 'w' then units false word
  else if u = Text.unit 'W' then units true word
  else if u = Text.unit 's' then units false spaces
  else if u = Text.unit 'S' then units true spaces
  else if isDigit u && u ≠ Text.unit '0' then
    let n := u.toNat - 48
    if closed.contains n then some (.sameAs n false, true) else none
  else some (.unit u, true)

mutual

/-- Alternatives up to the end, or up to a closing parenthesis in a group. An alternative knows the
groups that were closed before all of them. -/
def alternatives : (fuel : Nat) → (nested : Bool) → Reader Regex
  | 0, _ => failure
  | n + 1, nested => do
    let before := (← get).closed
    let r ← sequence n nested
    let d ← get
    match d.rest with
    | [] => return r
    | u :: rest =>
      if u ≠ Text.unit '|' then return r
      else
        StateT.set { d with rest, closed := before }
        let s ← alternatives n nested
        modify fun e => { e with closed := d.closed ++ e.closed }
        return .either r s

/-- A row of terms up to the end of the alternative. -/
def sequence : (fuel : Nat) → (nested : Bool) → Reader Regex
  | 0, _ => failure
  | n + 1, nested => do
    match (← get).rest with
    | [] => return .empty
    | u :: rest =>
      if u = Text.unit '|' || (nested && u = Text.unit ')') then return .empty
      else
        let (r, isRepeatable) ← term n u rest
        if isRepeatable then
          let rest := (← get).rest
          let (r, rest) ← quantified? (rest.length + 1) r rest
          goOn rest
          return .seq r (← sequence n nested)
        else return .seq r (← sequence n nested)

/-- A term that begins with a unit, and whether it can be repeated. -/
def term : (fuel : Nat) → CodeUnit → Text → Reader (Regex × Bool)
  | 0, _, _ => failure
  | n + 1, u, rest => do
    goOn rest
    if u = Text.unit '^' then return (.lineStart, false)
    else if u = Text.unit '$' then return (.lineFinish, false)
    else if u = Text.dot then return (.set true [], true)
    else if u = Text.unit '[' then
      let (r, after) ← charSet? rest
      goOn after
      return (r, true)
    else if u = Text.backslash then
      match rest with
      | [] => failure
      | v :: after =>
        goOn after
        escape (← get).closed v
    else if u = Text.unit '(' then
      modify fun d => { d with opened := d.opened + 1 }
      let number := (← get).opened
      let r ← alternatives n true
      let d ← get
      match d.rest with
      | [] => failure
      | _ :: after =>
        StateT.set { d with rest := after, closed := number :: d.closed }
        return (.group number r, true)
    else if ['*', '+', '?', '\x7b'].any fun c => u = Text.unit c then failure
    else return (.unit u, true)

end

/-- The extended regular expression that a text writes, with the groups that are asked for again. -/
def ofText? (t : Text) : Option Regex :=
  ((alternatives (4 * t.length + 4) false).run { rest := t }).map fun (r, _) =>
    r.keeping r.recalled

end CallAtlas.Regex.Extended
