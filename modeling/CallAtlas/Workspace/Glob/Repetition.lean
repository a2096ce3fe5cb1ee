import CallAtlas.Regex.Basic

/-!
# Groups that occur repeatedly

A group that may occur any number of times can match the same text in very many ways, and a search
that goes through them takes too long. Such groups are told by how they are written: one of several
alternatives matches nothing, or anything, or two of them repeat the same unit, or an alternative
is such a group itself. They are not matched as groups. Where an alternative is a row of groups of
one unit each, the units in any number and order take the place of the group; all other groups of
this kind stand for the text that they are written as.
-/

namespace CallAtlas

/-- How a group that may occur any number of times is matched. -/
inductive Repetition where
  /-- As a group. -/
  | group
  /-- As the text that it is written as. -/
  | literal
  /-- As any number of the given units. -/
  | units (us : List CodeUnit)
deriving DecidableEq, Repr

namespace Repetition

/-! ## Places in a pattern -/

/-- What surrounds a place in a pattern. -/
structure Place where
  escaped : Bool := false
  quoted : Bool := false
  brackets : Nat := 0
  parens : Nat := 0

/-- The place behind a unit. -/
def Place.behind (p : Place) (u : CodeUnit) : Place :=
  if p.escaped then { p with escaped := false }
  else if u = Text.backslash then { p with escaped := true }
  else if u = Text.unit '"' then { p with quoted := !p.quoted }
  else if p.quoted then p
  else if u = Text.unit '[' then { p with brackets := p.brackets + 1 }
  else if u = Text.unit ']' then { p with brackets := p.brackets - 1 }
  else if 0 < p.brackets then p
  else if u = Text.unit '(' then { p with parens := p.parens + 1 }
  else if u = Text.unit ')' then { p with parens := p.parens - 1 }
  else p

/-- Does a unit at a place mean what it means outside escapes, quotes and sets? -/
def Place.isBare (p : Place) : Bool := !p.escaped && !p.quoted && p.brackets = 0

/-- The alternatives that a text lists, parentheses around others aside. -/
def alternatives (p : Place) : Text → List Text
  | [] => [[]]
  | u :: rest =>
    if u = Text.unit '|' && p.isBare && p.parens = 0 then [] :: alternatives p rest
    else
      match alternatives (p.behind u) rest with
      | [] => [[u]]
      | first :: others => (u :: first) :: others

/-- What stands before the parenthesis that closes the outermost group, and what comes after it. -/
def untilClosed? (p : Place) : Text → Option (Text × Text)
  | [] => none
  | u :: rest =>
    if u = Text.unit ')' && p.isBare && p.parens = 1 then some ([], rest)
    else (untilClosed? (p.behind u) rest).map fun (inside, after) => (u :: inside, after)

/-- The mark of the repeated group at the beginning of a text, what the group holds, and what comes
after it. -/
def leading? : Text → Option (CodeUnit × Text × Text)
  | mark :: opening :: rest =>
    if (mark = Text.unit '+' || mark = Text.unit '*') && opening = Text.unit '(' then
      (untilClosed? { parens := 1 } rest).map fun (inside, after) => (mark, inside, after)
    else none
  | _ => none

/-! ## Plain alternatives -/

/-- Is a unit in a text? -/
def isAmong (t : Text) (u : CodeUnit) : Bool := List.elem u t

/-- What a group that occurs once holds, if the text is one that holds no further groups. -/
def unwrapped (t : Text) : Text :=
  match t with
  | mark :: opening :: rest =>
    let inside := rest.dropLast
    if mark = Text.unit '@' && opening = Text.unit '(' && rest.getLast? == some (Text.unit ')')
        && !inside.isEmpty && !inside.any (isAmong "\\()[]\x7b\x7d|") then inside
    else t
  | _ => t

/-- Do all units stand for themselves? -/
def isPlain : Text → Bool
  | [] => true
  | [u] => !isAmong "?*+@!()[]\x7b\x7d" u
  | u :: v :: rest =>
    if u = Text.backslash then isPlain rest
    else !isAmong "?*+@!()[]\x7b\x7d" u && isPlain (v :: rest)

/-- The text without the backslashes of its escapes. -/
def unescaped : Text → Text
  | u :: v :: rest =>
    if u = Text.backslash && !Regex.isLineTerminator v then v :: unescaped rest
    else u :: unescaped (v :: rest)
  | t => t

/-- The text that an alternative stands for, if it stands for a single one. -/
def plain? (t : Text) : Option Text :=
  let inside := unwrapped (Text.trim t)
  if isPlain inside then some (unescaped inside) else none

/-- The unit that a text repeats. -/
def repeated? : Text → Option CodeUnit
  | [] => none
  | u :: rest => if rest.all fun v => v = u then some u else none

/-! ## Groups -/

/-- Do two of some alternatives repeat the same unit? -/
def overlap (ts : List Text) : Bool :=
  let us := ts.filterMap fun t => (plain? t).bind repeated?
  us.eraseDups.length < us.length

/-- The units of a row of groups of one unit each that may be left out. -/
def optionalUnits? : (fuel : Nat) → Text → Option (List CodeUnit)
  | 0, _ => none
  | _ + 1, [] => some []
  | n + 1, t =>
    match leading? t with
    | none => none
    | some (mark, inside, rest) =>
      match (alternatives {} inside).map plain? with
      | [some [u]] =>
        if mark = Text.unit '*' then (optionalUnits? n rest).map fun us => u :: us else none
      | _ => none

/-- How a group with one alternative is matched. -/
def ofAlternative (t : Text) : Repetition :=
  match optionalUnits? (t.length + 1) t with
  | some (u :: us) => .units (u :: us)
  | _ =>
    match leading? t with
    | some (_, _, []) => .literal
    | _ => .group

/-- How a group with the given inside is matched. -/
def ofInside (inside : Text) : Repetition :=
  let ts := (alternatives {} inside).map Text.trim
  if 1 < ts.length && (ts.any (fun t => t.all (isAmong "*?")) || overlap ts) then .literal
  else ((ts.map ofAlternative).find? fun r => r != .group).getD .group

end Repetition

end CallAtlas
