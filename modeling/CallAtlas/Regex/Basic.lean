import CallAtlas.Text.Basic
import CallAtlas.Text.Capital

/-!
# Regular expressions

A regular expression describes texts, and a place in a text may be described by what lies before
or after it. A match is described by the places where it may end: `ends` lists them for a match
that begins at a given place. Which of several matches is preferred does not matter here, so the
expressions have no order among alternatives and no greed. Groups are numbered, and what a group
matched last may be asked for again, so that a place comes with what the groups matched before it.
-/

namespace CallAtlas

/-- Classes of units that have a name. -/
inductive UnitClass where
  /-- The decimal digits. -/
  | digit
  /-- ASCII letters, digits and the underscore. -/
  | word
  /-- Blanks. -/
  | blank
deriving DecidableEq, Repr, Inhabited

/-- Does a unit belong to a class? -/
def UnitClass.contains (k : UnitClass) (u : CodeUnit) : Bool :=
  let n := u.toNat
  match k with
  | digit => 48 ≤ n && n ≤ 57
  | word => (48 ≤ n && n ≤ 57) || (65 ≤ n && n ≤ 90) || n == 95 || (97 ≤ n && n ≤ 122)
  | blank => Text.isBlank u

/-- A part of a set of units. -/
inductive SetItem where
  /-- The units from a first to a last one. -/
  | range (first last : CodeUnit)
  /-- The units of a class, or those outside it. -/
  | «class» (negated : Bool) (k : UnitClass)
deriving DecidableEq, Repr, Inhabited

/-- A regular expression. -/
inductive Regex where
  /-- The empty text. -/
  | empty
  | unit (u : CodeUnit)
  /-- One unit that is no line terminator. -/
  | any
  /-- One unit that one of the items holds, or that none of them holds. -/
  | set (negated : Bool) (items : List SetItem)
  /-- The beginning of the text. -/
  | start
  /-- The end of the text. -/
  | finish
  /-- The beginning of the text, or the place behind a line end that belongs to the match. -/
  | lineStart
  /-- The end of the text, or the place before a line end that belongs to the match. -/
  | lineFinish
  /-- A place where a word begins or ends, or any other place. -/
  | boundary (negated : Bool)
  /-- A place after which, or before which, there is a match, or there is none. -/
  | look (ahead negated : Bool) (r : Regex)
  | seq (r s : Regex)
  | either (r s : Regex)
  /-- From a least to a greatest number of matches in a row. -/
  | repeated (r : Regex) (least : Nat) (greatest : Option Nat)
  /-- What a group matches, which is kept under its number. -/
  | group (number : Nat) (r : Regex)
  /-- What a group matched last. If it has matched nothing so far, this is the empty text or
  nothing. -/
  | sameAs (number : Nat) (orEmpty : Bool)
deriving Repr, Inhabited

namespace Regex

/-! ## Groups -/

/-- The numbers of the groups that are asked for again. -/
def recalled : Regex → List Nat
  | look _ _ r | repeated r _ _ | group _ r => recalled r
  | seq r s | either r s => recalled r ++ recalled s
  | sameAs n _ => [n]
  | _ => []

/-- The numbers of the groups inside. -/
def inside : Regex → List Nat
  | look _ _ r | repeated r _ _ => inside r
  | seq r s | either r s => inside r ++ inside s
  | group n r => n :: inside r
  | _ => []

/-- The expression with the groups of the given numbers alone. -/
def keeping (numbers : List Nat) : Regex → Regex
  | look ahead negated r => look ahead negated (keeping numbers r)
  | repeated r least greatest => repeated (keeping numbers r) least greatest
  | seq r s => seq (keeping numbers r) (keeping numbers s)
  | either r s => either (keeping numbers r) (keeping numbers s)
  | group n r => if numbers.contains n then group n (keeping numbers r) else keeping numbers r
  | r => r

/-! ## Single units -/

/-- Is the unit a line terminator? -/
def isLineTerminator (u : CodeUnit) : Bool :=
  let n := u.toNat
  n == 10 || n == 13 || n == 0x2028 || n == 0x2029

/-- Are two units the same, where case may not count? -/
def sameUnit (foldCase : Bool) (u v : CodeUnit) : Bool :=
  u == v || (foldCase && Text.capital u == Text.capital v)

/-- Does an item hold a unit? -/
def itemHolds (item : SetItem) (u : CodeUnit) : Bool :=
  match item with
  | .range first last => first ≤ u && u ≤ last
  | .class negated k => k.contains u != negated

/-- Does one of the items hold a unit, or one that is the same where case does not count? -/
def holds (foldCase : Bool) (items : List SetItem) (u : CodeUnit) : Bool :=
  items.any (fun i => itemHolds i u)
    || (foldCase && (Text.withSameCapital u).any fun v => items.any fun i => itemHolds i v)

/-! ## Matching -/

/-- How far a match has come. -/
structure Progress where
  place : Nat
  /-- Where it began. -/
  first : Nat
  /-- Where it may end at the earliest. -/
  earliest : Nat := 0
  /-- Where what the groups matched last begins and ends, by their numbers. -/
  groups : List (Nat × Nat × Nat) := []
deriving DecidableEq

namespace Progress

/-- Some places further on. -/
def onward (p : Progress) (width : Nat) : Progress := { p with place := p.place + width }

/-- Without what some groups matched. -/
def without (p : Progress) (numbers : List Nat) : Progress :=
  { p with groups := p.groups.filter fun g => !numbers.contains g.1 }

/-- With what a group matched from a place on. -/
def keep (p : Progress) (number first : Nat) : Progress :=
  { p with groups := (number, first, p.place) :: p.groups.filter fun g => g.1 != number }

end Progress

/-- The end of a match of one unit that satisfies a test. -/
def oneUnit (input : Array CodeUnit) (p : Progress) (test : CodeUnit → Bool) : List Progress :=
  match input[p.place]? with
  | some u => if test u then [p.onward 1] else []
  | none => []

/-- The end of a match of what lies between two places. -/
def again (foldCase : Bool) (input : Array CodeUnit) (p : Progress) (first last : Nat) :
    List Progress :=
  let width := last - first
  let isSame (k : Nat) : Bool :=
    match input[first + k]?, input[p.place + k]? with
    | some u, some v => sameUnit foldCase u v
    | _, _ => false
  if (List.range width).all isSame then [p.onward width] else []

/-- The place itself if a test holds there. -/
def placeIf (p : Progress) (b : Bool) : List Progress := if b then [p] else []

/-- Is there a line end at a place? -/
def isNewlineAt (input : Array CodeUnit) (i : Nat) : Bool := input[i]? == some Text.newline

/-- Is there a word unit at a place? -/
def isWordAt (input : Array CodeUnit) (i : Nat) : Bool :=
  ((input[i]?).map UnitClass.word.contains).getD false

/-- Does a word begin or end at a place? -/
def isBoundary (input : Array CodeUnit) (i : Nat) : Bool :=
  (i != 0 && isWordAt input (i - 1)) != isWordAt input i

/-- The places that lead to one another by steps, one step more each time: those after `least`
steps and, as long as `more` allows, those after further steps. -/
def iterate (step : Progress → List Progress) (more : Nat) :
    (least : Nat) → List Progress → List Progress
  | n + 1, places => iterate step more n (places.flatMap step).eraseDups
  | 0, places => onward more places places
where
  /-- The places found so far, and those that the latest of them lead to. -/
  onward (more : Nat) (found latest : List Progress) : List Progress :=
    match more with
    | 0 => found
    | m + 1 =>
      let next := ((latest.flatMap step).eraseDups).filter fun p => !found.contains p
      if next.isEmpty then found else onward m (found ++ next) next

/-- Where a match that begins at a place may end. A row of more matches than the text has places
holds empty ones, so that no more of them need to be looked at; each of them forgets what its groups
matched before. -/
def ends (foldCase : Bool) (input : Array CodeUnit) : Regex → Progress → List Progress
  | empty, p => [p]
  | unit u, p => oneUnit input p (sameUnit foldCase u)
  | any, p => oneUnit input p fun u => !isLineTerminator u
  | set negated items, p => oneUnit input p fun u => holds foldCase items u != negated
  | start, p => placeIf p (p.place == 0)
  | finish, p => placeIf p (p.place == input.size)
  | lineStart, p =>
    placeIf p (p.place == 0 || (p.first < p.place && isNewlineAt input (p.place - 1)))
  | lineFinish, p =>
    if p.place == input.size then [p]
    else
      placeIf { p with earliest := max p.earliest (p.place + 1) } (isNewlineAt input p.place)
  | boundary negated, p => placeIf p (isBoundary input p.place != negated)
  | look ahead negated r, p =>
    let found :=
      if ahead then ends foldCase input r p
      else
        -- A look behind may begin at any place before, but has to end here.
        (List.range (p.place + 1)).flatMap fun j =>
          (ends foldCase input r { p with place := j }).filter fun q => q.place == p.place
    if negated then placeIf p found.isEmpty
    else (found.map fun q => { q with place := p.place }).eraseDups
  | seq r s, p => ((ends foldCase input r p).flatMap (ends foldCase input s)).eraseDups
  | either r s, p => (ends foldCase input r p ++ ends foldCase input s p).eraseDups
  | repeated r least greatest, p =>
    let limit := input.size + 1
    let first := min least limit
    let more :=
      match greatest with
      | some n => min (n - least) limit
      | none => limit
    let numbers := inside r
    iterate (fun q => ends foldCase input r (q.without numbers)) more first [p]
  | group n r, p => (ends foldCase input r p).map fun q => q.keep n p.place
  | sameAs n orEmpty, p =>
    match p.groups.lookup n with
    | some (first, last) => again foldCase input p first last
    | none => placeIf p orEmpty

/-- Is there a match anywhere in a text? -/
def test (foldCase : Bool) (r : Regex) (t : Text) : Bool :=
  let input := t.toArray
  (List.range (input.size + 1)).any fun i =>
    (ends foldCase input r { place := i, first := i }).any fun p => p.earliest ≤ p.place

/-- The expression that nothing matches. -/
def never : Regex := set false []

end Regex

end CallAtlas
