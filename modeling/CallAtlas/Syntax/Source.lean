import CallAtlas.Text.Basic

/-!
# Source texts with positions

A source text is read by offset, counted in code units. A point is a row and a column,
both from zero: rows are counted by line feeds alone, columns by code units since the
last line feed.
-/

namespace CallAtlas.Syntax

/-- A place in a source text: row and column, both counted from zero. -/
structure Point where
  row : Nat
  column : Nat
deriving DecidableEq, Repr, Inhabited

/-- A text prepared for random access, with the point of every offset. -/
structure Source where
  /-- The code units. -/
  units : Array CodeUnit
  /-- The point before each unit, and the point at the end. -/
  points : Array Point

namespace Source

/-- The points before each unit of a text, from a given point on. -/
def pointsFrom (p : Point) : Text → List Point
  | [] => [p]
  | u :: rest =>
    p :: pointsFrom (if u = Text.newline then ⟨p.row + 1, 0⟩ else ⟨p.row, p.column + 1⟩) rest

/-- Prepares a text. -/
def ofText (t : Text) : Source :=
  let points := t.foldl (fun (acc : Array Point × Point) u =>
    let next : Point :=
      if u = Text.newline then ⟨acc.2.row + 1, 0⟩ else ⟨acc.2.row, acc.2.column + 1⟩
    (acc.1.push next, next)) (#[⟨0, 0⟩], ⟨0, 0⟩)
  ⟨t.toArray, points.1⟩

/-- The number of code units. -/
def size (s : Source) : Nat := s.units.size

/-- The point of an offset; the end for an offset past it. -/
def point (s : Source) (offset : Nat) : Point :=
  s.points[offset]?.getD (s.points.back?.getD ⟨0, 0⟩)

/-- The code point at an offset, 0 at the end. -/
def codePoint (s : Source) (offset : Nat) : Nat :=
  match s.units[offset]? with
  | none => 0
  | some u =>
    if Text.isHighSurrogate u then
      match s.units[offset + 1]? with
      | some v => if Text.isLowSurrogate v then Text.pairValue u v else u.toNat
      | none => u.toNat
    else u.toNat

/-- The number of units that a code point takes. -/
def width (c : Nat) : Nat := if c < 0x10000 then 1 else 2

/-- The offset after the code point at an offset; the end stays where it is. -/
def next (s : Source) (offset : Nat) : Nat :=
  if offset < s.size then offset + width (s.codePoint offset) else offset

/-- The offset after a byte order mark, which only counts as one at the beginning. -/
def afterMark (s : Source) (offset : Nat) : Nat :=
  if offset = 0 ∧ s.codePoint 0 = 0xFEFF then s.next 0 else offset

/-- No unit is left at the offset. -/
def atEnd (s : Source) (offset : Nat) : Bool := s.size ≤ offset

/-- The text between two offsets. -/
def slice (s : Source) (start stop : Nat) : Text := (s.units.extract start stop).toList

end Source

end CallAtlas.Syntax
