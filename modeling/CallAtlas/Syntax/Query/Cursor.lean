import CallAtlas.Syntax.Query.Basic

/-!
# The words of a query

A query consists of names, strings and marks. Blanks may stand between them, and so may comments,
which begin with a semicolon and end with the line. Reading a query is a walk of a cursor over its
code points; where it cannot go on, the cursor stops with what is wrong there.
-/

namespace CallAtlas.Syntax

namespace Query

/-- A code point of ASCII. -/
abbrev code (c : Char) : Nat := c.toNat

/-- How far a query was read. -/
structure Cursor where
  /-- The code points that are not read yet. -/
  rest : List Nat
  /-- The captures that were made. -/
  captures : List (List Nat) := []
  /-- What is wrong with the first condition that has the wrong arguments. -/
  misuse : Option Text := none

/-- What is wrong, and what was not read before it. -/
structure Stop where
  kind : QueryFaultKind
  rest : List Nat

/-- The result of reading a part of a query. -/
abbrev Read (α : Type) := Except Stop α

namespace Cursor

/-- The next code point; zero at the end. -/
def next (c : Cursor) : Nat := c.rest.headD 0

/-- Reads on behind the next code point. -/
def advance (c : Cursor) : Cursor := { c with rest := c.rest.drop 1 }

/-- Stops here. -/
def stop {α : Type} (c : Cursor) (kind : QueryFaultKind := .form) : Read α := .error ⟨kind, c.rest⟩

end Cursor

/-- Is the code point a blank? -/
def isBlank (c : Nat) : Bool := c == 0x20 || (9 ≤ c && c ≤ 13)

/-- Skips blanks and comments, which begin with a semicolon and end with the line. -/
def skipBlanks (inComment : Bool) : List Nat → List Nat
  | [] => []
  | c :: rest =>
    if inComment then
      if c = code '\n' then skipBlanks false rest else skipBlanks true rest
    else if isBlank c then skipBlanks false rest
    else if c = code ';' then skipBlanks true rest
    else c :: rest

/-- Skips blanks and comments. -/
def Cursor.skip (c : Cursor) : Cursor := { c with rest := skipBlanks false c.rest }

/-- Is the code point a letter or a digit of ASCII? -/
def isAlphanumeric (c : Nat) : Bool :=
  (48 ≤ c && c ≤ 57) || (65 ≤ c && c ≤ 90) || (97 ≤ c && c ≤ 122)

/-- Can a name begin with the code point? -/
def beginsName (c : Nat) : Bool := isAlphanumeric c || c == code '_' || c == code '-'

/-- Can a name go on with the code point? -/
def continuesName (c : Nat) : Bool :=
  beginsName c || c == code '.' || c == code '?' || c == code '!'

/-- The name that comes next, and what comes after it. -/
def Cursor.name (c : Cursor) : List Nat × Cursor :=
  match c.rest with
  | [] => ([], c)
  | u :: rest =>
    (u :: rest.takeWhile continuesName, { c with rest := rest.dropWhile continuesName })

/-- The string of code points. -/
def stringOf (cs : List Nat) : String := String.ofList (cs.map Char.ofNat)

/-- The text of code points. -/
def textOf (cs : List Nat) : Text := cs.flatMap Text.ofCodePoint

/-- The code point that an escaped one stands for. -/
def unescape (c : Nat) : Nat :=
  if c = code 'n' then 10 else if c = code 'r' then 13 else if c = code 't' then 9
  else if c = code '0' then 0 else c

/-- The content of a string, and what comes after the closing quote; none if it is not closed in
its line. -/
def stringBody : List Nat → Option (List Nat × List Nat)
  | [] => none
  | c :: rest =>
    if c = code '"' then some ([], rest)
    else if c = code '\n' then none
    else if c = code '\\' then
      match rest with
      | [] => none
      | e :: after => (stringBody after).map fun s => (unescape e :: s.1, s.2)
    else (stringBody rest).map fun s => (c :: s.1, s.2)

/-- The string that comes next. -/
def Cursor.string (c : Cursor) : Read (List Nat × Cursor) :=
  match stringBody (c.rest.drop 1) with
  | some (body, rest) => .ok (body, { c with rest })
  | none => c.stop

/-- The number of bytes of code points. -/
def bytesOf (points : List Nat) : Nat := points.foldr (fun c n => Text.utf8Width c + n) 0

/-- The number of bytes before the rest of a text. -/
def positionOf (total : Nat) (rest : List Nat) : Nat := total - bytesOf rest

end Query

end CallAtlas.Syntax
