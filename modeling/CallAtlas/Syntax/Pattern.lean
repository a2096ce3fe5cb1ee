import CallAtlas.Syntax.Source
import CallAtlas.Text.Identifier

/-!
# Character sets and regular patterns

The tokens of a language are given by regular patterns over sets of code points. A pattern
is matched by derivatives: after each code point the rest of the pattern is computed, and
the longest prefix that the pattern accepts is remembered.

The code point 0 marks the end of a source, so no complement contains it.
-/

namespace CallAtlas.Syntax

/-- A set of code points. -/
inductive CharSet where
  /-- The code points from the first to the last one. -/
  | range (first last : Nat)
  /-- The code points of either set. -/
  | union (a b : CharSet)
  /-- The code points outside the set, other than 0. -/
  | complement (a : CharSet)
  /-- The code points that may open an identifier. -/
  | identifierStart
  /-- The code points that may continue an identifier. -/
  | identifierContinue
  /-- The space separators. -/
  | spaceSeparator
deriving DecidableEq, Repr, Inhabited

namespace CharSet

/-- Is the code point in the set? -/
def contains : CharSet → Nat → Bool
  | range first last, c => first ≤ c && c ≤ last
  | union a b, c => a.contains c || b.contains c
  | complement a, c => c != 0 && !a.contains c
  | identifierStart, c => Text.isIdentifierStart c
  | identifierContinue, c => Text.isIdentifierContinue c
  | spaceSeparator, c => Text.isSpaceSeparator c

/-- The set with no code point. -/
def none : CharSet := range 1 0

/-- The set of one character. -/
def char (c : Char) : CharSet := range c.toNat c.toNat

/-- The characters of a string. -/
def ofString (s : String) : CharSet :=
  s.toList.foldr (fun c acc => union (char c) acc) none

/-- The characters from one to another. -/
def span (first last : Char) : CharSet := range first.toNat last.toNat

/-- The union of several sets. -/
def any (sets : List CharSet) : CharSet := sets.foldr union none

/-- The ASCII decimal digits. -/
def digit : CharSet := span '0' '9'

/-- The ASCII hexadecimal digits. -/
def hexDigit : CharSet := any [span '0' '9', span 'a' 'f', span 'A' 'F']

/-- The octal digits. -/
def octalDigit : CharSet := span '0' '7'

/-- The ASCII blanks: the space, and the characters from the tab to the carriage return. -/
def blank : CharSet := union (char ' ') (range 9 13)

/-- All code points but those of a string. -/
def noneOf (s : String) : CharSet := complement (ofString s)

/-- All code points but the line feed. -/
def notNewline : CharSet := complement (char '\n')

end CharSet

/-- A regular pattern over code points. -/
inductive Pattern where
  /-- Matches nothing. -/
  | never
  /-- Matches the empty text. -/
  | empty
  /-- Matches one code point of the set. -/
  | set (s : CharSet)
  /-- Matches the first, then the second pattern. -/
  | andThen (a b : Pattern)
  /-- Matches either pattern. -/
  | either (a b : Pattern)
  /-- Matches the pattern any number of times. -/
  | star (a : Pattern)
deriving DecidableEq, Repr, Inhabited

namespace Pattern

/-- Sequence, with the trivial cases simplified. -/
def mkThen : Pattern → Pattern → Pattern
  | never, _ => never
  | empty, b => b
  | andThen a₁ a₂, b => andThen a₁ (andThen a₂ b)
  | a, b => if b = never then never else if b = empty then a else andThen a b

/-- Is the pattern among the alternatives? -/
def isAlternative (a : Pattern) : Pattern → Bool
  | either b c => a == b || isAlternative a c
  | b => a == b

/-- Choice, with the trivial cases and repetitions simplified. -/
def mkEither : Pattern → Pattern → Pattern
  | never, b => b
  | either a₁ a₂, b =>
    let rest := mkEither a₂ b
    if isAlternative a₁ rest then rest else either a₁ rest
  | a, b => if b = never then a else if isAlternative a b then b else either a b

/-- Does the pattern match the empty text? -/
def nullable : Pattern → Bool
  | never => false
  | empty => true
  | set _ => false
  | andThen a b => a.nullable && b.nullable
  | either a b => a.nullable || b.nullable
  | star _ => true

/-- What is left of the pattern after one code point. -/
def derivative (c : Nat) : Pattern → Pattern
  | never => never
  | empty => never
  | set s => if s.contains c then empty else never
  | andThen a b =>
    let first := mkThen (a.derivative c) b
    if a.nullable then mkEither first (b.derivative c) else first
  | either a b => mkEither (a.derivative c) (b.derivative c)
  | star a => mkThen (a.derivative c) (star a)

/-- Can the pattern match a text that begins with the code point? -/
def opensWith (c : Nat) : Pattern → Bool
  | never => false
  | empty => false
  | set s => s.contains c
  | andThen a b => a.opensWith c || (a.nullable && b.opensWith c)
  | either a b => a.opensWith c || b.opensWith c
  | star a => a.opensWith c

/-- The end of the longest match from an offset on, given the longest one so far. -/
def longestFrom (source : Source) (p : Pattern) (offset : Nat) (best : Option Nat) :
    (fuel : Nat) → Option Nat
  | 0 => if p.nullable then some offset else best
  | fuel + 1 =>
    let best := if p.nullable then some offset else best
    if source.atEnd offset then best
    else
      let p' := p.derivative (source.codePoint offset)
      if p' = never then best
      else longestFrom source p' (source.next offset) best fuel

/-- The end of the longest match at an offset. -/
def longest (p : Pattern) (source : Source) (offset : Nat) : Option Nat :=
  longestFrom source p offset none (source.size - offset + 1)

/-! ## Derived patterns -/

/-- The patterns one after the other. -/
def seq (ps : List Pattern) : Pattern := ps.foldr mkThen empty

/-- One of the patterns. -/
def choice (ps : List Pattern) : Pattern := ps.foldr mkEither never

/-- The pattern or nothing. -/
def opt (p : Pattern) : Pattern := mkEither p empty

/-- The pattern any number of times. -/
def many (p : Pattern) : Pattern := star p

/-- The pattern at least once. -/
def many1 (p : Pattern) : Pattern := mkThen p (star p)

/-- The pattern a given number of times. -/
def times (p : Pattern) : Nat → Pattern
  | 0 => empty
  | n + 1 => mkThen p (times p n)

/-- The pattern at most a given number of times. -/
def upTo (p : Pattern) : Nat → Pattern
  | 0 => empty
  | n + 1 => opt (mkThen p (upTo p n))

/-- The text itself. -/
def text (s : String) : Pattern := seq (s.toList.map fun c => set (CharSet.char c))

/-- One of the characters of a string. -/
def oneOf (s : String) : Pattern := set (CharSet.ofString s)

/-- A code point that is not among the characters of a string. -/
def noneOf (s : String) : Pattern := set (CharSet.noneOf s)

/-- One or more groups of digits with single separators `_` between them. -/
def separated (digit : CharSet) : Pattern :=
  seq [many1 (set digit), many (seq [oneOf "_", many1 (set digit)])]

end Pattern

end CallAtlas.Syntax
