/-!
# Text

File contents, paths and names are sequences of UTF-16 code units. Lengths, columns and
orders of this library are all stated in code units, and a unit need not be half of a
well-formed pair, so a text is a list of units rather than a list of characters.

This module holds the conversions from and to characters, the order, and the few list
operations (splitting at a unit, joining, replacing) that the other modules share.
-/

namespace CallAtlas

/-- One UTF-16 code unit. -/
abbrev CodeUnit := UInt16

/-- A sequence of UTF-16 code units; surrogates may stand alone. -/
abbrev Text := List CodeUnit

/-- Every test whether a text is in a list rests on this one. -/
instance : LawfulBEq Text := inferInstance

namespace Text

/-! ## Units and code points -/

/-- The units `0xD800` to `0xDBFF` open a surrogate pair. -/
def isHighSurrogate (u : CodeUnit) : Bool := 0xD800 ≤ u && u ≤ 0xDBFF

/-- The units `0xDC00` to `0xDFFF` close a surrogate pair. -/
def isLowSurrogate (u : CodeUnit) : Bool := 0xDC00 ≤ u && u ≤ 0xDFFF

/-- The code point that a surrogate pair stands for. -/
def pairValue (high low : CodeUnit) : Nat :=
  0x10000 + (high.toNat - 0xD800) * 0x400 + (low.toNat - 0xDC00)

/-- The units of one code point: one below `0x10000`, a surrogate pair from there on. -/
def ofCodePoint (c : Nat) : Text :=
  if c < 0x10000 then [c.toUInt16]
  else
    let v := c - 0x10000
    [(0xD800 + v / 0x400).toUInt16, (0xDC00 + v % 0x400).toUInt16]

/-- The text of a string of characters. -/
def ofString (s : String) : Text := s.toList.flatMap fun c => ofCodePoint c.toNat

instance : Coe String Text := ⟨ofString⟩

/-- The code points of a text; a surrogate that stands alone counts as itself. -/
def codePoints : Text → List Nat
  | [] => []
  | [u] => [u.toNat]
  | u :: v :: rest =>
    if isHighSurrogate u && isLowSurrogate v then pairValue u v :: codePoints rest
    else u.toNat :: codePoints (v :: rest)

/-- The characters of a text; a surrogate that stands alone becomes U+FFFD. -/
def toString (t : Text) : String :=
  String.ofList (t.codePoints.map fun c =>
    if 0xD800 ≤ c && c ≤ 0xDFFF then Char.ofNat 0xFFFD else Char.ofNat c)

/-- The number of bytes that UTF-8 gives one code point. -/
def utf8Width (c : Nat) : Nat :=
  if c < 0x80 then 1 else if c < 0x800 then 2 else if c < 0x10000 then 3 else 4

/-- The number of bytes of a text in UTF-8; a surrogate that stands alone takes three. -/
def utf8Length (t : Text) : Nat := t.codePoints.foldr (fun c n => utf8Width c + n) 0

/-- The UTF-8 bytes of one code point; a surrogate is written as U+FFFD. -/
def utf8Bytes (c : Nat) : List UInt8 :=
  if c < 0x80 then [c.toUInt8]
  else if c < 0x800 then [(0xC0 + c / 0x40).toUInt8, (0x80 + c % 0x40).toUInt8]
  else if c < 0x10000 then
    let d := if 0xD800 ≤ c && c ≤ 0xDFFF then 0xFFFD else c
    [(0xE0 + d / 0x1000).toUInt8, (0x80 + d / 0x40 % 0x40).toUInt8, (0x80 + d % 0x40).toUInt8]
  else
    [(0xF0 + c / 0x40000).toUInt8, (0x80 + c / 0x1000 % 0x40).toUInt8,
      (0x80 + c / 0x40 % 0x40).toUInt8, (0x80 + c % 0x40).toUInt8]

/-- A text in UTF-8. -/
def toUtf8 (t : Text) : List UInt8 := t.codePoints.flatMap utf8Bytes

/-! ## Named units -/

/-- The unit of an ASCII character. -/
abbrev unit (c : Char) : CodeUnit := c.val.toUInt16

/-- The unit `/`. -/
abbrev slash : CodeUnit := unit '/'

/-- The unit `\`. -/
abbrev backslash : CodeUnit := unit '\\'

/-- The unit `.`. -/
abbrev dot : CodeUnit := unit '.'

/-- The unit of a line feed. -/
abbrev newline : CodeUnit := unit '\n'

/-! ## Splitting, joining and replacing -/

/-- The pieces between the occurrences of a unit; always at least one piece. -/
def splitAt (u : CodeUnit) : Text → List Text
  | [] => [[]]
  | c :: rest =>
    if c = u then [] :: splitAt u rest
    else
      match splitAt u rest with
      | [] => [[c]]
      | piece :: pieces => (c :: piece) :: pieces

/-- The pieces with a separator between each two. -/
def join (separator : Text) : List Text → Text
  | [] => []
  | [piece] => piece
  | piece :: pieces => piece ++ separator ++ join separator pieces

/-- Strict order by code units, as a test. -/
def before (a b : Text) : Bool := decide (a < b)

/-- Ascending order by code units; equal texts keep their places. -/
def sort (ts : List Text) : List Text := ts.mergeSort fun a b => !(before b a)

/-- Does the text contain the other one as a contiguous part? -/
def contains (needle : Text) : Text → Bool
  | [] => needle.isEmpty
  | c :: rest => needle.isPrefixOf (c :: rest) || contains needle rest

/-- Replaces every occurrence of a non-empty text, from the left and without overlap. -/
def replaceAll (old new : Text) (t : Text) : Text :=
  go t t.length
where
  go (t : Text) : Nat → Text
    | 0 => t
    | fuel + 1 =>
      match t with
      | [] => []
      | c :: rest =>
        if !old.isEmpty && old.isPrefixOf t then new ++ go (t.drop old.length) fuel
        else c :: go rest fuel

/-- The first occurrence of each text, in order. -/
def distinct (ts : List Text) : List Text :=
  (ts.foldl (fun (seen : List Text) t => if seen.contains t then seen else t :: seen) []).reverse

/-- The decimal digits of a natural number. -/
def ofNat (n : Nat) : Text := ofString (Nat.repr n)

/-! ## Blanks

The units that count as blanks: ASCII white space, the no-break space, the space separators, the
line and paragraph separators and the byte order mark. -/

/-- Is the unit a blank? -/
def isBlank (u : CodeUnit) : Bool :=
  let n := u.toNat
  (9 ≤ n && n ≤ 13) || n == 0x20 || n == 0xA0 || n == 0x1680 || (0x2000 ≤ n && n ≤ 0x200A)
    || n == 0x2028 || n == 0x2029 || n == 0x202F || n == 0x205F || n == 0x3000 || n == 0xFEFF

/-- The text without the blanks around it. -/
def trim (t : Text) : Text := ((t.dropWhile isBlank).reverse.dropWhile isBlank).reverse

/-- The text without its blanks. -/
def compact (t : Text) : Text := t.filter fun u => !isBlank u

end Text

end CallAtlas
