import CallAtlas.Json.Basic

/-!
# Writing JSON

A value is written on one line without blanks, or with every member and element on a line of its
own. Characters are written as they are but for quotes, backslashes, control characters and
surrogates that stand alone; a style may ask for every character outside ASCII to be escaped.
-/

namespace CallAtlas.Json

/-- How a value is laid out. -/
structure Style where
  /-- The blanks per level, for one member or element a line; none for a single line. -/
  indent : Option Nat := none
  /-- Are characters outside ASCII escaped? -/
  asciiOnly : Bool := false

/-- A hexadecimal digit. -/
def hexDigit (n : Nat) : CodeUnit :=
  if n < 10 then (n + 48).toUInt16 else (n + 87).toUInt16

/-- The escape of a unit by its number. -/
def hexEscape (u : CodeUnit) : Text :=
  let n := u.toNat
  [Text.backslash, Text.unit 'u', hexDigit (n / 4096 % 16), hexDigit (n / 256 % 16),
    hexDigit (n / 16 % 16), hexDigit (n % 16)]

/-- The letter of a short escape. -/
def shortEscape? (u : CodeUnit) : Option Char :=
  if u == 0x22 then some '"'
  else if u == 0x5C then some '\\'
  else if u == 0x08 then some 'b'
  else if u == 0x09 then some 't'
  else if u == 0x0A then some 'n'
  else if u == 0x0C then some 'f'
  else if u == 0x0D then some 'r'
  else none

/-- A unit inside quotes. -/
def escapeUnit (asciiOnly : Bool) (u : CodeUnit) : Text :=
  match shortEscape? u with
  | some c => [Text.backslash, Text.unit c]
  | none => if u < 0x20 || (asciiOnly && 0x7E < u) then hexEscape u else [u]

/-- A text inside quotes. Surrogates are written as they are only in pairs. -/
def escape (asciiOnly : Bool) : Text → Text
  | [] => []
  | [u] =>
    if Text.isHighSurrogate u || Text.isLowSurrogate u then hexEscape u
    else escapeUnit asciiOnly u
  | u :: v :: rest =>
    if Text.isHighSurrogate u && Text.isLowSurrogate v then
      (if asciiOnly then hexEscape u ++ hexEscape v else [u, v]) ++ escape asciiOnly rest
    else if Text.isHighSurrogate u || Text.isLowSurrogate u then
      hexEscape u ++ escape asciiOnly (v :: rest)
    else escapeUnit asciiOnly u ++ escape asciiOnly (v :: rest)

/-- A text in quotes. -/
def quote (asciiOnly : Bool) (t : Text) : Text := 0x22 :: (escape asciiOnly t ++ [0x22])

/-- The line break before an element at a level, if each has a line of its own. -/
def lineBreak (style : Style) (level : Nat) : Text :=
  match style.indent with
  | none => []
  | some n => Text.newline :: List.replicate (n * level) 0x20

mutual

/-- A value at a level, with the text that comes after it. -/
def render (style : Style) (level : Nat) : Json → Text → Text
  | .null, after => Text.ofString "null" ++ after
  | .bool b, after => Text.ofString (if b then "true" else "false") ++ after
  | .num n, after => n.toText ++ after
  | .infinite _, after => Text.ofString "null" ++ after
  | .str s, after => quote style.asciiOnly s ++ after
  | .arr [], after => Text.ofString "[]" ++ after
  | .arr (e :: es), after =>
    Text.unit '[' :: (lineBreak style (level + 1) ++ render style (level + 1) e
      (renderElements style (level + 1) es
        (lineBreak style level ++ Text.unit ']' :: after)))
  | .obj [], after => Text.ofString "\x7b\x7d" ++ after
  | .obj (m :: ms), after =>
    Text.unit '\x7b' :: (renderMembers style (level + 1) true (m :: ms)
      (lineBreak style level ++ Text.unit '\x7d' :: after))

/-- The elements after the first one. -/
def renderElements (style : Style) (level : Nat) : List Json → Text → Text
  | [], after => after
  | e :: es, after =>
    Text.unit ',' :: (lineBreak style level ++ render style level e
      (renderElements style level es after))

/-- The members of an object. -/
def renderMembers (style : Style) (level : Nat) (first : Bool) :
    List (Text × Json) → Text → Text
  | [], after => after
  | (name, value) :: ms, after =>
    (if first then [] else [Text.unit ',']) ++ lineBreak style level
      ++ quote style.asciiOnly name ++ Text.unit ':'
      :: ((if style.indent.isSome then [0x20] else [])
        ++ render style level value (renderMembers style level false ms after))

end

/-- A value on one line. -/
def compact (j : Json) : Text := render {} 0 j []

/-- A value with two blanks per level. -/
def pretty (j : Json) : Text := render { indent := some 2 } 0 j []

/-- A value on one line, in ASCII. -/
def ascii (j : Json) : Text := render { asciiOnly := true } 0 j []

end CallAtlas.Json
