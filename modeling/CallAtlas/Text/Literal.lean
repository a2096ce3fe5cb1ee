import CallAtlas.Text.Basic

/-!
# Texts in quotes

A text is quoted by double quotes, single quotes, backquotes or angle brackets around it.

As a literal a text is shown between quotes that do not occur in it where possible: single quotes,
else double quotes, else backquotes. Control units, backslashes, the quote itself and surrogates
that stand alone are escaped.
-/

namespace CallAtlas.Text

/-- The quote that closes what another one opens. -/
def closingQuote (u : CodeUnit) : Option CodeUnit :=
  if u = unit '"' ∨ u = unit '\'' ∨ u = 0x60 then some u
  else if u = unit '<' then some (unit '>')
  else none

/-- The text without the quotes around it; other texts stay as they are. -/
def unquote : Text → Text
  | [] => []
  | [u] => [u]
  | u :: rest =>
    if closingQuote u = rest.getLast? then rest.dropLast else u :: rest

/-- The hexadecimal digits of a number in capitals, with zeros before them up to a width. -/
def capitalHex (width n : Nat) : Text :=
  let digits := (Nat.toDigits 16 n).map Char.toUpper
  ofString (String.ofList (List.replicate (width - digits.length) '0' ++ digits))

/-- The quote for a text. -/
def quoteFor (t : Text) : CodeUnit :=
  if !t.any (· == unit '\'') then unit '\''
  else if !t.any (· == unit '"') then unit '"'
  else if !t.any (· == 0x60) && !contains (ofString "$\x7b") t then 0x60
  else unit '\''

/-- One code point of a literal. -/
def literalPoint (quote : CodeUnit) (c : Nat) : Text :=
  let escape (name : Char) : Text := [backslash, unit name]
  if c == 8 then escape 'b'
  else if c == 9 then escape 't'
  else if c == 10 then escape 'n'
  else if c == 12 then escape 'f'
  else if c == 13 then escape 'r'
  else if c < 32 || (127 ≤ c && c < 160) then escape 'x' ++ capitalHex 2 c
  else if 0xD800 ≤ c && c ≤ 0xDFFF then escape 'u' ++ capitalHex 4 c
  else if c == quote.toNat || c == backslash.toNat then backslash :: ofCodePoint c
  else ofCodePoint c

/-- A text as a literal. -/
def literal (t : Text) : Text :=
  let quote := quoteFor t
  quote :: t.codePoints.flatMap (literalPoint quote) ++ [quote]

end CallAtlas.Text
