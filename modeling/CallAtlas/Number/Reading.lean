import CallAtlas.Json.Reader
import CallAtlas.Text.Basic

/-!
# Numbers from text

A number is written in decimal, with a sign, a point and an exponent if need be, or without a sign
in hexadecimal, octal or binary digits. Blanks around it do not count, and no text at all is zero.
-/

namespace CallAtlas.Number

/-- The value of a digit. -/
def digitOf? (u : CodeUnit) : Option Nat :=
  let n := u.toNat
  if 48 ≤ n && n ≤ 57 then some (n - 48)
  else if 97 ≤ n && n ≤ 122 then some (n - 87)
  else if 65 ≤ n && n ≤ 90 then some (n - 55)
  else none

/-- The value of digits of some base. -/
def ofDigits? (base : Nat) (t : Text) : Option Nat :=
  if t.isEmpty then none
  else
    t.foldl (fun (acc : Option Nat) u =>
      match acc, (digitOf? u).filter fun d => d < base with
      | some n, some d => some (n * base + d)
      | _, _ => none) (some 0)

/-- The base that a letter stands for, after a zero. -/
def baseOf? (u : CodeUnit) : Option Nat :=
  if u = Text.unit 'x' || u = Text.unit 'X' then some 16
  else if u = Text.unit 'o' || u = Text.unit 'O' then some 8
  else if u = Text.unit 'b' || u = Text.unit 'B' then some 2
  else none

/-- The exponent that ends a decimal number. -/
def exponent? : Text → Option Int
  | [] => some 0
  | u :: rest =>
    if u = Text.unit 'e' || u = Text.unit 'E' then
      let (negative, rest) := Json.readSign rest
      (ofDigits? 10 rest).map fun n => if negative then -(n : Int) else (n : Int)
    else none

/-- A decimal number; none if it is too large. -/
def decimal? (t : Text) : Option Number :=
  let (negative, t) := Json.readSign t
  let (whole, wholeCount, rest) := Json.readDigits t
  let (fraction, fractionCount, rest) :=
    match rest with
    | u :: after => if u = Text.dot then Json.readDigits after else (0, 0, rest)
    | [] => (0, 0, rest)
  if wholeCount + fractionCount = 0 then none
  else
    (exponent? rest).bind fun e =>
      ofLiteral negative (whole * Nat.pow 10 fractionCount + fraction) (e - fractionCount)

/-- The number that a text stands for. -/
def ofText? (t : Text) : Option Number :=
  match Text.trim t with
  | [] => some 0
  | [u] => decimal? [u]
  | z :: b :: rest =>
    match if z = Text.unit '0' then baseOf? b else none with
    | some base => (ofDigits? base rest).bind fun n => ofLiteral false n 0
    | none => decimal? (z :: b :: rest)

end CallAtlas.Number
