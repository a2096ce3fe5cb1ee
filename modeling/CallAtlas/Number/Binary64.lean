/-!
# Numbers and their precision

A number is a rational number with a finite decimal expansion. Numbers that come from outside
are rounded to the nearest value of the 64-bit binary floating point format and then taken to
be the shortest decimal that rounds to that value, so that two numbers are equal exactly when
they print alike.
-/

namespace CallAtlas

/-- A number. -/
abbrev Number := Rat

namespace Number

/-- The number, or a lower bound that it lies below. -/
def atLeast (low n : Number) : Number := if n < low then low else n

/-- The number, or an upper bound that it lies above. -/
def atMost (high n : Number) : Number := if high < n then high else n

/-- The quotient of natural numbers, rounded to the nearest; a tie goes to the even one. -/
def roundDiv (n d : Nat) : Nat :=
  let q := n / d
  let r := n % d
  if 2 * r < d then q
  else if d < 2 * r then q + 1
  else if q % 2 == 0 then q else q + 1

/-- A power of two as a fraction: numerator and denominator. -/
def twoPow (e : Int) : Nat × Nat :=
  match e with
  | .ofNat n => (Nat.pow 2 n, 1)
  | .negSucc n => (1, Nat.pow 2 (n + 1))

/-- A power of ten as a fraction: numerator and denominator. -/
def tenPow (e : Int) : Nat × Nat :=
  match e with
  | .ofNat n => (Nat.pow 10 n, 1)
  | .negSucc n => (1, Nat.pow 10 (n + 1))

/-- A binary value `significand · 2 ^ exponent`. -/
structure Binary where
  significand : Nat
  exponent : Int
deriving DecidableEq, Repr

/-- The number of binary digits of a significand. -/
def precision : Nat := 53

/-- The least exponent of a binary value. -/
def minExponent : Int := -1074

/-- The exponent from which on a value is too large. -/
def maxExponent : Int := 971

/-- The binary value nearest to a positive fraction; none if it is too large. -/
def nearest (n d : Nat) : Option Binary :=
  let guess : Int := (n.log2 : Int) - (d.log2 : Int) - (precision : Int)
  -- the guess makes the significand one digit too long or just right
  let scaled (e : Int) : Nat :=
    let (p, q) := twoPow e
    roundDiv (n * q) (d * p)
  let e := if n * (twoPow (guess + precision)).2 < d * (twoPow (guess + precision)).1
    then guess else guess + 1
  let e := max e minExponent
  let m := scaled e
  let (m, e) := if m == Nat.pow 2 precision then (Nat.pow 2 (precision - 1), e + 1) else (m, e)
  if maxExponent < e then none else some ⟨m, e⟩

/-- Does a decimal `digits · 10 ^ exponent` round to a binary value? -/
def roundsTo (b : Binary) (digits : Nat) (exponent : Int) : Bool :=
  let (p, q) := tenPow exponent
  nearest (digits * p) q == some b

/-- The distance of a decimal from a binary value, as a fraction over the returned denominator
that depends only on the two exponents. -/
def distance (b : Binary) (digits : Nat) (exponent : Int) : Nat :=
  let (p, q) := tenPow exponent
  let (s, t) := twoPow b.exponent
  ((digits * p * t : Int) - (b.significand * s * q : Int)).natAbs

/-- The shortest decimal with the given number of digits at most that rounds to a positive
binary value, the nearest one if there are two. -/
def shortestWith (b : Binary) (exponent : Int) : Option Nat :=
  let (p, q) := tenPow exponent
  let (s, t) := twoPow b.exponent
  let low := (b.significand * s * q) / (t * p)
  let candidates := [low, low + 1].filter fun m => 0 < m && roundsTo b m exponent
  match candidates with
  | [m] => some m
  | [m, k] => some (if distance b k exponent < distance b m exponent then k else m)
  | _ => none

/-- Looks for the shortest decimal, taking one more digit each time. -/
def shortestFrom (b : Binary) : (fuel : Nat) → (exponent : Int) → Nat × Int
  | 0, exponent => (b.significand, exponent)
  | fuel + 1, exponent =>
    match shortestWith b exponent with
    | some m => (m, exponent)
    | none => shortestFrom b fuel (exponent - 1)

/-- The number of decimal digits of a natural number. -/
def digitCount (n : Nat) : Nat := (Nat.repr n).length

/-- The shortest decimal `digits · 10 ^ exponent` that rounds to a positive binary value. -/
def shortest (b : Binary) : Nat × Int :=
  let (s, t) := twoPow b.exponent
  let whole := b.significand * s / t
  let top : Int :=
    if 0 < whole then digitCount whole
    else 2 - (digitCount (t / (b.significand * s)) : Int)
  shortestFrom b 25 top

/-- The fraction `digits · 10 ^ exponent` as a number. -/
def ofDecimal (negative : Bool) (digits : Nat) (exponent : Int) : Number :=
  let (p, q) := tenPow exponent
  let n : Int := digits * p
  mkRat (if negative then -n else n) q

/-- The number that a decimal literal stands for; none if it is too large. Literals of at most
15 digits and moderate size already are the shortest of their kind. -/
def ofLiteral (negative : Bool) (digits : Nat) (exponent : Int) : Option Number :=
  if digits == 0 then some 0
  else
    let size := (digitCount digits : Int)
    if size ≤ 15 && -280 ≤ exponent && exponent ≤ 280 then some (ofDecimal negative digits exponent)
    else if exponent + size < -340 then some 0
    else if 320 < exponent + size then none
    else
      let (p, q) := tenPow exponent
      match nearest (digits * p) q with
      | none => none
      | some b =>
        if b.significand == 0 then some 0
        else
          let (m, e) := shortest b
          some (ofDecimal negative m e)

/-! ## Differences -/

/-- The value of a binary value. -/
def Binary.value (b : Binary) : Rat :=
  let (s, t) := twoPow b.exponent
  mkRat (b.significand * s : Nat) t

/-- What stands for values that are too large for the format. -/
def beyond : Number := (Nat.pow 2 1024 : Nat)

/-- The binary value that a number is the shortest decimal of. -/
def binaryValue (n : Number) : Rat :=
  if n.num == 0 then 0
  else
    let size :=
      match nearest n.num.natAbs n.den with
      | some b => b.value
      | none => beyond
    if n < 0 then -size else size

/-- The shortest decimal of the binary value nearest to a rational number. -/
def ofRational (r : Rat) : Number :=
  if r.num == 0 then 0
  else
    let size :=
      match nearest r.num.natAbs r.den with
      | none => beyond
      | some b =>
        if b.significand == 0 then 0
        else
          let (m, e) := shortest b
          ofDecimal false m e
    if r < 0 then -size else size

/-- Is a number an integer whose neighbours are represented exactly? -/
def isSmallInteger (n : Number) : Bool := n.den == 1 && n.num.natAbs < Nat.pow 2 52

/-- The difference of two numbers, rounded like any number. Between small integers nothing is
rounded. -/
def minus (a b : Number) : Number :=
  if isSmallInteger a && isSmallInteger b then a - b
  else ofRational (binaryValue a - binaryValue b)

end Number

end CallAtlas
