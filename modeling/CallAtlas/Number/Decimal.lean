import CallAtlas.Number.Binary64
import CallAtlas.Text.Basic

/-!
# The decimal text of numbers

A number is written with its digits and no others. Up to 21 digits before the point are written
in full, and so are numbers from a millionth on; all others are written with an exponent.
-/

namespace CallAtlas.Number

/-- Removes the zeros at the end of a positive number; the exponent counts them. -/
def dropZeros : (fuel : Nat) → (digits : Nat) → (exponent : Int) → Nat × Int
  | 0, digits, exponent => (digits, exponent)
  | fuel + 1, digits, exponent =>
    if digits % 10 == 0 && digits != 0 then dropZeros fuel (digits / 10) (exponent + 1)
    else (digits, exponent)

/-- The least power of ten, by exponent, that a denominator divides. -/
def scaleOf (d : Nat) : (fuel : Nat) → (k : Nat) → Nat
  | 0, k => k
  | fuel + 1, k => if Nat.pow 10 k % d == 0 then k else scaleOf d fuel (k + 1)

/-- The digits of a positive number and the power of ten that they are multiplied by. -/
def digitsOf (r : Number) : Nat × Int :=
  let k := scaleOf r.den 1100 0
  let m := r.num.natAbs * Nat.pow 10 k / r.den
  dropZeros (digitCount m) m (-(k : Int))

/-- Where the two ways of writing a number meet. -/
structure DecimalFormat where
  /-- The largest number of digits before the point without an exponent. -/
  maxWhole : Int
  /-- The largest number of zeros after the point without an exponent. -/
  maxZeros : Int

/-- The format of numbers in texts and documents. -/
def format : DecimalFormat := ⟨21, 5⟩

/-- A number of zeros. -/
def zeros (n : Nat) : String := String.ofList (List.replicate n '0')

/-- A positive number with the given digits, as a string. -/
def renderDigits (digits : Nat) (exponent : Int) : String :=
  let s := Nat.repr digits
  let k : Int := s.length
  -- the place of the point, counted from the first digit
  let n := k + exponent
  if k ≤ n && n ≤ format.maxWhole then s ++ zeros (n - k).toNat
  else if 0 < n && n ≤ format.maxWhole then
    String.ofList (s.toList.take n.toNat) ++ "." ++ String.ofList (s.toList.drop n.toNat)
  else if -format.maxZeros ≤ n && n ≤ 0 then "0." ++ zeros (-n).toNat ++ s
  else
    let e := n - 1
    let sign := if e < 0 then "-" else "+"
    let mantissa :=
      if k == 1 then s
      else String.ofList (s.toList.take 1) ++ "." ++ String.ofList (s.toList.drop 1)
    mantissa ++ "e" ++ sign ++ Nat.repr e.natAbs

/-- The text of a number. -/
def toText (r : Number) : Text :=
  Text.ofString <|
    if r.den == 1 && r.num.natAbs < Nat.pow 10 21 then
      if r.num < 0 then "-" ++ Nat.repr r.num.natAbs else Nat.repr r.num.natAbs
    else
      let (digits, exponent) := digitsOf r
      (if r.num < 0 then "-" else "") ++ renderDigits digits exponent

/-- Is the number an integer? -/
def isInteger (r : Number) : Bool := r.den == 1

/-- The natural number closest below a number; 0 for negative ones. -/
def toNat (r : Number) : Nat := r.floor.toNat

end CallAtlas.Number
