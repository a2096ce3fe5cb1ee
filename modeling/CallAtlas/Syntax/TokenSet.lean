import CallAtlas.Syntax.Production

/-!
# Sets of tokens

A set of tokens is a bit set, written as a natural number: the bit of a token is set if the token
is in the set. Unions and intersections are those of the bits.
-/

namespace CallAtlas.Syntax

/-- A set of tokens, as a bit set. -/
abbrev TokenSet := Nat

namespace TokenSet

/-- The set of one token. -/
def single (t : SymbolId) : TokenSet := 1 <<< t

/-- Is a token in the set? -/
def has (s : TokenSet) (t : SymbolId) : Bool := Nat.testBit s t

/-- The set of the tokens of a list. -/
def ofList (ts : List SymbolId) : TokenSet := ts.foldl (fun s t => s ||| single t) 0

/-- The tokens of a set that are not in another one. -/
def without (s other : TokenSet) : TokenSet := s ^^^ (s &&& other)

/-- Puts the tokens of a set before a list, taking the highest one off each time. -/
def membersBefore : (fuel : Nat) → TokenSet → List SymbolId → List SymbolId
  | 0, _, acc => acc
  | fuel + 1, s, acc =>
    if s = 0 then acc
    else membersBefore fuel (s ^^^ single s.log2) (s.log2 :: acc)

/-- The tokens of a set, in ascending order. -/
def members (s : TokenSet) : List SymbolId := membersBefore (s.log2 + 1) s []

end TokenSet

end CallAtlas.Syntax
