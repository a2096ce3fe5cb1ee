/-!
# Sets of code points given by runs

A large set of code points is written as the lengths of its runs: first how many code points
from 0 on lie outside, then how many lie inside, and so on in turn. A code point is in the
set when an odd number of runs ends at or before it.
-/

namespace CallAtlas.Text

/-- A set of code points as the ascending offsets at which membership changes. -/
structure RunSet where
  boundaries : Array Nat

namespace RunSet

/-- Builds the set from the lengths of its runs, the first of them outside. -/
def ofLengths (lengths : Array Nat) : RunSet :=
  ⟨(lengths.foldl (fun (acc : Array Nat × Nat) n => (acc.1.push (acc.2 + n), acc.2 + n))
    (#[], 0)).1⟩

/-- The number of boundaries at or below a code point, by bisection between two indices. -/
def countUpTo (s : RunSet) (c : Nat) (low high : Nat) : (fuel : Nat) → Nat
  | 0 => low
  | fuel + 1 =>
    if low < high then
      let middle := (low + high) / 2
      match s.boundaries[middle]? with
      | some b => if b ≤ c then s.countUpTo c (middle + 1) high fuel else s.countUpTo c low middle fuel
      | none => low
    else low

/-- Is the code point in the set? -/
def contains (s : RunSet) (c : Nat) : Bool :=
  s.countUpTo c 0 s.boundaries.size 24 % 2 = 1

end RunSet

end CallAtlas.Text
