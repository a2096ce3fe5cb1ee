import CallAtlas.Syntax.Tables

/-!
# Verdicts on conflicts

Where a token could both be consumed and finish productions, precedence and associativity choose
between the two as far as they can. What is left is the verdict on the token: the productions that
are finished before it, and whether it is consumed. All of it is followed.
-/

namespace CallAtlas.Syntax

/-- What may be done at a token. -/
inductive Verdict where
  /-- The text is complete. -/
  | accept
  /-- Some productions are finished, or the token is consumed, or both. A repeating token only serves
  the ambiguity of a repetition. -/
  | follow (reduces : List Shape) (shift : Option Bool)
deriving DecidableEq, Hashable, Inhabited

namespace Verdict

/-- Is the token consumed? -/
def shifts : Verdict → Bool
  | .accept => false
  | .follow _ shift => shift.isSome

/-- What is known of the reductions that stay possible at a token. -/
structure Reductions where
  shapes : List Shape := []
  precedence : Precedence := .default
  owners : List SymbolId := []
  anyLeft : Bool := false
  anyRight : Bool := false
  anyNone : Bool := false

/-- Takes one more finished production into account: a higher precedence replaces what was
there, a lower one is dropped. -/
def Reductions.add (t : Tables) (r : Reductions) (i : Item) : Reductions :=
  let noted (r : Reductions) : Reductions :=
    { r with
      shapes := if r.shapes.contains i.shape then r.shapes else r.shapes ++ [i.shape]
      precedence := i.precedence
      owners := if r.owners.contains i.owner then r.owners else r.owners ++ [i.owner]
      anyLeft := r.anyLeft || i.assoc == some .left
      anyRight := r.anyRight || i.assoc == some .right
      anyNone := r.anyNone || i.assoc == none }
  if r.shapes.isEmpty then noted r
  else
    match t.comparePrecedence i.precedence [i.owner] r.precedence r.owners with
    | .gt => noted {}
    | .eq => noted r
    | .lt => r

/-- The verdict on a token. `finished` are the items whose productions it finishes, in order, and
`shifting` the items inside productions that may go on with it. -/
def ofItems (t : Tables) (finished shifting : List Item) (canShift : Bool) : Verdict :=
  if finished.any fun i => i.owner == t.accepting then .accept
  else
    let reductions := finished.foldl (Reductions.add t) {}
    let reduces := reductions.shapes
    if !canShift then .follow reduces none
    else if reduces.isEmpty then .follow [] (some false)
    else
      let owners := (shifting ++ finished).map Item.owner
      -- Only the parts of one repetition compete here, which is no real ambiguity.
      let repetition :=
        match owners with
        | [] => false
        | o :: rest => t.productions.isAuxiliary o && rest.all (· == o)
      if repetition then .follow reduces (some true)
      else
        let orders := shifting.map fun i =>
          t.comparePrecedence i.precedence [i.owner] reductions.precedence reductions.owners
        let more := orders.contains .gt
        let less := orders.contains .lt
        if more && !less then .follow [] (some false)
        else if less && !more then .follow reduces none
        else if less && more then .follow reduces (some false)
        else if reductions.anyLeft && !reductions.anyNone && !reductions.anyRight then
          .follow reduces none
        else if reductions.anyRight && !reductions.anyNone && !reductions.anyLeft then
          .follow [] (some false)
        else .follow reduces (some false)

end Verdict

end CallAtlas.Syntax
