import CallAtlas.Syntax.Query.Basic

/-!
# Steps

To find out whether a pattern can match, it is laid out as a row of steps. A step asks for one node;
its depth says how far it stands below the root. Where a pattern branches, a step names an
alternative: another step from which the pattern may be read instead. A *dead end* joins a branch to
the end of its alternatives, and a *passage* lies behind a repeated pattern; both ask for nothing. A
closing step ends each pattern of a query.
-/

namespace CallAtlas.Syntax

/-- A step of a pattern. -/
structure QueryStep where
  /-- How far the node stands below the root; none for a closing step. -/
  depth : Option Nat
  demand : Demand := .anything
  /-- The hidden rule that the node has to be one of. -/
  supertype : Option String := none
  /-- The field that the node has to stand in. -/
  field : Option String := none
  /-- The step from which the pattern may be read instead. -/
  alternative : Option Nat := none
  isPassage : Bool := false
  isDeadEnd : Bool := false
deriving Inhabited

/-- The steps of a query. -/
structure QuerySteps where
  steps : Array QueryStep := #[]
  /-- Steps at which a part of a pattern begins, and the position at which it is written. -/
  positions : List (Nat × Nat) := []

namespace QuerySteps

/-- The number of steps. -/
def size (q : QuerySteps) : Nat := q.steps.size

/-- A step by number. -/
def step (q : QuerySteps) (i : Nat) : QueryStep := q.steps[i]?.getD { depth := none }

/-- Adds a step. -/
def push (q : QuerySteps) (s : QueryStep) : QuerySteps := { q with steps := q.steps.push s }

/-- Changes a step. -/
def modify (q : QuerySteps) (i : Nat) (f : QueryStep → QueryStep) : QuerySteps :=
  { q with steps := q.steps.modify i f }

/-- Notes that a part begins at the next step. Of parts that begin at the same step the outermost
one counts. -/
def mark (q : QuerySteps) (position : Nat) : QuerySteps :=
  if q.positions.head?.map Prod.fst == some q.size then q
  else { q with positions := (q.size, position) :: q.positions }

/-- The last step of the chain of alternatives from a step, as far as it stays below a bound. -/
def lastAlternative (q : QuerySteps) (bound : Nat) : (fuel : Nat) → Nat → Nat
  | 0, i => i
  | fuel + 1, i =>
    match (q.step i).alternative with
    | some a => if a < bound then lastAlternative q bound fuel a else i
    | none => i

/-- Lets the pattern that begins at a step be left out. -/
def letSkip (q : QuerySteps) (start bound : Nat) : QuerySteps :=
  q.modify (q.lastAlternative bound q.size start) fun s => { s with alternative := some q.size }

/-- Lets the pattern that begins at a step be repeated. -/
def letRepeat (q : QuerySteps) (depth start : Nat) : QuerySteps :=
  q.push { depth := some depth, alternative := some start, isPassage := true }

/-- Gives a field to a step and to the alternatives that follow from it. -/
def setField (q : QuerySteps) (field : String) : (fuel : Nat) → Nat → QuerySteps
  | 0, _ => q
  | fuel + 1, i =>
    let q := q.modify i fun s => { s with field := some field }
    match (q.step i).alternative with
    | some a => if i < a && a < q.size then setField q field fuel a else q
    | none => q

/-- Joins branches that begin at some steps: each has the next one as its alternative, and the dead
end behind it leads to the end of all. -/
def join (q : QuerySteps) : List Nat → QuerySteps
  | a :: b :: rest =>
    let q := q.modify a fun s => { s with alternative := some b }
    let q := q.modify (b - 1) fun s => { s with alternative := some q.size, isDeadEnd := true }
    join q (b :: rest)
  | _ => q

mutual

/-- Lays out a pattern at a depth. -/
def addTerm (depth : Nat) : QueryTerm → QuerySteps → QuerySteps
  | .node position demand supertype children, q =>
    let q := (q.mark position).push { depth := some depth, demand, supertype }
    addTerms (depth + 1) children q
  | .group position ts, q => addTerms depth ts (q.mark position)
  | .alternatives position ts, q =>
    let (q, starts) := addBranches depth ts (q.mark position)
    -- no dead end stands behind the last branch
    join { q with steps := q.steps.pop } starts
  | .labelled position field t, q =>
    let start := q.size
    let q := addTerm depth t (q.mark position)
    q.setField field q.size start
  | .optional t, q =>
    let start := q.size
    let q := addTerm depth t q
    q.letSkip start q.size
  | .repeated t, q => (addTerm depth t q).letRepeat depth q.size
  | .many t, q =>
    let start := q.size
    let q := (addTerm depth t q).letRepeat depth start
    q.letSkip start (q.size - 1)
  | .condition position, q => q.mark position

/-- Lays out patterns one after the other. -/
def addTerms (depth : Nat) : List QueryTerm → QuerySteps → QuerySteps
  | [], q => q
  | t :: ts, q => addTerms depth ts (addTerm depth t q)

/-- Lays out branches with a dead end behind each, and tells where they begin. -/
def addBranches (depth : Nat) : List QueryTerm → QuerySteps → QuerySteps × List Nat
  | [], q => (q, [])
  | t :: ts, q =>
    let (after, starts) := addBranches depth ts ((addTerm depth t q).push { depth := some depth })
    (after, q.size :: starts)

end

/-- The steps of the patterns of a query. -/
def ofTerms (ts : List QueryTerm) : QuerySteps :=
  ts.foldl (fun q t => (addTerm 0 t q).push { depth := none }) {}

/-- The position of the part that begins at a step, or of the first one behind it. -/
def positionOf (q : QuerySteps) (i : Nat) : Nat :=
  match (q.positions.takeWhile fun p => i ≤ p.1).getLast? with
  | some p => p.2
  | none => (q.positions.head?.map Prod.snd).getD 0

end QuerySteps

end CallAtlas.Syntax
