import CallAtlas.Syntax.Network
import CallAtlas.Syntax.Query.Reading
import CallAtlas.Syntax.Query.Step
import Std.Data.TreeSet.Basic

/-!
# Can a pattern match?

A node can have the children that a pattern asks for if some way through the stations of the network
meets them in their order. A *walk* is a stack of rules that have been entered and are not finished:
the node's own rule at the bottom and hidden rules above it, whose children count as children of the
node. With each child the walk passes, it may also match a step of the pattern.

Walks that have come less far move first, and the others wait. Hidden rules can contain themselves,
so walks are followed by rounds: a walk in which more rules stand inside themselves than the round
allows waits for the next round, and there is a next round only if the last one came to new ends. If
a walk enters too many rules, or if there are too many moves, the pattern is taken to be possible.

A query is a list of patterns for parts of trees. It is refused if it cannot be read, if a node is
asked for where it cannot stand, or if a condition has the wrong arguments.
-/

namespace CallAtlas.Syntax

/-- A rule that a walk has entered. -/
structure WalkFrame where
  /-- The hidden rule; none for the node's own rule. -/
  owner : Option SymbolId
  /-- The station that the rule has come to. -/
  station : StationId
  /-- The number of children of the rule that were passed. -/
  index : Nat := 0
  /-- The field in which the rule stands. -/
  field : Option String := none
deriving DecidableEq, Inhabited

/-- A way through the children of a node. -/
structure Walk where
  /-- The rules that were entered, the innermost first. -/
  frames : List WalkFrame
  /-- The step of the pattern that has to be matched next. -/
  step : Nat
deriving DecidableEq, Inhabited

/-- A child that a walk may pass. -/
structure Passage where
  symbol : SymbolId
  /-- The station behind the child. -/
  station : StationId
  /-- The number of children of the innermost rule behind it. -/
  index : Nat
  rename : Option Alias
  field : Option String
  /-- Is the innermost rule finished behind the child? -/
  finishes : Bool
deriving DecidableEq, Inhabited

namespace Walk

/-- Compares how far two walks have come, given their rules from the outermost one on: the numbers of
children passed, then the steps. Of two walks that agree as far as both go, the one with more rules
entered comes first. -/
def comparePlaces (i j : Nat) : List WalkFrame → List WalkFrame → Ordering
  | [], [] => compare i j
  | [], _ :: _ => .gt
  | _ :: _, [] => .lt
  | f :: fs, g :: gs => (compare f.index g.index).then (comparePlaces i j fs gs)

/-- Compares the rules and the stations of two walks. -/
def compareFrames : List WalkFrame → List WalkFrame → Ordering
  | f :: fs, g :: gs =>
    ((compare f.owner g.owner).then (compare f.station g.station)).then
      ((compare f.field g.field).then (compareFrames fs gs))
  | _, _ => .eq

/-- Compares how far two walks have come. -/
def comparePositions (a b : Walk) : Ordering :=
  comparePlaces a.step b.step a.frames.reverse b.frames.reverse

/-- The order of walks: those that have come less far come first. -/
def order (a b : Walk) : Ordering :=
  let fs := a.frames.reverse
  let gs := b.frames.reverse
  (comparePlaces a.step b.step fs gs).then (compareFrames fs gs)

/-- How many rules of the walk stand inside themselves. -/
def nesting (w : Walk) : Nat := go w.frames
where
  go : List WalkFrame → Nat
    | [] => 0
    | f :: below => (if below.any fun g => g.owner == f.owner then 1 else 0) + go below

end Walk

/-- Walks in their order. -/
abbrev WalkSet := Std.TreeSet Walk Walk.order

namespace Query

/-- What following the walks has come to. -/
structure Search where
  /-- The walks to follow next. -/
  next : WalkSet := {}
  /-- The walks that wait for the next round. -/
  deeper : WalkSet := {}
  /-- The steps at which the node was complete before the pattern was. -/
  ends : List Nat := []
  /-- Is the pattern possible, or has the search been given up? -/
  settled : Bool := false
deriving Inhabited

/-- What a search works with. -/
structure SearchContext where
  vocabulary : Vocabulary
  network : Network
  query : QuerySteps
  /-- The course of the rules of the node. -/
  course : Course
  /-- How many rules of a walk may stand inside themselves. -/
  nesting : Nat

/-- The children that a walk may pass, and the nodes that may stand anywhere, by the innermost rule,
the station and the number of children passed. -/
abbrev KnownPassages := Std.HashMap (Option SymbolId × StationId × Nat) (List Passage × List Passage)

/-- A part of a search; passages become known with it. -/
abbrev Searching := ReaderT SearchContext (StateM KnownPassages)

/-! ## The ways through the stations -/

/-- The course of the rule of a frame. -/
def courseOf (c : SearchContext) (f : WalkFrame) : Course :=
  match f.owner with
  | some rule => c.network.courseWithin rule
  | none => c.course

/-- A child of a rule in a stage of the rule's course: the child with a number, which leads to a
station. -/
def passage (symbol : SymbolId) (station : StationId) (index child : Nat) (s : Stage) : Passage :=
  { symbol, station, index, rename := (s.renames[child]?).join, field := (s.fields[child]?).join
    finishes := s.isEnd }

/-- The children that a walk may pass next, and the nodes that may stand anywhere. These are named
like the child before which they stand. -/
def passagesAt (c : SearchContext) (f : WalkFrame) : List Passage × List Passage :=
  let course := courseOf c f
  let station := c.network.station f.station
  (station.ways.toList.flatMap fun way =>
      (course.getD (way.2, f.index + 1) []).map (passage way.1 way.2 (f.index + 1) f.index),
    station.extras.flatMap fun extra =>
      (course.getD (f.station, f.index) []).map (passage extra f.station f.index f.index))

/-- The children that a walk may pass next, and the nodes that may stand anywhere. -/
def passages (f : WalkFrame) : Searching (List Passage × List Passage) := do
  let key := (f.owner, f.station, f.index)
  match (← get)[key]? with
  | some found => return found
  | none =>
    let found := passagesAt (← read) f
    modify fun known => known.insert key found
    return found

/-! ## Following the walks -/

/-- The most rules that a walk may have entered. -/
def mostFrames : Nat := 7

/-- The most moves that all walks together may take. -/
def mostMoves : Nat := 256

/-- Where a walk goes on in the pattern: at a step, or behind the pattern. -/
inductive Onward where
  | at (step : Nat)
  | finished

/-- Where a walk can go on from a step. Behind a match the alternatives are open as well. -/
def onwards (q : QuerySteps) (matched : Bool) (depth : Option Nat) :
    (fuel : Nat) → Nat → List Onward
  | 0, _ => []
  | fuel + 1, i =>
    let s := q.step i
    if s.isPassage then onwards q matched depth fuel (i + 1)
    else
      let here : List Onward :=
        if s.isDeadEnd then [] else if s.depth = depth then [.at i] else [.finished]
      let there :=
        match s.alternative with
        | some a => if matched && i < a then onwards q matched depth fuel a else []
        | none => []
      here ++ there

/-- The first step behind one that does not stand below it. -/
def behind (q : QuerySteps) (depth : Nat) : (fuel : Nat) → Nat → Nat
  | 0, i => i
  | fuel + 1, i => if (q.step i).depth.any fun d => depth < d then behind q depth fuel (i + 1) else i

/-- Does a child match a step? -/
def matchesStep (v : Vocabulary) (w : Walk) (s : QueryStep) (kind : Alias)
    (field : Option String) : Bool :=
  s.demand.accepts kind && (s.field.isNone || s.field == field)
    && s.supertype.all fun name =>
      w.frames.any fun f => f.owner.any fun o => (v.productions.info o).name == name

/-- Lets a walk pass a child with a node. -/
def passNode (c : SearchContext) (w : Walk) (rest : List WalkFrame) (top : WalkFrame)
    (p : Passage) (kind : Option Alias) (search : Search) : Search :=
  let q := c.query
  let s := q.step w.step
  let depth := s.depth.getD 0
  let field := top.field.or p.field
  let matched := kind.any fun k => matchesStep c.vocabulary w s k field
  if !matched && p.station == top.station then search
  else
    let frames :=
      if p.finishes then rest else { top with station := p.station, index := p.index } :: rest
    let start := if matched then behind q depth q.size (w.step + 1) else w.step
    (onwards q matched s.depth (q.size + 1) start).foldl (fun search onward =>
      match onward with
      | .finished => { search with settled := true }
      | .at i =>
        if frames.isEmpty then
          { search with ends := if search.ends.contains i then search.ends else i :: search.ends }
        else { search with next := search.next.insert ⟨frames, i⟩ }) search

/-- Lets a walk enter a hidden rule. -/
def enter (c : SearchContext) (w : Walk) (rest : List WalkFrame) (top : WalkFrame) (p : Passage)
    (search : Search) : Search :=
  let after := { top with station := p.station, index := p.index }
  let below := if p.finishes then rest else after :: rest
  if !p.finishes && w.frames.length ≥ mostFrames then { search with settled := true }
  else
    let inner : WalkFrame :=
      { owner := some p.symbol, station := top.station, field := top.field.or p.field }
    let walk : Walk := { frames := inner :: below, step := w.step }
    if c.nesting < walk.nesting then { search with deeper := search.deeper.insert walk }
    else if p.station == top.station then search
    else { search with next := search.next.insert walk }

/-- Lets a walk pass its next child in every possible way. -/
def follow (w : Walk) (search : Search) : Searching Search := do
  match w.frames with
  | [] => return search
  | top :: rest =>
    let c ← read
    let p := c.vocabulary.productions
    let (within, anywhere) ← passages top
    let passed := within.foldl (fun search passage =>
      let kind := passage.rename.or (p.kindOf? passage.symbol)
      if kind.isSome || p.isToken passage.symbol then passNode c w rest top passage kind search
      else enter c w rest top passage search) search
    return anywhere.foldl (fun search passage =>
      passNode c w rest top passage (passage.rename.or (p.kindOf? passage.symbol)) search) passed

/-- Lets walks make a move, the least advanced ones first. When a move has led less far than the
walk that comes next has come, all that are left wait; so does a walk that has come just as far as
the most advanced move has led. -/
def move : List Walk → Search → Searching Search
  | [], search => return search
  | w :: rest, search => do
    match search.next.max?.map w.comparePositions with
    | some .eq => move rest { search with next := search.next.insert w }
    | some .gt => return { search with next := search.next.insertMany (w :: rest) }
    | _ => move rest (← follow w search)

/-- Lets the walks move until the pattern is found to be possible or no walk is left. The number of
ends at the beginning of the round tells whether there is a next one. -/
def explore : (fuel : Nat) → (endsBefore : Nat) → Search → Searching Search
  | 0, _, search => return { search with settled := true }
  | fuel + 1, endsBefore, search => do
    if search.settled then return search
    else if search.next.isEmpty then
      if !search.deeper.isEmpty && endsBefore < search.ends.length then
        withReader (fun c => { c with nesting := c.nesting + 1 })
          (explore fuel search.ends.length { search with next := search.deeper, deeper := {} })
      else return search
    else explore fuel endsBefore (← move search.next.toList { search with next := {} })

/-! ## Places that cannot match -/

/-- The step at which the children of a step cannot match; none if they can. -/
def impossibleBelow (v : Vocabulary) (network : Thunk Network) (q : QuerySteps) (parent : Nat) :
    Option Nat :=
  match (q.step parent).demand with
  | .kind kind =>
    let n := network.get
    let rules := v.rulesOf kind
    let course := n.courseOf rules
    if course.isEmpty then some (parent + 1)
    else
      let context : SearchContext :=
        { vocabulary := v, network := n, query := q, course, nesting := 0 }
      let walks := (n.startsOf rules).map fun station =>
        ({ frames := [{ owner := none, station }], step := parent + 1 } : Walk)
      let (search, _) := ((explore mostMoves 0 { next := .ofList walks _ }).run context).run {}
      if search.settled then none else some (search.ends.max?.getD parent)
  | _ => none

/-- Does a step have others below it? -/
def hasBelow (q : QuerySteps) (i : Nat) : Bool :=
  (q.step i).depth.any fun depth => (q.step (i + 1)).depth.any fun below => depth < below

/-- The position of the first part of a query that cannot match. -/
def misplaced? (v : Vocabulary) (network : Thunk Network) (q : QuerySteps) : Option Nat :=
  (((List.range q.size).filter (hasBelow q)).findSome? (impossibleBelow v network q)).map q.positionOf

/-- What is wrong with a query, if anything. -/
def fault? (v : Vocabulary) (network : Thunk Network) (text : Text) : Option QueryFault :=
  let points := text.codePoints
  let total := bytesOf points
  match patterns v total (2 * points.length + 4) ({ rest := points } : Cursor).skip with
  | .error stop => some (.located stop.kind (positionOf total stop.rest))
  | .ok (ts, c) =>
    match misplaced? v network (QuerySteps.ofTerms ts) with
    | some position => some (.located .misplaced position)
    | none => c.misuse.map .condition

end Query

end CallAtlas.Syntax
