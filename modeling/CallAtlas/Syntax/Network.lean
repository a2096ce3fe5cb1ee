import CallAtlas.Syntax.Automaton

/-!
# The network behind a grammar's nodes

How the children of a node can follow each other is seen from the states of the automaton, here
called stations: each child leads from a station to the next one. The *course* of some rules tells
for each station which places in their productions may have been reached there. It is found from the
ends of the productions, along the ways back.

Only so many stations are remembered from which a station can be come to. Where there are more, the
courses of rules with several children are incomplete.
-/

namespace CallAtlas.Syntax

/-- A station, by its number in the order of the states. The first one is that of error recovery. -/
abbrev StationId := Nat

/-- A state of the automaton as the children of nodes lead to it and from it. -/
structure Station where
  /-- The symbols that may come next, and the stations that they lead to. -/
  ways : Array (SymbolId × StationId) := #[]
  /-- The tokens that may come next and lead nowhere. -/
  extras : List SymbolId := []
  /-- The productions that may end. -/
  ends : List Shape := []
  /-- Is it the first station with its core? -/
  isFirst : Bool := false
  /-- The stations from which it can be come to. -/
  sources : Array StationId := #[]
deriving Inhabited

/-- A place in the productions of a rule. -/
structure Stage where
  /-- The other names of the children of the production. -/
  renames : List (Option Alias)
  /-- The fields of the children of the production. -/
  fields : List (Option String)
  /-- Is the production at its end? -/
  isEnd : Bool
deriving DecidableEq, Inhabited

/-- The places that may have been reached at each station, by the number of children passed. -/
abbrev Course := Std.HashMap (StationId × Nat) (List Stage)

/-! ## Stations -/

namespace State

/-- The productions that a verdict ends. -/
def endedBy : Verdict → List Shape
  | .accept => []
  | .follow reduces _ => reduces

/-- The productions that may end in a state. -/
def ends (t : Tables) (s : State) : List Shape :=
  let possible := s.core.finished.map fun i => (t.item i.1).shape
  let shiftSet := s.core.shiftSet t
  let tokens := Profiles.byFinished s.follow
  let plain := tokens.flatMap fun f =>
    if f.2.without shiftSet == 0 then [] else endedBy (s.core.verdict t f.1.testBit none)
  if possible.all plain.contains then plain.eraseDups
  else
    let contested := tokens.flatMap fun f =>
      (f.2 &&& shiftSet).members.flatMap fun token =>
        endedBy (s.core.verdict t f.1.testBit (some token))
    (plain ++ contested).eraseDups

/-- The station of a state; `number` numbers the states. -/
def station (t : Tables) (number : StateId → StationId) (s : State) : Station :=
  let ways := (s.core.edges.zip s.targets).filterMap fun way =>
    if way.2 = errorState then none else some (way.1.symbol, number way.2)
  let used := s.follow.foldl (· ||| ·) (s.core.shiftSet t)
  { ways
    extras := (t.extraSet.without used).members
    ends := if s.core.finished.isEmpty then [] else s.ends t }

end State

/-- A grammar's stations and the courses of its rules. -/
structure Network where
  stations : Array Station
  /-- The stations at which each nonterminal may end, with the production that ends there. -/
  endings : Array (List (StationId × Shape))
  /-- The course of each nonterminal alone. -/
  courses : Array (Thunk Course)
  tokenCount : Nat

namespace Network

/-- The most sources that are remembered of a station. -/
def mostSources : Nat := 256

/-- Notes the sources of the stations. A way over a nonterminal back to the same station is none. -/
def linked (tokenCount : Nat) (stations : Array Station) : Array Station :=
  (List.range stations.size).foldl (fun acc n =>
    ((acc.getD n default).ways).foldl (fun (acc : Array Station) way =>
      if way.2 = n && tokenCount ≤ way.1 then acc
      else acc.modify way.2 fun s =>
        if s.sources.back? == some n || mostSources ≤ s.sources.size then s
        else { s with sources := s.sources.push n }) acc) stations

/-- Marks the first station with each core. -/
def marked (kernels : Array (Array ItemId)) (stations : Array Station) : Array Station :=
  ((stations.zip kernels).foldl (fun (acc : Std.HashSet (Array ItemId) × Array Station) s =>
    if acc.1.contains s.2 then (acc.1, acc.2.push s.1)
    else (acc.1.insert s.2, acc.2.push { s.1 with isFirst := true })) ({}, #[])).2

/-- Where each nonterminal may end. Of several productions of a nonterminal that may end at a station
the first one counts. -/
def endingsOf (t : Tables) (stations : Array Station) : Array (List (StationId × Shape)) :=
  let first := t.productions.tokenCount
  let found := stations.zipIdx.foldl (fun (acc : Array (List (StationId × Shape))) s =>
    s.1.ends.foldl (fun (acc : Array (List (StationId × Shape))) shape =>
      acc.modify (shape.symbol - first) fun known =>
        if known.head?.any fun e => e.1 == s.2 then known else (s.2, shape) :: known) acc)
    (Array.replicate t.productions.bodies.size [])
  found.map List.reverse

/-- The ends of the productions of some rules. -/
def endsOf (endings : Array (List (StationId × Shape))) (tokenCount : Nat) (rules : List SymbolId) :
    List (StationId × Shape) :=
  let all := rules.flatMap fun r => endings.getD (r - tokenCount) []
  (all.foldl (fun (acc : Std.HashSet StationId × List (StationId × Shape)) e =>
    if acc.1.contains e.1 then acc else (acc.1.insert e.1, e :: acc.2)) ({}, [])).2

/-- Follows the places on the work list back to the beginnings of their productions. -/
def traceBack (stations : Array Station) :
    (fuel : Nat) → List ((StationId × Nat) × Stage) → Course → Course
  | 0, _, course => course
  | _ + 1, [], course => course
  | fuel + 1, ((n, index), stage) :: work, course =>
    if index ≤ 1 then traceBack stations fuel work course
    else
      let before : Stage := { stage with isEnd := false }
      let (work, course) := ((stations.getD n default).sources).foldl
        (fun (acc : List ((StationId × Nat) × Stage) × Course) m =>
          let known := acc.2.getD (m, index - 1) []
          if known.contains before then acc
          else (((m, index - 1), before) :: acc.1, acc.2.insert (m, index - 1) (before :: known)))
        (work, course)
      traceBack stations fuel work course

/-- More places than any course has. -/
def mostPlaces : Nat := 1000000000

/-- The course of some productions, given where they end. -/
def courseTo (stations : Array Station) (ends : List (StationId × Shape)) : Course :=
  let places := ends.map fun e =>
    ((e.1, e.2.count), ({ renames := e.2.aliases, fields := e.2.fields, isEnd := true } : Stage))
  traceBack stations mostPlaces places
    (places.foldl (fun c p => c.insert p.1 (p.2 :: c.getD p.1 [])) {})

/-- The network of an automaton. -/
def ofAutomaton (t : Tables) (a : Automaton) : Network :=
  let order := a.reached.toArray
  let numbers := order.zipIdx.foldl (fun (acc : Array StationId) s => acc.setIfInBounds s.1 s.2)
    (Array.replicate a.states.size 0)
  let states := order.map fun s => a.states.getD s default
  let tokenCount := t.productions.tokenCount
  let stations := linked tokenCount <| marked (states.map fun s => s.core.kernel) <|
    states.map fun s => s.station t (numbers.getD · 0)
  let endings := endingsOf t stations
  { stations, endings, tokenCount
    courses := (Array.range endings.size).map fun i => .mk fun _ =>
      courseTo stations (endings.getD i []) }

/-- A station by number. -/
def station (n : Network) (s : StationId) : Station := n.stations.getD s default

/-- The course of some rules. -/
def courseOf (n : Network) (rules : List SymbolId) : Course :=
  courseTo n.stations (endsOf n.endings n.tokenCount rules)

/-- The course of a nonterminal. -/
def courseWithin (n : Network) (rule : SymbolId) : Course :=
  ((n.courses[rule - n.tokenCount]?).map Thunk.get).getD {}

/-- The stations at which nodes of some rules may begin, one for each core. -/
def startsOf (n : Network) (rules : List SymbolId) : List StationId :=
  (List.range n.stations.size).filter fun s =>
    let station := n.station s
    station.isFirst && station.ways.any fun way => rules.contains way.1

end Network

end CallAtlas.Syntax
