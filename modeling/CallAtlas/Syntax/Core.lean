import CallAtlas.Syntax.Verdict

/-!
# Cores

A core is what a state of the parsing automaton says without the tokens that may follow: the items
that entering the state gave. The cores of a grammar and the ways between them are found from the
start symbol on.

Which tokens may follow the items behind a symbol depends on those that may follow the items before
it. This is written down once for all states of a core, as a *flow* for each item: the tokens that
may follow it in any case, and the items before the symbol whose tokens may follow it as well.
-/

namespace CallAtlas.Syntax

/-- Where the tokens that may follow an item come from. -/
structure Flow where
  /-- The tokens that may follow in any case. -/
  known : TokenSet := 0
  /-- The items of the core, by place, whose tokens may follow as well; a bit set. -/
  sources : Nat := 0
deriving DecidableEq, Inhabited

/-- The tokens of both flows. -/
def Flow.join (a b : Flow) : Flow := ⟨a.known ||| b.known, a.sources ||| b.sources⟩

/-- A core, by number. -/
abbrev CoreId := Nat

/-- The way from a core over a symbol. -/
structure Edge where
  symbol : SymbolId
  target : CoreId
  /-- The flow of each item of the target. -/
  flows : Array Flow
deriving Inhabited

/-- A core and the ways from it. -/
structure Core where
  /-- The items, in ascending order. -/
  kernel : Array ItemId
  /-- The ways over tokens, then those over nonterminals. -/
  edges : Array Edge
  /-- The items whose productions are finished, in the order in which they are looked at. -/
  finished : List (ItemId × Flow)
deriving Inhabited

namespace Tables

/-- The flow of each nonterminal, by index, that may begin where a core stands. -/
def beginnings (t : Tables) (kernel : Array ItemId) : Array Flow :=
  let none : Array Flow := Array.replicate t.productions.bodies.size {}
  kernel.zipIdx.foldl (fun acc item =>
    match t.onward item.1 with
    | .none => acc
    | some (symbol, after) =>
      if t.productions.isToken symbol then acc
      else
        let first := t.firstAt after
        let behind := if (t.onward after).isNone then 1 <<< item.2 else 0
        (t.leftEnds[symbol - t.productions.tokenCount]?.getD []).foldl (fun acc l =>
          let add : Flow :=
            if l.inherits then ⟨l.follow ||| first, behind⟩ else ⟨l.follow, 0⟩
          acc.modify (l.symbol - t.productions.tokenCount) (·.join add)) acc) none

/-- The finished items of a core and the productions without steps that may begin there, with their
flows. -/
def finishedItems (t : Tables) (kernel : Array ItemId) (flows : Array Flow) :
    List (ItemId × Flow) :=
  let isFinished (i : ItemId) : Bool := (t.onward i).isNone
  let own := kernel.toList.zipIdx.filterMap fun item =>
    if isFinished item.1 then some (item.1, ⟨0, 1 <<< item.2⟩) else none
  let begun := flows.toList.zipIdx.flatMap fun flow =>
    if flow.1 = {} then []
    else ((t.roots[flow.2]?.getD []).filter isFinished).map fun i => (i, flow.1)
  own ++ begun

/-- The items behind each symbol, by symbol, with their flows; an item may occur several times. -/
def branches (t : Tables) (kernel : Array ItemId) (flows : Array Flow) :
    Array (List (ItemId × Flow)) :=
  let none : Array (List (ItemId × Flow)) := Array.replicate t.productions.symbols.size []
  let own := kernel.zipIdx.foldl (fun acc item =>
    match t.onward item.1 with
    | .none => acc
    | some (symbol, after) =>
      acc.modify symbol ((after, ⟨0, 1 <<< item.2⟩) :: ·)) none
  flows.zipIdx.foldl (fun acc flow =>
    if flow.1 = {} then acc
    else (t.openings[flow.2]?.getD []).foldl (fun acc e =>
      acc.modify e.1 ((e.2, flow.1) :: ·)) acc) own

/-- Joins the flows of equal items that stand side by side. -/
def joinEqual : List (ItemId × Flow) → List (ItemId × Flow)
  | [] => []
  | (i, flow) :: rest =>
    match joinEqual rest with
    | [] => [(i, flow)]
    | (j, other) :: joined =>
      if i = j then (i, flow.join other) :: joined else (i, flow) :: (j, other) :: joined

/-- The hidden rule that can only be finished where a core stands, with a single child; `traceless` are
the rules that leave no trace in trees. -/
def onlyRule? (t : Tables) (traceless : List SymbolId) (kernel : Array ItemId) : Option SymbolId :=
  let items := kernel.toList.map t.item
  match items with
  | [] => none
  | i :: _ =>
    let isUnit (j : Item) : Bool :=
      j.owner == i.owner && j.dynamic == 0 && j.isFinished
        && j.taken == [{ rename := none, field := none, symbol := none }]
    if traceless.contains i.owner && items.all isUnit then some i.owner else none

/-- The order in which the symbols lead away from a core: the scanner's own tokens, the end of the
source, the other tokens in the order of the grammar, the nonterminals. -/
def symbolOrder (p : Productions) : List SymbolId :=
  let isOwn (s : SymbolId) : Bool := s != endSymbol && (p.info s).token.isNone
  p.externals.filter isOwn ++ [endSymbol]
    ++ ((List.range p.tokenCount).filter fun s => s != endSymbol && !isOwn s).mergeSort
      (fun a b => (p.info a).order ≤ (p.info b).order)
    ++ (List.range p.bodies.size).map (p.tokenCount + ·)

/-- Are finished items looked at in this order? Shorter productions come first, then those of earlier
nonterminals. -/
def finishedBefore (t : Tables) (a b : ItemId × Flow) : Bool :=
  let i := t.item a.1
  let j := t.item b.1
  i.depth < j.depth || (i.depth == j.depth && i.owner ≤ j.owner)

end Tables

/-- The cores of a grammar found so far, and the ways from those that have been looked at. -/
structure CoreGraph where
  kernels : Array (Array ItemId) := #[]
  numbers : Std.HashMap (Array ItemId) CoreId := {}
  cores : Array Core := #[]
deriving Inhabited

namespace CoreGraph

/-- The number of a core, which is added if it is new. -/
def intern (g : CoreGraph) (kernel : Array ItemId) : CoreGraph × CoreId :=
  match g.numbers[kernel]? with
  | some c => (g, c)
  | none =>
    let c := g.kernels.size
    ({ g with
        kernels := g.kernels.push kernel
        numbers := g.numbers.insert kernel c }, c)

/-- The core at the beginning of a text. -/
def startKernel (t : Tables) : Array ItemId := (t.rootsOf t.accepting).toArray

/-- The core of error recovery, which has no items, and the core at the beginning of a text. -/
def initial (t : Tables) : CoreGraph :=
  let g : CoreGraph := { kernels := #[#[]], numbers := ({} : Std.HashMap _ _).insert #[] 0 }
  (g.intern (startKernel t)).1

/-- Looks at the ways from a core. -/
def expand (t : Tables) (order : List SymbolId) (g : CoreGraph) (kernel : Array ItemId) :
    CoreGraph :=
  let flows := t.beginnings kernel
  let branches := t.branches kernel flows
  let (g, edges) := order.foldl (fun (acc : CoreGraph × Array Edge) symbol =>
    match branches[symbol]?.getD [] with
    | [] => acc
    | found =>
      let found := Tables.joinEqual (found.mergeSort fun a b => a.1 ≤ b.1)
      let (g, target) := acc.1.intern (found.map Prod.fst).toArray
      (g, acc.2.push { symbol, target, flows := (found.map Prod.snd).toArray })) (g, #[])
  let finished := t.finishedItems kernel flows
  { g with
    cores := g.cores.push { kernel, edges, finished := finished.mergeSort t.finishedBefore } }

/-- Looks at the ways from all cores that have not been looked at. -/
def explore (t : Tables) (order : List SymbolId) : (fuel : Nat) → CoreGraph → CoreGraph
  | 0, g => g
  | fuel + 1, g =>
    match g.kernels[g.cores.size]? with
    | none => g
    | some kernel => explore t order fuel (g.expand t order kernel)

/-- More cores than any grammar has. -/
def mostCores : Nat := 1000000

/-- All cores of a grammar. -/
def ofTables (t : Tables) : Array Core :=
  (explore t (Tables.symbolOrder t.productions) mostCores (initial t)).cores

end CoreGraph

end CallAtlas.Syntax
