import CallAtlas.Syntax.Automaton
import CallAtlas.Syntax.Reading

/-!
# The branching stack

The parser follows several readings of a text at once. Its stack is a graph: a node holds a
state, and each link of a node leads to the node below it and carries the reading between the
two. Versions of the stack are heads that point at nodes; versions that reach the same state
at the same place are merged, so that a node can have several links.

Popping follows every path, and each node at which paths end becomes a version of its own.
-/

namespace CallAtlas.Syntax

/-- A link to the node below. A link without a reading marks the beginning of an error. -/
structure Link where
  node : Nat
  reading : Option Reading
deriving Inhabited

/-- A node of the stack. -/
structure StackNode where
  state : StateId
  /-- The offset up to which the text has been read. -/
  position : Nat := 0
  links : List Link := []
  errorCost : Nat := 0
  /-- The number of nodes that can be seen on the way to here. -/
  nodeCount : Nat := 0
  dynamic : Int := 0
deriving Inhabited

/-- A state on the way down, how deep it is, and the offset there. -/
structure Landmark where
  position : Nat
  depth : Nat
  state : StateId
deriving Inhabited

/-- What a version is doing. -/
inductive Status where
  | active
  /-- The version waits with a token that it cannot use. -/
  | paused (lookahead : Reading)
  | halted
deriving Inhabited

/-- A version of the stack. -/
structure Head where
  node : Nat
  status : Status := .active
  nodeCountAtError : Nat := 0
  memory : Memory := []
  /-- The states below the place where error recovery began. -/
  landmarks : Option (List Landmark) := none
deriving Inhabited

namespace Head

/-- Is the version being worked on? -/
def isActive (h : Head) : Bool :=
  match h.status with
  | .active => true
  | _ => false

/-- Does the version wait with a token that it cannot use? -/
def isPaused (h : Head) : Bool :=
  match h.status with
  | .paused _ => true
  | _ => false

/-- Has the version been given up? -/
def isHalted (h : Head) : Bool :=
  match h.status with
  | .halted => true
  | _ => false

end Head

/-- The nodes and versions of a stack. -/
structure Stack where
  nodes : Array StackNode
  heads : Array Head
deriving Inhabited

/-- The readings on a path to a version that popping made, the lowest first. -/
structure Slice where
  version : Nat
  readings : List Reading
deriving Inhabited

namespace Stack

/-- The limits of the stack's breadth. -/
structure Limits where
  /-- Links of one node. -/
  links : Nat := 8
  /-- Paths that popping follows at once. -/
  paths : Nat := 64

/-- The limits of the stack's breadth, as the parser uses them. -/
def limits : Limits := {}

/-- A stack in the start state. -/
def initial : Stack := { nodes := #[{ state := startState }], heads := #[{ node := 0 }] }

/-- The number of versions. -/
def count (s : Stack) : Nat := s.heads.size

/-- A version. -/
def head (s : Stack) (v : Nat) : Head := s.heads[v]?.getD default

/-- A node by number. -/
def node (s : Stack) (n : Nat) : StackNode := s.nodes[n]?.getD default

/-- The top node of a version. -/
def top (s : Stack) (v : Nat) : StackNode := s.node (s.head v).node

/-- The state of a version. -/
def state (s : Stack) (v : Nat) : StateId := (s.top v).state

/-- The offset that a version has reached. -/
def position (s : Stack) (v : Nat) : Nat := (s.top v).position

/-- The dynamic precedence of a version. -/
def dynamic (s : Stack) (v : Nat) : Int := (s.top v).dynamic

/-- The cost of a version's errors; an error that is not yet accounted for counts as well. -/
def errorCost (s : Stack) (v : Nat) : Nat :=
  let h := s.head v
  let n := s.node h.node
  let open_ := n.state == errorState
    && ((n.links.head?.map fun l => l.reading.isNone).getD true)
  n.errorCost + if h.isPaused || open_ then costs.recovery else 0

/-- The number of nodes that a version has found since its last error. -/
def nodeCountSinceError (s : Stack) (v : Nat) : Nat :=
  (s.top v).nodeCount - (s.head v).nodeCountAtError

/-- Changes a version. -/
def modifyHead (s : Stack) (v : Nat) (f : Head → Head) : Stack :=
  { s with heads := s.heads.modify v f }

/-- A version whose count of nodes fell below the count at its last error takes the lower
count as the new mark. -/
def settleNodeCount (s : Stack) (v : Nat) : Stack :=
  let n := (s.top v).nodeCount
  if n < (s.head v).nodeCountAtError then s.modifyHead v fun h => { h with nodeCountAtError := n }
  else s

/-- Pushes a reading, or the mark of an error. -/
def push (s : Stack) (v : Nat) (reading : Option Reading) (state : StateId) : Stack :=
  let below := (s.head v).node
  let b := s.node below
  let n : StackNode :=
    match reading with
    | some r =>
      { state, position := b.position + r.width, links := [⟨below, some r⟩]
        errorCost := b.errorCost + r.info.errorCost
        nodeCount := b.nodeCount + r.nodeCount
        dynamic := b.dynamic + r.info.dynamic }
    | none =>
      { state, position := b.position, links := [⟨below, none⟩], errorCost := b.errorCost
        nodeCount := b.nodeCount, dynamic := b.dynamic }
  let mark (h : Head) : Head :=
    match reading with
    | some _ => h
    | none => { h with nodeCountAtError := n.nodeCount }
  match s with
  | ⟨nodes, heads⟩ =>
    let place := nodes.size
    { nodes := nodes.push n, heads := heads.modify v fun h => mark { h with node := place } }

/-- Removes a version. -/
def remove (s : Stack) (v : Nat) : Stack := { s with heads := s.heads.eraseIdxIfInBounds v }

/-- Puts one version in the place of an earlier one. -/
def renumber (s : Stack) (source target : Nat) : Stack :=
  if source == target then s
  else
    let h := s.head source
    let h := if h.landmarks.isNone then { h with landmarks := (s.head target).landmarks } else h
    (s.modifyHead target fun _ => h).remove source

/-- Exchanges two versions. -/
def swap (s : Stack) (v w : Nat) : Stack :=
  let a := s.head v
  let b := s.head w
  (s.modifyHead v fun _ => b).modifyHead w fun _ => a

/-- Adds a copy of a version. -/
def copy (s : Stack) (v : Nat) : Stack × Nat :=
  ({ s with heads := s.heads.push { s.head v with landmarks := none } }, s.heads.size)

/-- Gives up a version. -/
def halt (s : Stack) (v : Nat) : Stack := s.modifyHead v fun h => { h with status := .halted }

/-- Lets a version wait with a token that it cannot use. -/
def pause (s : Stack) (v : Nat) (lookahead : Reading) : Stack :=
  let n := (s.top v).nodeCount
  s.modifyHead v fun h => { h with status := .paused lookahead, nodeCountAtError := n }

/-- Takes up a waiting version. -/
def resume (s : Stack) (v : Nat) : Stack := s.modifyHead v fun h => { h with status := .active }

/-- Sets what the scanner remembers in a version. -/
def setMemory (s : Stack) (v : Nat) (m : Memory) : Stack :=
  s.modifyHead v fun h => { h with memory := m }

/-! ## Merging -/

/-- May one of two readings stand for both in a link? -/
def equivalent : Option Reading → Option Reading → Bool
  | none, none => true
  | some a, some b =>
    let i := a.info
    let j := b.info
    i.symbol == j.symbol
      && ((i.errorCost > 0 && j.errorCost > 0)
        || (i.start - i.before == j.start - j.before && i.stop - i.start == j.stop - j.start
          && i.childCount == j.childCount && i.extra == j.extra
          && a.scannerMemory == b.scannerMemory))
  | _, _ => false

/-- The dynamic precedence of a link's reading. -/
def Link.dynamic (l : Link) : Int := (l.reading.map fun r => r.info.dynamic).getD 0

/-- The place of the first link of a node that a new link can be joined with, and whether the
two lead to the same node. -/
def joinable (nodes : Array StackNode) (links : List Link) (link : Link) : Option (Nat × Bool) :=
  (links.zipIdx.find? fun (l, _) =>
    equivalent l.reading link.reading
      && (l.node == link.node
        || (let a := nodes[l.node]?.getD default
            let b := nodes[link.node]?.getD default
            a.state == b.state && a.position == b.position && a.errorCost == b.errorCost))).map
    fun (l, i) => (i, l.node == link.node)

/-- Adds a link to a node. A link that means the same as one that is there is not added; if
the two lead to different nodes of the same state, those nodes are joined. -/
def addLink : (fuel : Nat) → Array StackNode → (target : Nat) → Link → Array StackNode
  | 0, nodes, _, _ => nodes
  | fuel + 1, nodes, target, link =>
    if link.node == target then nodes
    else
      let t := nodes[target]?.getD default
      let below := nodes[link.node]?.getD default
      let dynamic := below.dynamic + Link.dynamic link
      match joinable nodes t.links link with
      -- The same node is below: of two readings the one that is preferred stays.
      | some (i, true) =>
        let old := (t.links[i]?.map Link.dynamic).getD 0
        if old < Link.dynamic link then
          nodes.setIfInBounds target
            { t with
              links := t.links.modify i fun l => { l with reading := link.reading }
              dynamic }
        else nodes
      -- Two nodes below mean the same: the links of one go to the other.
      | some (i, false) =>
        let lower := (t.links[i]?.map fun l => l.node).getD 0
        let nodes := below.links.foldl (fun nodes l => addLink fuel nodes lower l) nodes
        nodes.modify target fun t => if t.dynamic < dynamic then { t with dynamic } else t
      | none =>
        if limits.links ≤ t.links.length then nodes
        else
          let found := below.nodeCount + (link.reading.map Reading.nodeCount).getD 0
          nodes.setIfInBounds target
            { t with
              links := t.links ++ [link]
              nodeCount := max t.nodeCount found
              dynamic := max t.dynamic dynamic }

/-- Can two versions be merged? -/
def canMerge (s : Stack) (v w : Nat) : Bool :=
  let a := s.head v
  let b := s.head w
  let m := s.node a.node
  let n := s.node b.node
  a.isActive && b.isActive && m.state == n.state && m.position == n.position
    && m.errorCost == n.errorCost && a.memory == b.memory

/-- Merges the second version into the first one, if that is possible. -/
def merge (s : Stack) (v w : Nat) : Stack × Bool :=
  if !s.canMerge v w then (s, false)
  else
    let target := (s.head v).node
    let nodes := (s.top w).links.foldl (fun nodes l => addLink nodes.size nodes target l) s.nodes
    let s := { s with nodes }
    let s :=
      if (s.top v).state == errorState then
        let n := (s.top v).nodeCount
        s.modifyHead v fun h => { h with nodeCountAtError := n }
      else s
    (s.remove w, true)

/-! ## Popping -/

/-- A path downwards: where it is, the readings on it, the lowest first, and how many of them
are children of a production. -/
structure Path where
  node : Nat
  readings : List Reading := []
  depth : Nat := 0

/-- What to do with a path. -/
structure Verdict where
  take : Bool
  stop : Bool

/-- The path one link further down. -/
def Path.follow (p : Path) (l : Link) : Path :=
  match l.reading with
  | some r =>
    { node := l.node, readings := r :: p.readings
      depth := if r.info.extra then p.depth else p.depth + 1 }
  | none => { p with node := l.node, depth := p.depth + 1 }

/-- Moves every path one link down. A path that branches goes on along its first link, and its
other branches are added at the end. `judge` decides on each path and may keep notes. -/
def walk {ν : Type} (s : Stack) (judge : ν → Path → ν × Verdict) :
    (fuel : Nat) → List Path → ν → List Path → ν × List Path
  | 0, _, notes, taken => (notes, taken.reverse)
  | fuel + 1, paths, notes, taken =>
    if paths.isEmpty then (notes, taken.reverse)
    else
      let step (acc : (ν × List Path) × (List Path × List Path × Nat)) (p : Path) :=
        let ((notes, taken), (kept, added, size)) := acc
        let (notes, verdict) := judge notes p
        let taken := if verdict.take then p :: taken else taken
        match (s.node p.node).links with
        | [] => ((notes, taken), (kept, added, size - 1))
        | first :: others =>
          if verdict.stop then ((notes, taken), (kept, added, size - 1))
          else
            let room := limits.paths - size
            let branches := (others.take room).map p.follow
            ((notes, taken),
              (p.follow first :: kept, added ++ branches, size + branches.length))
      let ((notes, taken), (kept, added, _)) :=
        paths.foldl step ((notes, taken), ([], [], paths.length))
      walk s judge fuel (kept.reverse ++ added) notes taken

/-- The place of the last slice whose version points at a node. -/
def lastSliceAt (s : Stack) (slices : List Slice) (node : Nat) : Option Nat :=
  ((slices.zipIdx.filter fun (slice, _) => (s.head slice.version).node == node).getLast?).map
    fun (_, i) => i

/-- Makes versions of the nodes at which paths ended. Paths that end at the same node belong to
the same version and stand next to each other. -/
def sliceAt (s : Stack) (parent : Nat) (taken : List Path) : Stack × List Slice :=
  taken.foldl (fun (acc : Stack × List Slice) p =>
    let (s, slices) := acc
    match lastSliceAt s slices p.node with
    | some i =>
      let version := ((slices[i]?).map Slice.version).getD 0
      (s, slices.insertIdx (i + 1) ⟨version, p.readings⟩)
    | none =>
      let h := s.head parent
      ({ s with heads := s.heads.push { node := p.node, nodeCountAtError := h.nodeCountAtError,
                                        memory := h.memory } },
        slices ++ [⟨s.heads.size, p.readings⟩])) (s, [])

/-- Follows the paths of a version and takes those that `judge` chooses. -/
def pop {ν : Type} (s : Stack) (v : Nat) (judge : ν → Path → ν × Verdict) (notes : ν) :
    Stack × List Slice :=
  let (_, taken) := s.walk judge (s.nodes.size + 2) [{ node := (s.head v).node }] notes []
  s.sliceAt v taken

/-- Pops a number of children. -/
def popCount (s : Stack) (v : Nat) (count : Nat) : Stack × List Slice :=
  s.pop v (fun _ p => ((), if p.depth == count then ⟨true, true⟩ else ⟨false, false⟩)) ()

/-- Pops everything. -/
def popAll (s : Stack) (v : Nat) : Stack × List Slice :=
  s.pop v (fun _ p => ((), ⟨(s.node p.node).links.isEmpty, false⟩)) ()

/-- Pops an error node from the top, if there is one. -/
def popError (s : Stack) (v : Nat) : Stack × List Reading :=
  let isError (l : Link) : Bool := (l.reading.map Reading.isError).getD false
  if !(s.top v).links.any isError then (s, [])
  else
    let judge (found : Bool) (p : Path) : Bool × Verdict :=
      match p.readings with
      | [] => (found, ⟨false, false⟩)
      | r :: _ => if !found && r.isError then (true, ⟨true, true⟩) else (found, ⟨false, true⟩)
    match s.pop v judge false with
    | (popped, slice :: _) => (popped.renumber slice.version v, slice.readings)
    | (_, []) => (s, [])

/-- Notes the states below the top of a version, down to a depth. -/
def recordLandmarks (s : Stack) (v : Nat) (maxDepth : Nat) : Stack :=
  let judge (found : List Landmark) (p : Path) : List Landmark × Verdict :=
    let n := s.node p.node
    if maxDepth < p.depth then (found, ⟨false, true⟩)
    else
      let here := found.takeWhile fun l => !(l.depth < p.depth)
      if here.any fun l => l.depth == p.depth && l.state == n.state then (found, ⟨false, false⟩)
      else (⟨n.position, p.depth, n.state⟩ :: found, ⟨false, false⟩)
  let (found, _) := s.walk judge (s.nodes.size + 2) [{ node := (s.head v).node }] [] []
  s.modifyHead v fun h => { h with landmarks := some found.reverse }

/-- Has a version read anything since its last error? -/
def hasAdvancedSinceError (s : Stack) (v : Nat) : Bool :=
  let h := s.head v
  if (s.node h.node).errorCost == 0 then true else go h.nodeCountAtError s.nodes.size h.node
where
  go (mark : Nat) : (fuel : Nat) → (node : Nat) → Bool
    | 0, _ => false
    | fuel + 1, i =>
      let n := s.node i
      match n.links with
      | ⟨below, some r⟩ :: _ =>
        if r.width > 0 then true
        else if n.nodeCount > mark && r.info.errorCost == 0 then go mark fuel below
        else false
      | _ => false

end Stack

end CallAtlas.Syntax
