import CallAtlas.Syntax.LexSet
import CallAtlas.Syntax.Merging

/-!
# The parsing automaton

A state of the automaton is a core with the tokens that may follow each of its items. Variants of a
core that can be one state are merged: what may follow in one of them may follow in the state.

Where several actions are possible for a token, the verdict on the token says which of them are
taken; all that are left are followed. A state in which nothing can be done but to finish a hidden
rule with a single child is passed over: the ways to it lead to where finishing the rule would lead.
-/

namespace CallAtlas.Syntax

/-- A state of the automaton, by number. -/
abbrev StateId := Nat

/-- What the parser may do at a token. -/
inductive Action where
  /-- Consume the token. A repeating shift only serves the ambiguity of a repetition. -/
  | shift (next : StateId) (repeating : Bool)
  /-- Consume the token without changing the state. -/
  | shiftExtra
  /-- Replace the last symbols by a node. -/
  | reduce (shape : Shape)
  /-- The text is complete. -/
  | accept
  /-- Continue error recovery with the token. -/
  | recover
deriving DecidableEq, Inhabited

/-- A state of the automaton. -/
structure State where
  core : Core := default
  /-- The tokens that may follow the finished items of the core. -/
  follow : List TokenSet := []
  /-- The states that the ways from the core lead to; 0 for a way that is closed. -/
  targets : Array StateId := #[]
  /-- The tokens for which there is an action. -/
  valid : TokenSet
  /-- The tokens that the lexer looks for. -/
  matched : TokenSet
  /-- The actions at each token. -/
  actions : Thunk (Std.HashMap SymbolId (List Action))
  /-- The state after each nonterminal. -/
  gotos : Thunk (Std.HashMap SymbolId StateId)

instance : Inhabited State := ⟨{ valid := 0, matched := 0, actions := .pure {}, gotos := .pure {} }⟩

/-- The state of error recovery. -/
def errorState : StateId := 0

/-- The state at the beginning of a text. -/
def startState : StateId := 1

/-- The states of a grammar. -/
structure Automaton where
  states : Array State
  /-- The states that can be come to, in their order. -/
  reached : List StateId := []
deriving Inhabited

/-! ## Passing over states -/

namespace Core

/-- The number of the way over a symbol. -/
def edge? (c : Core) (symbol : SymbolId) : Option Nat :=
  c.edges.findIdx? fun e => e.symbol == symbol

end Core

/-- The groups of a grammar's variants as the states are made from them. -/
structure Blueprint where
  /-- The core of each group. -/
  cores : Array Core
  /-- For each group the tokens that may follow its finished items. -/
  follow : Array (List TokenSet)
  /-- For each group the groups that its ways lead to; 0 for a way that is closed. -/
  targets : Array (Array StateId)
  /-- For each token those that must not be looked for in its company. -/
  excluded : Array TokenSet
  /-- The tokens that error recovery looks for. -/
  sought : TokenSet
deriving Inhabited

namespace Blueprint

/-- The groups of a grammar's variants. -/
def ofGrammar (g : Grammar) (t : Tables) : Blueprint :=
  let p := t.productions
  let cores := CoreGraph.ofTables t
  let (pool, junctions) := Junction.ofCores {} cores
  let vs := Variants.explore junctions Variants.mostVariants
    (Variants.initial pool (cores.getD startState default).kernel.size)
  let overlaps := p.overlaps g.separator
  let context : ProfileContext :=
    { tables := t, cores, blockers := p.blockers overlaps
      externalSet := TokenSet.ofList p.externals }
  let (profiles, profileOf) := Profiles.ofVariants context junctions vs
  let grouping := Grouping.ofVariants context vs profiles.all profileOf
  let profile (v : VariantId) : Profile := profiles.all.getD (profileOf.getD v 0) default
  let first (members : List VariantId) : VariantId := members.headD errorState
  let companions := Companions.ofSets p.tokenCount (profiles.all.toList.map Profile.valid)
  { cores := grouping.groups.map fun members =>
      cores.getD (vs.all.getD (first members) default).core default
    follow := grouping.groups.map fun members =>
      members.tail.foldl (fun acc w => List.zipWith (· ||| ·) acc (profile w).follow)
        (profile (first members)).follow
    targets := grouping.groups.map fun members =>
      let v := first members
      (vs.targets.getD v #[]).mapIdx fun k w =>
        if (profile v).isOpen.getD k false then grouping.groupOf.getD w 0 else 0
    excluded := LexSets.excluded overlaps companions
    sought := p.sought overlaps companions }

/-- The group to go to instead of one in which a hidden rule can only be finished; `only` gives those
rules. -/
def settle (b : Blueprint) (only : Array (Option SymbolId)) (group : StateId) :
    (fuel : Nat) → StateId → StateId
  | 0, n => n
  | fuel + 1, n =>
    match (only.getD n none).bind fun rule => (b.cores.getD group default).edge? rule with
    | none => n
    | some k => settle b only group fuel ((b.targets.getD group #[]).getD k 0)

/-- The groups that the ways from a group lead to, past those in which a hidden rule can only be
finished. -/
def settledTargets (b : Blueprint) (only : Array (Option SymbolId)) (group : StateId) :
    Array StateId :=
  (b.targets.getD group #[]).map (b.settle only group (b.cores.size + 1))

end Blueprint

/-! ## Actions -/

namespace Core

/-- The actions at a token, given the tokens that may follow the finished items and the states that
the ways lead to. -/
def actionsAt (t : Tables) (c : Core) (follow : List TokenSet) (targets : Array StateId)
    (token : SymbolId) : List Action :=
  let way := c.edge? token
  match c.verdict t (fun k => (follow.getD k 0).has token) (way.map fun _ => token) with
  | .accept => [.accept]
  | .follow reduces shift =>
    let shifts : List Action := match way, shift with
      | some k, some repeating => [.shift (targets.getD k 0) repeating]
      | _, _ => []
    let found := reduces.map Action.reduce ++ shifts
    if found.isEmpty && t.extraSet.has token then [.shiftExtra] else found

end Core

namespace State

/-- The state of error recovery: it skips extras and looks at the tokens that are sought. -/
def recovery (t : Tables) (sought : TokenSet) : State :=
  { valid := sought
    matched := 0
    actions := .mk fun _ => (sought ||| t.extraSet).members.foldl (fun m token =>
      m.insert token [if t.extraSet.has token then .shiftExtra else .recover]) {}
    gotos := .pure {} }

/-- The state of a core, given the tokens that may follow the finished items and the states that the
ways lead to. -/
def ofCore (t : Tables) (c : Core) (follow : List TokenSet) (targets : Array StateId) : State :=
  let valid := follow.foldl (· ||| ·) (t.extraSet ||| c.shiftSet t)
  { core := c, follow, targets, valid
    matched := 0
    actions := .mk fun _ => valid.members.foldl (fun m token =>
      m.insert token (c.actionsAt t follow targets token)) {}
    gotos := .mk fun _ => (c.edges.zip targets).foldl (fun m way =>
      if t.productions.isToken way.1.symbol then m else m.insert way.1.symbol way.2) {} }

end State

/-! ## The states -/

namespace Blueprint

/-- Marks the states on the work list and those that ways lead to from there. -/
def mark (targets : Array (Array StateId)) : (fuel : Nat) → List StateId → Array Bool → Array Bool
  | 0, _, seen => seen
  | _ + 1, [], seen => seen
  | fuel + 1, s :: work, seen =>
    let (work, seen) := (targets.getD s #[]).foldl (fun (acc : List StateId × Array Bool) n =>
      if acc.2.getD n true then acc else (n :: acc.1, acc.2.setIfInBounds n true)) (work, seen)
    mark targets fuel work seen

/-- The states that can be come to: error recovery, the beginning of a text, and the others from the
one with the most ways on. -/
def bySize (b : Blueprint) (t : Tables) (targets : Array (Array StateId))
    (states : Array State) : List StateId :=
  let seen := mark targets (states.size + 2) [errorState, startState]
    (((Array.replicate states.size false).setIfInBounds errorState true).setIfInBounds
      startState true)
  let size (s : StateId) : Nat :=
    (states.getD s default).valid.members.length
      + ((b.cores.getD s default).edges.filter fun e => !t.productions.isToken e.symbol).size
  let others := (List.range states.size).filterMap fun s =>
    if startState < s && seen.getD s false then some (s, size s) else none
  errorState :: startState :: (others.mergeSort fun x y => y.2 ≤ x.2).map Prod.fst

end Blueprint

namespace Automaton

/-- The automaton of a grammar. -/
def ofGrammar (g : Grammar) (t : Tables) : Automaton :=
  let b := Blueprint.ofGrammar g t
  let traceless := t.productions.traceless
  let only := b.cores.map fun c => t.onlyRule? traceless c.kernel
  let targets := (Array.range b.cores.size).map (b.settledTargets only)
  let states := b.cores.mapIdx fun n c =>
    if n = errorState then .recovery t b.sought
    else .ofCore t c (b.follow.getD n []) (targets.getD n #[])
  let keywords := TokenSet.ofList (t.productions.keywords.map Prod.snd)
  let tokensOf (s : State) : TokenSet := t.productions.matched keywords s.valid
  let reached := b.bySize t targets states
  let sets := reached.foldl (fun (sets : LexSets) n =>
    sets.add b.excluded (tokensOf (states.getD n default))) {}
  { states := states.map fun s => { s with matched := sets.setOf (tokensOf s) }, reached }

/-- A state by number. -/
def state (a : Automaton) (s : StateId) : State := a.states.getD s default

/-- The tokens for which there is an action in a state. -/
def validAt (a : Automaton) (s : StateId) : TokenSet := (a.state s).valid

/-- The tokens that the lexer looks for in a state. -/
def matchedAt (a : Automaton) (s : StateId) : TokenSet := (a.state s).matched

/-- The actions of a state at a token. -/
def actionsAt (a : Automaton) (s : StateId) (token : SymbolId) : List Action :=
  (a.state s).actions.get.getD token []

/-- The state after a symbol, following only the last action at a token; 0 if there is none. -/
def next (a : Automaton) (s : StateId) (symbol : SymbolId) : StateId :=
  match (a.actionsAt s symbol).getLast? with
  | some (.shift n _) => n
  | some .shiftExtra => s
  | some _ => 0
  | none => (a.state s).gotos.get.getD symbol 0

end Automaton

end CallAtlas.Syntax
