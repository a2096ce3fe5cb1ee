import CallAtlas.Syntax.Core

/-!
# Variants of a core

A core together with the tokens that may follow each of its items is a state of the full parsing
automaton. A core has a variant for every way in which it can be come to. All variants are found
from the start symbol on, along the ways between the cores.

There are many variants but few different sets of tokens among them, so that sets are numbered and
the unions of sets are remembered.
-/

namespace CallAtlas.Syntax

/-- A set of tokens, by number; the empty set has the number 0. -/
abbrev SetId := Nat

/-- The sets of tokens met so far. -/
structure SetPool where
  sets : Array TokenSet := #[0]
  numbers : Std.HashMap TokenSet SetId := ({} : Std.HashMap TokenSet SetId).insert 0 0
  /-- The unions found so far, by the two sets. -/
  unions : Std.HashMap (SetId × SetId) SetId := {}
deriving Inhabited

namespace SetPool

/-- The number of a set, which is added if it is new. -/
def intern (p : SetPool) (s : TokenSet) : SetPool × SetId :=
  match p.numbers[s]? with
  | some i => (p, i)
  | none =>
    let i := p.sets.size
    ({ p with sets := p.sets.push s, numbers := p.numbers.insert s i }, i)

/-- A set by number. -/
def set (p : SetPool) (i : SetId) : TokenSet := p.sets[i]?.getD 0

/-- The union of two sets. -/
def union (p : SetPool) (a b : SetId) : SetPool × SetId :=
  if a = b || b = 0 then (p, a)
  else if a = 0 then (p, b)
  else
    match p.unions[(a, b)]? with
    | some i => (p, i)
    | none =>
      let (p, i) := p.intern (p.set a ||| p.set b)
      ({ p with unions := p.unions.insert (a, b) i }, i)

end SetPool

/-- A flow whose known tokens are numbered and whose sources are listed. -/
structure Channel where
  known : SetId
  sources : List Nat
deriving Inhabited

namespace Channel

/-- Numbers the known tokens of a flow. -/
def ofFlow (p : SetPool) (f : Flow) : SetPool × Channel :=
  let (p, known) := p.intern f.known
  (p, { known, sources := TokenSet.members f.sources })

/-- The tokens that a channel brings, given those that may follow the items of the core. -/
def outlet (c : Channel) (p : SetPool) (follow : Array SetId) : SetPool × SetId :=
  c.sources.foldl (fun acc k => acc.1.union acc.2 (follow[k]?.getD 0)) (p, c.known)

/-- The tokens that each of several channels brings. -/
def outlets (cs : Array Channel) (p : SetPool) (follow : Array SetId) (start : Array SetId) :
    SetPool × Array SetId :=
  cs.foldl (fun acc c =>
    let (p, s) := c.outlet acc.1 follow
    (p, acc.2.push s)) (p, start)

end Channel

/-- The ways from a core, with channels instead of flows. -/
structure Junction where
  /-- For each way the core that it leads to and the channels of that core's items. -/
  edges : Array (CoreId × Array Channel)
  /-- The channels of the finished items. -/
  finished : Array Channel
deriving Inhabited

namespace Junction

/-- Numbers the known tokens of several flows. -/
def channels (p : SetPool) (flows : Array Flow) : SetPool × Array Channel :=
  flows.foldl (fun acc f =>
    let (p, c) := Channel.ofFlow acc.1 f
    (p, acc.2.push c)) (p, #[])

/-- Numbers the known tokens of all flows of a core. -/
def ofCore (p : SetPool) (c : Core) : SetPool × Junction :=
  let (p, edges) := c.edges.foldl (fun (acc : SetPool × Array (CoreId × Array Channel)) e =>
    let (p, cs) := channels acc.1 e.flows
    (p, acc.2.push (e.target, cs))) (p, #[])
  let (p, finished) := channels p (c.finished.map Prod.snd).toArray
  (p, { edges, finished })

/-- Numbers the known tokens of all flows of several cores. -/
def ofCores (p : SetPool) (cores : Array Core) : SetPool × Array Junction :=
  cores.foldl (fun acc c =>
    let (p, j) := ofCore acc.1 c
    (p, acc.2.push j)) (p, #[])

end Junction

/-- A variant, by number. -/
abbrev VariantId := Nat

/-- A core with the tokens that may follow each of its items. -/
structure Variant where
  core : CoreId
  follow : Array SetId
deriving DecidableEq, Hashable, Inhabited

/-- The variants found so far. -/
structure Variants where
  pool : SetPool
  all : Array Variant := #[]
  numbers : Std.HashMap Variant VariantId := {}
  /-- For each variant that has been looked at the variants that its ways lead to. -/
  targets : Array (Array VariantId) := #[]
deriving Inhabited

namespace Variants

/-- The number of a variant, which is added if it is new. -/
def intern (vs : Variants) (v : Variant) : Variants × VariantId :=
  match vs.numbers[v]? with
  | some i => (vs, i)
  | none =>
    let i := vs.all.size
    ({ vs with all := vs.all.push v, numbers := vs.numbers.insert v i }, i)

/-- Follows a way from a variant. -/
def follow (vs : Variants) (v : Variant) (edge : CoreId × Array Channel) : Variants × VariantId :=
  let (pool, follow) := Channel.outlets edge.2 vs.pool v.follow #[]
  { vs with pool }.intern { core := edge.1, follow }

/-- Looks at the ways from all variants that have not been looked at. -/
def explore (junctions : Array Junction) : (fuel : Nat) → Variants → Variants
  | 0, vs => vs
  | fuel + 1, vs =>
    match vs.all[vs.targets.size]? with
    | none => vs
    | some v =>
      let edges := (junctions[v.core]?.getD default).edges
      let (vs, targets) := edges.foldl (fun (acc : Variants × Array VariantId) e =>
        let (vs, i) := acc.1.follow v e
        (vs, acc.2.push i)) (vs, #[])
      explore junctions fuel { vs with targets := vs.targets.push targets }

/-- More variants than any grammar has. -/
def mostVariants : Nat := 10000000

/-- The variant of error recovery and the variant at the beginning of a text, which only the end of
the source follows. -/
def initial (pool : SetPool) (startItems : Nat) : Variants :=
  let (pool, ending) := pool.intern (TokenSet.single endSymbol)
  let vs : Variants := { pool }
  let (vs, _) := vs.intern { core := 0, follow := #[] }
  (vs.intern { core := 1, follow := Array.replicate startItems ending }).1

end Variants

end CallAtlas.Syntax
