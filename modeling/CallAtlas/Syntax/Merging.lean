import CallAtlas.Syntax.Overlap
import CallAtlas.Syntax.Variant

/-!
# Merging variants

Most variants of a core can be one state of the automaton. Two variants stay apart

* if there is a token that both can use, but not in the same way;
* if one of them can use a token that overlaps a token of the other one, or is found by the scanner:
  then the lexer could find it where it is of no use;
* if a symbol leads from them to variants that stay apart.

The variants are sorted into groups, at first by their cores. A group is split as long as two of its
members have to stay apart; each time the first member stays, with the others that do not have to be
kept apart from it or from those that stayed before. The split members form a group that is looked
at again.
-/

namespace CallAtlas.Syntax

/-! ## What a variant does at its tokens -/

/-- What a variant does at its tokens. -/
structure Profile where
  /-- The tokens that may follow the finished items. -/
  follow : List TokenSet
  /-- The tokens for which there is an action. -/
  valid : TokenSet
  /-- The tokens that must not be added. -/
  blocked : TokenSet
  /-- The tokens by the number of the verdict on them; extras have the number 0. -/
  verdicts : List (Nat × TokenSet)
  /-- Is each way followed? Ways over tokens may be closed by a verdict. -/
  isOpen : Array Bool
deriving Inhabited

/-- Do two profiles of a core have to be kept apart? -/
def Profile.conflicts (a b : Profile) : Bool :=
  a.valid.without b.valid &&& b.blocked != 0
    || b.valid.without a.valid &&& a.blocked != 0
    || a.verdicts.any fun v => b.verdicts.any fun w => v.1 != w.1 && v.2 &&& w.2 != 0

/-- What the profiles of a grammar are computed from. -/
structure ProfileContext where
  tables : Tables
  cores : Array Core
  /-- For each token the tokens that must not be added where it is valid. -/
  blockers : Array TokenSet
  /-- The tokens that the scanner finds. -/
  externalSet : TokenSet

/-- The profiles found so far. -/
structure Profiles where
  all : Array Profile := #[]
  /-- The profile by the core and the tokens that may follow its finished items. -/
  numbers : Std.HashMap (Array SetId) Nat := {}
  verdictNumbers : Std.HashMap Verdict Nat := {}
  /-- The numbers of the verdicts by the core, the items that are finished, and the token if it may
  be consumed, with whether it is. -/
  verdicts : Std.HashMap (CoreId × Nat × Option SymbolId) (Nat × Bool) := {}
  /-- What is blocked by the tokens that are valid. -/
  blocked : Std.HashMap TokenSet TokenSet := {}
deriving Inhabited

namespace Core

/-- The tokens over which ways lead. -/
def shiftSet (t : Tables) (c : Core) : TokenSet :=
  c.edges.foldl (fun s e =>
    if t.productions.isToken e.symbol then s ||| TokenSet.single e.symbol else s) 0

/-- The verdict on a token, given which of the finished items it finishes; none for a token that
cannot be consumed. -/
def verdict (t : Tables) (c : Core) (isFinished : Nat → Bool) (token : Option SymbolId) : Verdict :=
  let finished := c.finished.zipIdx.filterMap fun i =>
    if isFinished i.2 then some (t.item i.1.1) else none
  let shifting := match token with
    | none => []
    | some token => c.kernel.toList.filterMap fun i =>
      let item := t.item i
      if item.depth > 0 && (t.firstAt i).has token then some item else none
  Verdict.ofItems t finished shifting token.isSome

end Core

namespace Profiles

/-- The number of a verdict, and whether it consumes the token. -/
def verdict (x : ProfileContext) (ps : Profiles) (core : CoreId) (finished : Nat)
    (token : Option SymbolId) : Profiles × Nat × Bool :=
  match ps.verdicts[(core, finished, token)]? with
  | some found => (ps, found)
  | none =>
    let v := (x.cores[core]?.getD default).verdict x.tables finished.testBit token
    let number := ps.verdictNumbers[v]?.getD (ps.verdictNumbers.size + 1)
    let found := (number, v.shifts)
    ({ ps with
        verdictNumbers := ps.verdictNumbers.insert v number
        verdicts := ps.verdicts.insert (core, finished, token) found }, found)

/-- The tokens that must not be added where some tokens are valid. -/
def blockedBy (x : ProfileContext) (ps : Profiles) (valid : TokenSet) : Profiles × TokenSet :=
  match ps.blocked[valid]? with
  | some set => (ps, set)
  | none =>
    let set := valid.members.foldl (fun s t => s ||| x.blockers[t]?.getD 0) x.externalSet
    ({ ps with blocked := ps.blocked.insert valid set }, set)

/-- Sorts tokens by the finished items that they may follow. -/
def byFinished (follow : List TokenSet) : List (Nat × TokenSet) :=
  let all := follow.foldl (· ||| ·) 0
  follow.zipIdx.foldl (fun (acc : List (Nat × TokenSet)) f =>
    acc.flatMap fun c =>
      let inside := c.2 &&& f.1
      let outside := c.2.without f.1
      (if inside = 0 then [] else [(c.1 ||| 1 <<< f.2, inside)])
        ++ (if outside = 0 then [] else [(c.1, outside)])) [(0, all)]

/-- Adds tokens to those with a verdict. -/
def addTokens (number : Nat) (set : TokenSet) : List (Nat × TokenSet) → List (Nat × TokenSet)
  | [] => [(number, set)]
  | v :: rest =>
    if v.1 = number then (number, v.2 ||| set) :: rest else v :: addTokens number set rest

/-- The profile of a core, given the tokens that may follow its finished items. -/
def make (x : ProfileContext) (ps : Profiles) (core : CoreId) (follow : List TokenSet) :
    Profiles × Profile :=
  let c := x.cores[core]?.getD default
  let shiftSet := c.shiftSet x.tables
  let extras := x.tables.extraSet
  let all := follow.foldl (· ||| ·) 0
  let valid := extras ||| shiftSet ||| all
  let (ps, blocked) := ps.blockedBy x valid
  let (ps, plain, _) := ps.verdict x core 0 (some endSymbol)
  let start : Profiles × List (Nat × TokenSet) × TokenSet :=
    (ps, [(0, extras.without (shiftSet ||| all)), (plain, shiftSet.without all)],
      shiftSet.without all)
  let (ps, verdicts, shifted) := (byFinished follow).foldl (fun acc f =>
    let (ps, verdicts, shifted) := acc
    let consumed := f.2 &&& shiftSet
    let (ps, number, _) := ps.verdict x core f.1 none
    let verdicts := addTokens number (f.2.without shiftSet) verdicts
    consumed.members.foldl (fun acc token =>
      let (ps, verdicts, shifted) := acc
      let (ps, number, shifts) := ps.verdict x core f.1 (some token)
      (ps, addTokens number (TokenSet.single token) verdicts,
        if shifts then shifted ||| TokenSet.single token else shifted))
      (ps, verdicts, shifted)) start
  (ps,
    { follow, valid, blocked, verdicts
      isOpen := c.edges.map fun e =>
        !x.tables.productions.isToken e.symbol || shifted.has e.symbol })

/-- The number of a profile, which is made if it is new. -/
def intern (x : ProfileContext) (ps : Profiles) (pool : SetPool) (core : CoreId)
    (follow : Array SetId) : Profiles × Nat :=
  let key := follow.push core
  match ps.numbers[key]? with
  | some i => (ps, i)
  | none =>
    let (ps, p) := ps.make x core (follow.toList.map pool.set)
    let i := ps.all.size
    ({ ps with all := ps.all.push p, numbers := ps.numbers.insert key i }, i)

/-- The profiles of all variants: the profiles, and for each variant the number of its own. -/
def ofVariants (x : ProfileContext) (junctions : Array Junction) (vs : Variants) :
    Profiles × Array Nat :=
  let (ps, _, found) := vs.all.foldl (fun (acc : Profiles × SetPool × Array Nat) v =>
    let (ps, pool, found) := acc
    let finished := (junctions[v.core]?.getD default).finished
    let (pool, follow) := Channel.outlets finished pool v.follow #[]
    let (ps, i) := ps.intern x pool v.core follow
    (ps, pool, found.push i)) (({} : Profiles), vs.pool, #[])
  (ps, found)

end Profiles

/-! ## Tokens that must not meet -/

namespace Productions

/-- For each token the tokens that must not be added where it is valid, since they overlap it. The
word token and a keyword may meet. The end of the source counts as the first token of the grammar,
and nothing is kept away from it. -/
def blockers (p : Productions) (overlaps : Overlaps) : Array TokenSet :=
  let keywords := TokenSet.ofList (p.keywords.map Prod.snd)
  let first := ((List.range p.tokenCount).find? fun s =>
    (p.info s).token.isSome && (p.info s).order == 0).getD 0
  let mayMeet (a b : SymbolId) : Bool :=
    (p.word == some a && keywords.has b) || (p.word == some b && keywords.has a)
  (List.range p.tokenCount).foldl (fun acc s =>
    let row := overlaps.overlapping.getD (if s = endSymbol then first else s) 0
    row.members.foldl (fun (acc : Array TokenSet) t =>
      if mayMeet s t then acc else acc.modify t (· ||| TokenSet.single s)) acc)
    (Array.replicate p.tokenCount 0)

end Productions

/-! ## Groups -/

/-- The variants sorted into groups. -/
structure Grouping where
  /-- The group of each variant. -/
  groupOf : Array Nat
  groups : Array (List VariantId)
deriving Inhabited

namespace Grouping

/-- Splits a list into the members that stay together and the others, in the order in which they are
found to have to be kept apart from one that stays. -/
def divide (differ : VariantId → VariantId → Bool) : List VariantId →
    List VariantId × List VariantId
  | [] => ([], [])
  | v :: rest =>
    let parts := rest.partition (differ v)
    let (kept, moved) := divide differ parts.2
    (v :: kept, parts.1 ++ moved)
termination_by members => members.length
decreasing_by
  simp only [List.partition_eq_filter_filter, List.length_cons]
  exact Nat.lt_succ_of_le (List.length_filter_le _ _)

/-- Splits the groups from a number on, those that this makes included; tells whether there was
anything to split. -/
def split (differ : Array Nat → VariantId → VariantId → Bool) :
    (fuel : Nat) → (i : Nat) → Grouping → (changed : Bool) → Grouping × Bool
  | 0, _, g, changed => (g, changed)
  | fuel + 1, i, g, changed =>
    match g.groups[i]? with
    | none => (g, changed)
    | some members =>
      let (kept, moved) := divide (differ g.groupOf) members
      if moved.isEmpty then split differ fuel (i + 1) g changed
      else
        let n := g.groups.size
        split differ fuel (i + 1)
          { groupOf := moved.foldl (fun acc v => acc.setIfInBounds v n) g.groupOf
            groups := (g.groups.setIfInBounds i kept).push moved } true

/-- Splits all groups until nothing has to be kept apart any more. -/
def settle (differ : Array Nat → VariantId → VariantId → Bool) (count : Nat) :
    (fuel : Nat) → Grouping → Grouping
  | 0, g => g
  | fuel + 1, g =>
    let (g, changed) := split differ (2 * count) 0 g false
    if changed then settle differ count fuel g else g

/-- The variants sorted by their cores. -/
def byCore (coreCount : Nat) (vs : Variants) : Grouping :=
  let groups := vs.all.zipIdx.foldr (fun v (acc : Array (List VariantId)) =>
    acc.modify v.1.core (v.2 :: ·)) (Array.replicate coreCount [])
  { groupOf := vs.all.map Variant.core, groups }

/-- Does one of the first ways that both variants follow lead to different groups? -/
def leadsApart (groupOf : Array Nat) (a b : Array VariantId) (openA openB : Array Bool) :
    (count : Nat) → Bool
  | 0 => false
  | k + 1 =>
    let v := a.getD k 0
    let w := b.getD k 0
    (v != w && openA.getD k false && openB.getD k false && groupOf.getD v 0 != groupOf.getD w 0)
      || leadsApart groupOf a b openA openB k

/-- The groups of the variants that can be one state, given the profiles and for each variant the
number of its own. -/
def ofVariants (x : ProfileContext) (vs : Variants) (profiles : Array Profile)
    (profileOf : Array Nat) : Grouping :=
  let number (v : VariantId) : Nat := profileOf.getD v 0
  let profile (v : VariantId) : Profile := profiles.getD (number v) default
  let targets (v : VariantId) : Array VariantId := vs.targets.getD v #[]
  let tokenEdges := x.cores.map fun c =>
    (c.edges.filter fun e => x.tables.productions.isToken e.symbol).size
  let conflict (groupOf : Array Nat) (v w : VariantId) : Bool :=
    let a := profile v
    let b := profile w
    (number v != number w && a.conflicts b)
      || leadsApart groupOf (targets v) (targets w) a.isOpen b.isOpen
        (tokenEdges.getD (vs.all.getD v default).core 0)
  let apart (groupOf : Array Nat) (v w : VariantId) : Bool :=
    let ways := targets v
    leadsApart groupOf ways (targets w) (profile v).isOpen (profile w).isOpen ways.size
  let count := vs.all.size
  let (g, _) := split conflict (2 * count) 0 (byCore x.cores.size vs) false
  settle apart count count g

end Grouping

end CallAtlas.Syntax
