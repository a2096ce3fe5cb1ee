import CallAtlas.Syntax.TokenSet

/-!
# Items

An item is a place inside a production: some steps have been taken, the others are still to come.
Of the steps that were taken only that is remembered which can still matter: the names that they
give their children, and the precedence of the last one. Places between which nothing can tell any
more are the same item, so that productions share their ends.

The symbols of the steps that were taken matter only if one of them is a hidden rule below which
nodes stand in fields, for those are then fields of the node to be made.
-/

namespace CallAtlas.Syntax

/-- How the children of a finished production appear in a tree. -/
structure Shape where
  /-- The nonterminal. -/
  symbol : SymbolId
  /-- The number of children, not counting extras. -/
  count : Nat
  /-- The dynamic precedence of the node. -/
  dynamic : Int
  /-- The alias of each child. -/
  aliases : List (Option Alias)
  /-- The field name of each child. -/
  fields : List (Option String)
deriving DecidableEq, Hashable, Inhabited

/-- What is remembered of a step that was taken. -/
structure Taken where
  rename : Option Alias
  field : Option String
  /-- The symbol, if it can still matter. -/
  symbol : Option SymbolId
deriving DecidableEq, Hashable, Inhabited

/-- A place inside a production. -/
structure Item where
  owner : SymbolId
  /-- The dynamic precedence of the production. -/
  dynamic : Int
  /-- The steps before the place. -/
  taken : List Taken
  /-- The precedence of the step before the place. -/
  precedence : Precedence := .default
  /-- The associativity of the step before the place. -/
  assoc : Option Assoc := none
  /-- The steps behind the place. -/
  rest : List Step
deriving DecidableEq, Hashable, Inhabited

namespace Item

/-- The number of steps before the place. -/
def depth (i : Item) : Nat := i.taken.length

/-- Is the production finished? -/
def isFinished (i : Item) : Bool := i.rest.isEmpty

/-- The node of a finished production. -/
def shape (i : Item) : Shape :=
  { symbol := i.owner, count := i.depth, dynamic := i.dynamic
    aliases := i.taken.map Taken.rename, fields := i.taken.map Taken.field }

/-- The place inside a production behind a number of steps; `fielded` tells for which symbols their
nodes bring fields along. -/
def ofProduction (fielded : SymbolId → Bool) (owner : SymbolId) (p : Production) (depth : Nat) :
    Item :=
  let before := p.steps.take depth
  let keeps := before.any fun s => fielded s.symbol
  let last := before.getLast?
  { owner, dynamic := p.dynamic
    taken := before.map fun s =>
      { rename := s.rename, field := s.field, symbol := if keeps then some s.symbol else none }
    precedence := (last.map Step.precedence).getD .default
    assoc := last.bind Step.assoc
    rest := p.steps.drop depth }

end Item

/-- An item, by number. -/
abbrev ItemId := Nat

/-- An item with its number in a grammar's list and what follows it there. -/
structure Place where
  item : Item
  /-- The next symbol and the item behind it; none if the production is finished. -/
  onward : Option (SymbolId × ItemId) := none
deriving Inhabited

/-- The items of a grammar. -/
structure Items where
  places : Array Place := #[]
  numbers : Std.HashMap Item ItemId := {}

namespace Items

/-- The number of an item, which is added if it is new. -/
def intern (s : Items) (item : Item) (onward : Option (SymbolId × ItemId)) : Items × ItemId :=
  match s.numbers[item]? with
  | some i => (s, i)
  | none =>
    let i := s.places.size
    ({ places := s.places.push { item, onward }, numbers := s.numbers.insert item i }, i)

/-- Adds the items of a production, the last one first; the number of the first one. -/
def addProduction (fielded : SymbolId → Bool) (owner : SymbolId) (s : Items) (p : Production) :
    Items × ItemId :=
  let ending := s.intern (Item.ofProduction fielded owner p p.steps.length) none
  p.steps.zipIdx.foldr (fun step acc =>
    acc.1.intern (Item.ofProduction fielded owner p step.2) (some (step.1.symbol, acc.2))) ending

/-- Adds the productions of a nonterminal; the items at their beginnings. -/
def addRule (fielded : SymbolId → Bool) (owner : SymbolId) (s : Items) (ps : List Production) :
    Items × List ItemId :=
  let (s, found) := ps.foldl (fun (acc : Items × List ItemId) p =>
    let (s, i) := acc.1.addProduction fielded owner p
    (s, i :: acc.2)) (s, [])
  (s, found.reverse)

/-- Marks the nonterminals, by index, of which a production names a field, itself or through a
hidden nonterminal that is marked. -/
def markFielded (p : Productions) : (fuel : Nat) → Array Bool → Array Bool
  | 0, known => known
  | fuel + 1, known =>
    let next := p.bodies.mapIdx fun i ps =>
      known[i]?.getD false || ps.any fun q => q.steps.any fun s =>
        s.field.isSome
          || (s.rename.isNone && !(p.info s.symbol).visible && !p.isToken s.symbol
            && known[s.symbol - p.tokenCount]?.getD false)
    if next == known then known else markFielded p fuel next

/-- Does a hidden nonterminal have nodes in fields below it? -/
def isFielded (p : Productions) (marks : Array Bool) (s : SymbolId) : Bool :=
  !p.isToken s && !(p.info s).visible && marks[s - p.tokenCount]?.getD false

/-- The items of a grammar, and for each nonterminal those at the beginning of its productions. -/
def ofProductions (p : Productions) : Items × Array (List ItemId) :=
  let marks := markFielded p p.bodies.size (Array.replicate p.bodies.size false)
  let fielded := isFielded p marks
  p.bodies.zipIdx.foldl (fun (acc : Items × Array (List ItemId)) body =>
    let (s, roots) := acc.1.addRule fielded (p.tokenCount + body.2) body.1
    (s, acc.2.push roots)) ({}, #[])

end Items

end CallAtlas.Syntax
