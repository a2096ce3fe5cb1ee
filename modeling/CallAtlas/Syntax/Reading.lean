import CallAtlas.Syntax.Lexer
import CallAtlas.Syntax.Tree

/-!
# Readings

While a text is parsed, the tokens and nodes found so far are *readings* of stretches of the
text. A reading carries what choosing between alternatives needs: the cost of the errors in
it, its dynamic precedence and how many nodes of it can be seen.

Skipped text costs by character, by line and by visible node; every error and every supplied
token has a cost of its own.
-/

namespace CallAtlas.Syntax

/-- The symbol of text that no rule accounts for. -/
def errorSymbol : SymbolId := 65535

/-- The symbol of text that is being skipped. -/
def skippedSymbol : SymbolId := 65534

/-- The costs of errors. -/
structure Costs where
  /-- Entering error recovery. -/
  recovery : Nat := 500
  /-- Supplying a token that the text lacks. -/
  missing : Nat := 110
  /-- Skipping a visible node. -/
  node : Nat := 100
  /-- Skipping a code unit. -/
  unit : Nat := 2
  /-- Skipping a line break. -/
  line : Nat := 30

/-- The costs of errors, as the parser counts them. -/
def costs : Costs := {}

/-- What a reading says of itself, without its children. -/
structure ReadingInfo where
  symbol : SymbolId
  /-- The offset of the separators before the text. -/
  before : Nat
  start : Nat
  stop : Nat
  /-- The reading may stand anywhere and is no child of a production. -/
  extra : Bool := false
  missing : Bool := false
  keyword : Bool := false
  visible : Bool
  named : Bool
  errorCost : Nat := 0
  dynamic : Int := 0
  /-- The number of children that are seen, those of hidden children included. -/
  visibleChildren : Nat := 0
  visibleDescendants : Nat := 0
  childCount : Nat := 0
  aliases : List (Option Alias) := []
  fields : List (Option String) := []
  /-- For a scanner's token, what the scanner remembers after it. -/
  memory : Option Memory := none
  /-- A scanner's token in it changed what the scanner remembers. -/
  changed : Bool := false
deriving Inhabited

/-- A token or a node that was found in the text. -/
inductive Reading where
  | mk (info : ReadingInfo) (children : List Reading)
deriving Inhabited

namespace Reading

/-- What the reading says of itself. -/
def info : Reading → ReadingInfo
  | mk i _ => i

/-- The parts of the reading. -/
def children : Reading → List Reading
  | mk _ cs => cs

/-- Is the reading text that no rule accounts for? -/
def isError (r : Reading) : Bool := r.info.symbol == errorSymbol

/-- The length with the separators before it. -/
def width (r : Reading) : Nat := r.info.stop - r.info.before

/-- What the scanner remembers after the reading, for the comparison of tokens. -/
def scannerMemory (r : Reading) : Memory := r.info.memory.getD []

/-- The number of nodes that can be seen. Skipped text counts too: it is progress. -/
def nodeCount (r : Reading) : Nat :=
  r.info.visibleDescendants + (if r.info.visible then 1 else 0)
    + (if r.info.symbol == skippedSymbol then 1 else 0)

/-- Changes whether the reading is an extra. -/
def setExtra (r : Reading) (extra : Bool) : Reading :=
  match r with
  | mk i cs => mk { i with extra } cs

/-- Is the symbol seen in trees, even where it is not renamed? Symbols that are renamed
wherever they stand are. -/
abbrev Visibility := SymbolId → Bool × Bool

/-- A token of the text. -/
def ofLexeme (visibility : Visibility) (l : Lexeme) : Reading :=
  let symbol := l.symbol.getD errorSymbol
  let (visible, named) := visibility symbol
  mk { symbol, before := l.before, start := l.start, stop := l.stop, keyword := l.keyword
       visible, named, memory := l.memory, changed := l.changed } []

/-- A token that the text lacks. -/
def supplied (visibility : Visibility) (symbol : SymbolId) (offset : Nat) : Reading :=
  let (visible, named) := visibility symbol
  mk { symbol, before := offset, start := offset, stop := offset, missing := true, visible, named
       errorCost := costs.missing + costs.recovery } []

/-- What the children of a node add up to. -/
structure Sum where
  cost : Nat := 0
  dynamic : Int := 0
  visibleChildren : Nat := 0
  visibleDescendants : Nat := 0
  changed : Bool := false
  aliases : List (Option Alias)

/-- Adds a child. -/
def Sum.add (skipping : Bool) (s : Sum) (r : Reading) : Sum :=
  let c := r.info
  let skippedNodes :=
    if skipping && !c.extra && !(r.isError && c.childCount == 0) then
      if c.visible then 1 else if c.childCount > 0 then c.visibleChildren else 0
    else 0
  let renamed := !c.extra && (s.aliases.head?.getD none).isSome
  let seen := renamed || c.visible
  { cost := s.cost + (if c.symbol == skippedSymbol then 0 else c.errorCost)
      + costs.node * skippedNodes
    dynamic := s.dynamic + c.dynamic
    visibleChildren := s.visibleChildren
      + (if seen then 1 else if c.childCount > 0 then c.visibleChildren else 0)
    visibleDescendants := s.visibleDescendants + c.visibleDescendants + (if seen then 1 else 0)
    changed := s.changed || c.changed
    aliases := if c.extra then s.aliases else s.aliases.drop 1 }

/-- A node over readings that stand next to each other; `offset` is its place if it has none. -/
def node (source : Source) (visibility : Visibility) (shape : Shape) (offset : Nat)
    (children : List Reading) : Reading :=
  let skipping := shape.symbol == errorSymbol || shape.symbol == skippedSymbol
  let (visible, named) := visibility shape.symbol
  let before := (children.head?.map fun c => c.info.before).getD offset
  let start := (children.head?.map fun c => c.info.start).getD offset
  let stop := (children.getLast?.map fun c => c.info.stop).getD offset
  let sum := children.foldl (Sum.add skipping) { aliases := shape.aliases }
  let lines := (source.point stop).row - (source.point start).row
  let own :=
    if skipping then costs.recovery + costs.unit * (stop - start) + costs.line * lines else 0
  mk { symbol := shape.symbol, before, start, stop, visible, named
       errorCost := sum.cost + own
       dynamic := sum.dynamic + shape.dynamic
       visibleChildren := sum.visibleChildren
       visibleDescendants := sum.visibleDescendants
       childCount := children.length
       aliases := shape.aliases, fields := shape.fields
       changed := sum.changed } children

/-- The shape of a node for text that no rule accounts for. -/
def errorShape (symbol : SymbolId) : Shape :=
  { symbol, count := 0, dynamic := 0, aliases := [], fields := [] }

mutual

/-- Orders readings by symbol, then by the number of parts, then part by part. -/
def compareTo : Reading → Reading → Ordering
  | mk a as, mk b bs =>
    (compare a.symbol b.symbol).then
      ((compare a.childCount b.childCount).then (compareAll as bs))

/-- Orders lists of readings of the same length. -/
def compareAll : List Reading → List Reading → Ordering
  | a :: as, b :: bs => (compareTo a b).then (compareAll as bs)
  | _, _ => .eq

end

/-- Is the second of two readings of the same text to be taken? The one with fewer errors is,
then the one of higher dynamic precedence, then the one that comes first in the order. -/
def prefersSecond (left right : Reading) : Bool :=
  let l := left.info
  let r := right.info
  if r.errorCost != l.errorCost then r.errorCost < l.errorCost
  else if r.dynamic != l.dynamic then l.dynamic < r.dynamic
  else if l.errorCost > 0 then true
  else left.compareTo right == .gt

/-! ## Trees -/

mutual

/-- Is a token missing in the reading, or in parts of it, without a node to show for it? -/
def lacksToken (renamed : Bool) : Reading → Bool
  | mk i cs => !(i.visible || renamed) && (i.missing || partsLackToken i.aliases cs)

/-- Is a token missing in parts of a reading without a node to show for it? -/
def partsLackToken (aliases : List (Option Alias)) : List Reading → Bool
  | [] => false
  | c :: cs =>
    if c.info.extra then lacksToken false c || partsLackToken aliases cs
    else
      lacksToken (aliases.head?.getD none).isSome c || partsLackToken (aliases.drop 1) cs

end

mutual

/-- The nodes that a reading gives in a tree, before those that come after it: one if it is visible
or renamed, otherwise those of its parts. -/
def toTrees (source : Source) (name : SymbolId → String) (rename : Option Alias)
    (fields : List String) (after : List Tree) : Reading → List Tree
  | mk i cs =>
    if i.visible || rename.isSome then
      Syntax.Tree.node
        { kind := match rename with
            | some a => a.kind
            | none => name i.symbol
          named := match rename with
            | some a => a.named
            | none => i.named
          missing := i.missing
          lacking := i.errorCost != 0 && partsLackToken i.aliases cs
          fields
          start := i.start
          stop := i.stop
          startPoint := source.point i.start
          stopPoint := source.point i.stop }
        (partsToTrees source name [] i.aliases i.fields [] cs) :: after
    else partsToTrees source name fields i.aliases i.fields after cs

/-- The nodes of the parts of a reading, all of which carry the given field names, before those that
come after the reading. -/
def partsToTrees (source : Source) (name : SymbolId → String) (outer : List String)
    (aliases : List (Option Alias)) (fields : List (Option String)) (after : List Tree) :
    List Reading → List Tree
  | [] => after
  | c :: cs =>
    if c.info.extra then
      toTrees source name none outer (partsToTrees source name outer aliases fields after cs) c
    else
      toTrees source name (aliases.head?.getD none)
        (outer ++ (fields.head?.getD none).toList)
        (partsToTrees source name outer (aliases.drop 1) (fields.drop 1) after cs) c

end

end Reading

end CallAtlas.Syntax
