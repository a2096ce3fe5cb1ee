import CallAtlas.Syntax.Tables

/-!
# The vocabulary of a grammar

What can be said about the trees of a grammar: the kinds that their nodes can have and the names of
their fields. Only the symbols count that can turn up when a text is read: those below the start
symbol, those that may stand anywhere, the scanner's, and the tokens that error recovery looks for.
-/

namespace CallAtlas.Syntax

/-- What can be said about the trees of a grammar. -/
structure Vocabulary where
  tables : Tables
  /-- The symbols that can turn up. -/
  present : List SymbolId
  /-- The steps of the rules that can turn up. -/
  steps : List Step
  /-- The names of the hidden rules that stand for several kinds. -/
  supertypes : List String

namespace Vocabulary

/-- The symbols in the productions of a symbol. -/
def symbolsBelow (p : Productions) (s : SymbolId) : List SymbolId :=
  if p.isToken s then []
  else (p.productionsOf s).flatMap fun q => q.steps.map fun step => step.symbol

/-- Marks the symbols below those on the work list. -/
def mark (p : Productions) : (fuel : Nat) → (work : List SymbolId) → Array Bool → Array Bool
  | 0, _, seen => seen
  | _ + 1, [], seen => seen
  | fuel + 1, s :: work, seen =>
    let (work, seen) := (symbolsBelow p s).foldl (fun (acc : List SymbolId × Array Bool) n =>
      if acc.2[n]?.getD true then acc else (n :: acc.1, acc.2.setIfInBounds n true)) (work, seen)
    mark p fuel work seen

/-- The symbols that can turn up when a text is read, given the tokens that error recovery looks
for. -/
def presentIn (p : Productions) (sought : TokenSet) : List SymbolId :=
  let roots := p.start :: (p.extras ++ p.externals ++ sought.members)
  let seen := roots.foldl (fun (acc : Array Bool) s => acc.setIfInBounds s true)
    (Array.replicate p.symbols.size false)
  let seen := mark p (p.symbols.size + roots.length + 1) roots seen
  (List.range p.symbols.size).filter fun s => seen[s]?.getD false

/-- The vocabulary of a grammar, given the tokens that error recovery looks for. -/
def ofTables (tables : Tables) (sought : TokenSet) : Vocabulary :=
  let p := tables.productions
  let present := presentIn p sought
  let rules := present.filter fun s => !p.isToken s
  let steps := rules.flatMap fun s => (p.productionsOf s).flatMap Production.steps
  { tables, present, steps
    supertypes := (p.supertypes.filter present.contains).map fun s => (p.info s).name }

/-- The productions of the grammar. -/
def productions (v : Vocabulary) : Productions := v.tables.productions

/-- The kind of the nodes of errors. -/
def errorKind : String := "ERROR"

/-- Does a name stand for errors? Every opening part of the name of their kind does. -/
def namesError (name : String) : Bool := name.toList.isPrefixOf errorKind.toList

/-- Is there a node of a kind? -/
def hasKind (v : Vocabulary) (kind : Alias) : Bool :=
  v.present.any (fun s => v.productions.kindOf? s == some kind)
    || v.steps.any fun s => s.rename == some kind

/-- Is there a hidden rule of a name that stands for several kinds? -/
def hasSupertype (v : Vocabulary) (name : String) : Bool := v.supertypes.contains name

/-- Is there a field of a name? -/
def hasField (v : Vocabulary) (name : String) : Bool :=
  v.steps.any fun s => s.field == some name

/-- The rules whose nodes can have a kind. -/
def rulesOf (v : Vocabulary) (kind : Alias) : List SymbolId :=
  let renamed := v.steps.filterMap fun step =>
    if step.rename == some kind then some step.symbol else none
  v.present.filter fun s =>
    !v.productions.isToken s && (v.productions.kindOf? s == some kind || renamed.contains s)

end Vocabulary

end CallAtlas.Syntax
