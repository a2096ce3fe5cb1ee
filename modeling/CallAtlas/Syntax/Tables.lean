import CallAtlas.Syntax.Item

/-!
# What a grammar says about its items

Computed once per grammar: the items, the tokens that may come next at an item, and for each
nonterminal the nonterminals that may stand at its left end, with the tokens that may follow them
there. Precedences are compared by the levels and the orders of the grammar.
-/

namespace CallAtlas.Syntax

/-- A nonterminal at the left end of another one. -/
structure LeftEnd where
  symbol : SymbolId
  /-- The tokens that may follow it there. -/
  follow : TokenSet
  /-- May what follows the outer nonterminal also follow it? -/
  inherits : Bool
deriving Inhabited

/-- What an automaton needs to know of a grammar. -/
structure Tables where
  productions : Productions
  precedences : List (List Rank)
  places : Array Place
  /-- For each item the tokens that may come next, unless its production is finished. -/
  firsts : Array TokenSet
  /-- For each nonterminal the items at the beginning of its productions. -/
  roots : Array (List ItemId)
  /-- For each nonterminal the first symbols of its productions, and the items behind them. -/
  openings : Array (List (SymbolId × ItemId))
  /-- For each nonterminal the nonterminals at its left end, itself included. -/
  leftEnds : Array (List LeftEnd)
  /-- The tokens that may stand anywhere. -/
  extraSet : TokenSet
deriving Inhabited

namespace Tables

/-! ## First tokens -/

/-- The tokens that a symbol may begin with, given those of the nonterminals. -/
def firstOf (tokenCount : Nat) (firsts : Array TokenSet) (s : SymbolId) : TokenSet :=
  if s < tokenCount then TokenSet.single s else firsts[s - tokenCount]?.getD 0

/-- Improves the first tokens of every nonterminal until nothing changes. -/
def firstSets (tokenCount : Nat) (openings : Array (List (SymbolId × ItemId))) :
    (fuel : Nat) → Array TokenSet → Array TokenSet
  | 0, firsts => firsts
  | fuel + 1, firsts =>
    let next := (List.range firsts.size).foldl (fun (acc : Array TokenSet) i =>
      let set := (openings[i]?.getD []).foldl
        (fun s e => s ||| firstOf tokenCount acc e.1) (acc[i]?.getD 0)
      acc.setIfInBounds i set) firsts
    if next == firsts then firsts else firstSets tokenCount openings fuel next

/-! ## Left ends -/

/-- Follow tokens and inheritance of the nonterminals at the left end of one nonterminal, by
index; both 0 or false for a nonterminal that is not there. -/
structure Reach where
  present : Array Bool
  follow : Array TokenSet
  inherits : Array Bool

/-- Adds what the productions of one nonterminal say about those at their left end. The work
list holds nonterminals, by index, whose entry has changed. An opening is a nonterminal, the tokens
that may come behind it, and whether nothing need come. -/
def reachFrom (openings : Array (List (Nat × TokenSet × Bool))) :
    (fuel : Nat) → List Nat → Reach → Reach
  | 0, _, r => r
  | _ + 1, [], r => r
  | fuel + 1, i :: work, r =>
    let follow := r.follow[i]?.getD 0
    let inherits := r.inherits[i]?.getD false
    let (r, work) := (openings[i]?.getD []).foldl (fun (acc : Reach × List Nat) e =>
      let j := e.1
      let ends := e.2.2
      let oldFollow := acc.1.follow[j]?.getD 0
      let newFollow := oldFollow ||| e.2.1 ||| (if ends then follow else 0)
      let oldInherits := acc.1.inherits[j]?.getD false
      let newInherits := oldInherits || (ends && inherits)
      if acc.1.present[j]?.getD true && newFollow == oldFollow && newInherits == oldInherits then
        acc
      else
        ({ present := acc.1.present.setIfInBounds j true
           follow := acc.1.follow.setIfInBounds j newFollow
           inherits := acc.1.inherits.setIfInBounds j newInherits },
          if acc.2.contains j then acc.2 else acc.2 ++ [j])) (r, work)
    reachFrom openings fuel work r

/-- The nonterminals at the left end of one nonterminal. -/
def leftEndsOf (tokenCount : Nat) (openings : Array (List (Nat × TokenSet × Bool))) (i : Nat) :
    List LeftEnd :=
  let n := openings.size
  let start : Reach :=
    { present := (Array.replicate n false).setIfInBounds i true
      follow := Array.replicate n 0
      inherits := (Array.replicate n false).setIfInBounds i true }
  let r := reachFrom openings (n * 64 + 64) [i] start
  (List.range n).filterMap fun j =>
    if r.present[j]?.getD false then
      some { symbol := tokenCount + j, follow := r.follow[j]?.getD 0,
             inherits := r.inherits[j]?.getD false }
    else none

/-! ## The tables -/

/-- The tables of a grammar. A last nonterminal is added whose only production is the start
symbol; the item behind it accepts. -/
def ofGrammar (g : Grammar) : Tables :=
  let base := Productions.ofGrammar g
  let p : Productions :=
    { base with
      symbols := base.symbols.push { name := "start", named := true, visible := false }
      bodies := base.bodies.push [⟨[{ symbol := base.start }], 0⟩]
      auxiliary := base.auxiliary.push false }
  let (items, roots) := Items.ofProductions p
  let onward (i : ItemId) : Option (SymbolId × ItemId) := (items.places[i]?).bind Place.onward
  let openings := roots.map fun is => is.filterMap onward
  let bySymbol := firstSets p.tokenCount openings 1000 (Array.replicate p.bodies.size 0)
  let firsts := items.places.map fun place =>
    match place.onward with
    | some e => firstOf p.tokenCount bySymbol e.1
    | none => 0
  let nonterminals := openings.map fun es => es.filterMap fun e =>
    if e.1 < p.tokenCount then none
    else some (e.1 - p.tokenCount, firsts[e.2]?.getD 0, (onward e.2).isNone)
  { productions := p
    precedences := g.precedences
    places := items.places
    firsts, roots, openings
    leftEnds := (Array.range p.bodies.size).map (leftEndsOf p.tokenCount nonterminals)
    extraSet := TokenSet.ofList p.extras }

/-! ## Views -/

/-- An item by number. -/
def item (t : Tables) (i : ItemId) : Item := (t.places[i]?.getD default).item

/-- The next symbol at an item and the item behind it; none if the production is finished. -/
def onward (t : Tables) (i : ItemId) : Option (SymbolId × ItemId) := (t.places[i]?).bind Place.onward

/-- The tokens that may come next at an item, unless its production is finished. -/
def firstAt (t : Tables) (i : ItemId) : TokenSet := t.firsts[i]?.getD 0

/-- The items at the beginning of a nonterminal's productions. -/
def rootsOf (t : Tables) (s : SymbolId) : List ItemId :=
  t.roots[s - t.productions.tokenCount]?.getD []

/-- The nonterminal whose end accepts the text. -/
def accepting (t : Tables) : SymbolId := t.productions.tokenCount + t.productions.bodies.size - 1

/-! ## Precedence -/

/-- Does an entry of an order of precedences stand for a precedence of some nonterminals? -/
def rankMatches (t : Tables) (entry : Rank) (p : Precedence) (owners : List SymbolId) : Bool :=
  match entry with
  | .named n => p == .named n
  | .rule n =>
    match owners with
    | [s] => (t.productions.info s).name == n
    | _ => false

/-- Compares two precedences in one order, given which of them were seen before. -/
def compareIn (t : Tables) (left : Precedence) (leftOwners : List SymbolId)
    (right : Precedence) (rightOwners : List SymbolId) :
    (sawLeft sawRight : Bool) → List Rank → Option Ordering
  | _, _, [] => none
  | sawLeft, sawRight, entry :: rest =>
    if t.rankMatches entry left leftOwners then
      if sawRight then some .lt
      else compareIn t left leftOwners right rightOwners true sawRight rest
    else if t.rankMatches entry right rightOwners then
      if sawLeft then some .gt
      else compareIn t left leftOwners right rightOwners sawLeft true rest
    else compareIn t left leftOwners right rightOwners sawLeft sawRight rest

/-- Compares the precedences of two constructs. Levels compare with each other, an absent one
counting as zero; everything else compares by the grammar's orders. -/
def comparePrecedence (t : Tables) (left : Precedence) (leftOwners : List SymbolId)
    (right : Precedence) (rightOwners : List SymbolId) : Ordering :=
  let ranked :=
    (t.precedences.findSome? (compareIn t left leftOwners right rightOwners false false)).getD .eq
  match left, right with
  | .level l, .level r => if l == 0 && r == 0 then ranked else compare l r
  | .level l, .default => if l == 0 then ranked else compare l 0
  | .default, .level r => if r == 0 then ranked else compare 0 r
  | _, _ => ranked

end Tables

end CallAtlas.Syntax
