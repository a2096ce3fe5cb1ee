import CallAtlas.Syntax.LexToken

/-!
# Tokens that get into each other's way

If two tokens are both possible at a place, the lexer may find the one where it would have found the
other. A token *overlaps* another one if it can be found in its stead:

* it matches a text that the other one matches as well, and is preferred;
* it goes on from a text of the other one with a character that may follow the other one;
* it matches a text of separators.

It *outlasts* the other one if it overlaps it by more than a common text, and the other one matches no
text of separators.

Two tokens *touch* if one of them overlaps the other one, or is finished at a place where the other
one could go on. If it is preferred there nevertheless, it *cuts off* the other one.

Two tokens are compared by matching both side by side, after each text with which both can go on. One
code point stands for all that no pattern of the grammar tells apart from it.
-/

namespace CallAtlas.Syntax

/-! ## Representatives -/

/-- The code points at which sets of a kind begin, and those behind their ends. -/
def CharSet.bounds : CharSet → List Nat
  | .range first last => [first, last + 1]
  | .union a b => a.bounds ++ b.bounds
  | .complement a => a.bounds
  | _ => []

/-- The character sets of a pattern. -/
def Pattern.charSets : Pattern → List CharSet
  | .never => []
  | .empty => []
  | .set s => [s]
  | .andThen a b => a.charSets ++ b.charSets
  | .either a b => a.charSets ++ b.charSets
  | .star a => a.charSets

namespace Overlap

/-- Code points outside ASCII of all kinds that the properties of code points tell apart: letters, a
character that only continues identifiers, spaces, line ends and signs. -/
def probes : List Nat := [0xAA, 0xB5, 0xB7, 0xA0, 0xD7, 0x3B1, 0x2003, 0x2028, 0x2029, 0xFEFF, 0x1F600]

/-- One code point of each kind that some sets tell apart. -/
def representatives (sets : List CharSet) : List Nat :=
  let candidates := (1 :: probes ++ sets.flatMap CharSet.bounds).filter fun c =>
    0 < c && c ≤ 0x10FFFF
  (candidates.foldl (fun (acc : Std.HashSet (List Bool) × List Nat) c =>
    let kind := sets.map fun s => s.contains c
    if acc.1.contains kind then acc else (acc.1.insert kind, c :: acc.2)) ({}, [])).2.reverse

/-! ## Matching two tokens side by side -/

/-- How far a token has come after a text. -/
structure Front where
  /-- What is left of the separators before the token. -/
  separators : Pattern
  /-- What is left of the token, if it has begun. -/
  rest : Pattern
deriving DecidableEq

namespace Front

/-- A token at its place, behind separators unless it is immediate. -/
def start (separators : Pattern) (t : LexToken) : Front :=
  if t.immediate then ⟨.never, t.pattern⟩ else ⟨separators, .never⟩

/-- The token after one more code point. -/
def advance (t : LexToken) (c : Nat) (f : Front) : Front :=
  let begun := if f.separators.nullable then t.pattern.derivative c else .never
  ⟨f.separators.derivative c, Pattern.mkEither (f.rest.derivative c) begun⟩

/-- Can the token no longer be found? -/
def isOver (f : Front) : Bool := f.separators = .never && f.rest = .never

end Front

/-- A token with what the comparison needs to know of it. -/
structure Rival where
  token : LexToken
  /-- May a token that begins with the code point follow it? -/
  isFollowedBy : Nat → Bool

/-- What is found when two tokens are compared. -/
structure Findings where
  /-- Does the left one overlap the right one? -/
  left : Bool := false
  /-- Does the right one overlap the left one? -/
  right : Bool := false
  /-- Does the left one match a text of separators? -/
  leftSeparates : Bool := false
  /-- Does the right one match a text of separators? -/
  rightSeparates : Bool := false
  /-- Does the left one go on from a text of the right one? -/
  leftGoesOn : Bool := false
  /-- Does the right one go on from a text of the left one? -/
  rightGoesOn : Bool := false
  /-- Does the left one cut off the right one? -/
  leftCuts : Bool := false
  /-- Does the right one cut off the left one? -/
  rightCuts : Bool := false
  /-- Do they touch? -/
  touch : Bool := false

/-- Does a token that is finished give way to another one, which alone goes on to a front? `within`
tells whether separators could go on as well. -/
def givesWay (finished other : LexToken) (next : Front) (within : Bool) : Bool :=
  let onlySeparators := next.rest = .never
  let rank := if onlySeparators then 0
    else if next.separators = .never then other.rank else max other.rank 0
  if rank != finished.rank then finished.rank < rank else !onlySeparators && !within

/-- Looks at two tokens after a text: adds what is found there, and the places to look at next. -/
def look (chars : List Nat) (a b : Rival) (fa fb : Front) (work : List (Front × Front))
    (found : Findings) : List (Front × Front) × Findings :=
  let within := fa.separators != .never || fb.separators != .never
  let endsA := fa.rest.nullable
  let endsB := fb.rest.nullable
  let prefersA := a.token.isPreferred b.token
  let left := endsA && (within || (endsB && prefersA))
  let right := endsB && (within || (endsA && !prefersA))
  let bestA := endsA && (!endsB || prefersA)
  let bestB := endsB && !bestA
  let here : Findings :=
    { found with
      left := found.left || left
      right := found.right || right
      leftSeparates := found.leftSeparates || (endsA && within)
      rightSeparates := found.rightSeparates || (endsB && within)
      touch := found.touch || left || right }
  chars.foldl (fun acc c =>
    let nextA := fa.advance a.token c
    let nextB := fb.advance b.token c
    let (work, found) := acc
    match nextA.isOver, nextB.isOver with
    | false, false => ((nextA, nextB) :: work, found)
    -- Only the second token goes on: the first one gives way to it, or cuts it off.
    | true, false =>
      if !bestA then acc
      else if givesWay a.token b.token nextB within then
        let goesOn := a.isFollowedBy c
        (work,
          { found with
            right := found.right || goesOn
            rightGoesOn := found.rightGoesOn || goesOn
            touch := true })
      else (work, { found with leftCuts := true, touch := true })
    -- The same the other way round.
    | false, true =>
      if !bestB then acc
      else if givesWay b.token a.token nextA within then
        let goesOn := b.isFollowedBy c
        (work,
          { found with
            left := found.left || goesOn
            leftGoesOn := found.leftGoesOn || goesOn
            touch := true })
      else (work, { found with rightCuts := true, touch := true })
    | true, true => acc) (work, here)

/-- Looks at two tokens at all places that can be come to. -/
def explore (chars : List Nat) (a b : Rival) :
    (fuel : Nat) → List (Front × Front) → (seen : List (Front × Front)) → Findings → Findings
  | 0, _, _, found => found
  | _ + 1, [], _, found => found
  | fuel + 1, f :: work, seen, found =>
    if seen.contains f then explore chars a b fuel work seen found
    else
      let (work, found) := look chars a b f.1 f.2 work found
      explore chars a b fuel work (f :: seen) found

/-- More places than any two tokens come to together. -/
def mostPlaces : Nat := 100000

/-- Compares two tokens behind separators. -/
def compare (chars : List Nat) (separators : Pattern) (a b : Rival) : Findings :=
  explore chars a b mostPlaces [(.start separators a.token, .start separators b.token)] [] {}

/-- Compares two tokens that do not begin like separators. -/
def compareBegun (chars : List Nat) (a b : Rival) : Findings :=
  explore chars a b mostPlaces [(⟨.never, a.token.pattern⟩, ⟨.never, b.token.pattern⟩)] [] {}

end Overlap

/-! ## All tokens of a grammar -/

/-- How the tokens of a grammar get into each other's way. -/
structure Overlaps where
  /-- For each token the tokens that it overlaps. -/
  overlapping : Array TokenSet
  /-- For each token the tokens that it cuts off. -/
  cuttingOff : Array TokenSet
  /-- For each token the tokens that it touches. -/
  touching : Array TokenSet
  /-- For each token the tokens that it outlasts. -/
  outlasting : Array TokenSet
deriving Inhabited

namespace Overlaps

/-- The tokens of a grammar before any two of them are compared. -/
def empty (count : Nat) : Overlaps :=
  let none : Array TokenSet := Array.replicate count 0
  ⟨none, none, none, none⟩

/-- Adds a token to the set of another one. -/
def addTo (sets : Array TokenSet) (s t : SymbolId) (isThere : Bool) : Array TokenSet :=
  if isThere then sets.modify s (· ||| TokenSet.single t) else sets

/-- Adds what was found about two tokens. -/
def add (o : Overlaps) (i j : SymbolId) (f : Overlap.Findings) : Overlaps :=
  { overlapping := addTo (addTo o.overlapping i j f.left) j i f.right
    cuttingOff := addTo (addTo o.cuttingOff i j f.leftCuts) j i f.rightCuts
    touching := addTo (addTo o.touching i j f.touch) j i f.touch
    outlasting :=
      addTo
        (addTo o.outlasting i j ((f.leftGoesOn || f.leftSeparates) && !f.rightSeparates))
        j i ((f.rightGoesOn || f.rightSeparates) && !f.leftSeparates) }

end Overlaps

namespace Productions

/-- The tokens of the grammar with which each symbol may begin, or end if `last` is set. -/
def edgeTokens (p : Productions) (last : Bool) : (fuel : Nat) → Array TokenSet → Array TokenSet
  | 0, sets => sets
  | fuel + 1, sets =>
    let next := (List.range p.bodies.size).foldl (fun (acc : Array TokenSet) i =>
      let set := (p.bodies[i]?.getD []).foldl (fun s q =>
        match if last then q.steps.getLast? else q.steps.head? with
        | some step => s ||| acc[step.symbol]?.getD 0
        | none => s) (acc[p.tokenCount + i]?.getD 0)
      acc.setIfInBounds (p.tokenCount + i) set) sets
    if next == sets then sets else edgeTokens p last fuel next

/-- Each token by itself, and nothing for the nonterminals. -/
def ownTokens (p : Productions) : Array TokenSet :=
  (Array.range p.symbols.size).map fun s => if p.isToken s then TokenSet.single s else 0

/-- For each token the tokens of the grammar that may follow it. -/
def followers (p : Productions) : Array TokenSet :=
  let matched := TokenSet.ofList ((List.range p.tokenCount).filter fun s =>
    (p.info s).token.isSome)
  let firsts := p.edgeTokens false p.bodies.size p.ownTokens
  let lasts := p.edgeTokens true p.bodies.size p.ownTokens
  -- what may follow a symbol inside productions
  let behind := p.bodies.foldl (fun (acc : Array TokenSet) ps =>
    ps.foldl (fun acc q =>
      (q.steps.zip q.steps.tail).foldl (fun acc pair =>
        acc.modify pair.1.symbol (· ||| firsts[pair.2.symbol]?.getD 0)) acc) acc)
    (Array.replicate p.symbols.size 0)
  let extras := TokenSet.ofList (p.extras.filter p.isToken)
  let inside := (List.range p.symbols.size).foldl (fun (acc : Array TokenSet) s =>
    (TokenSet.members (lasts[s]?.getD 0)).foldl (fun acc t =>
      acc.modify t (· ||| behind[s]?.getD 0)) acc) (Array.replicate p.tokenCount extras)
  inside.mapIdx fun t set => if extras.has t then matched else set &&& matched

/-- How the tokens of the grammar get into each other's way. -/
def overlaps (p : Productions) (separator : Pattern) : Overlaps :=
  let tokens := p.lexTokens
  let token (s : SymbolId) : LexToken := (tokens[s]?.join).getD default
  let separators := Pattern.many separator
  let patterns := separators :: (tokens.toList.filterMap id).map LexToken.pattern
  let chars := Overlap.representatives ((patterns.flatMap Pattern.charSets).eraseDups)
  let followers := p.followers
  let opens (s : SymbolId) (c : Nat) : Bool :=
    (token s).pattern.opensWith c || (!(token s).immediate && separators.opensWith c)
  let rival (s : SymbolId) : Overlap.Rival :=
    { token := token s
      isFollowedBy := fun c => (TokenSet.members (followers[s]?.getD 0)).any fun u => opens u c }
  -- the code points with which each token begins, as a bit set
  let bits (test : Nat → Bool) : Nat :=
    chars.zipIdx.foldl (fun set c => if test c.1 then set ||| 1 <<< c.2 else set) 0
  let openers := tokens.map fun t => bits fun c => (t.map fun t => t.pattern.opensWith c).getD false
  let separating := bits separators.opensWith
  let opener (s : SymbolId) : Nat := openers[s]?.getD 0
  let isApart (s : SymbolId) : Bool := opener s &&& separating == 0
  let compared := (List.range p.tokenCount).filter fun s => (tokens[s]?.join).isSome
  compared.foldl (fun acc i => compared.foldl (fun (acc : Overlaps) j =>
    if i ≤ j || (isApart i && isApart j && opener i &&& opener j == 0) then acc
    else if isApart i && isApart j then
      acc.add i j (Overlap.compareBegun chars (rival i) (rival j))
    else acc.add i j (Overlap.compare chars separators (rival i) (rival j))) acc)
    (Overlaps.empty p.tokenCount)

end Productions

end CallAtlas.Syntax
