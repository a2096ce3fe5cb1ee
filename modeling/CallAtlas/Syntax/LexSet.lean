import CallAtlas.Syntax.Overlap

/-!
# What the lexer looks for

In a state the lexer may look for more tokens than the state can use: states share the set of tokens
that is looked for, as long as no token gets into the way of another one by that. What is found may
then be of no use in the state, which is an error in the text like any other.

Two sets of tokens can be joined if no token that only one of them has

* overlaps or cuts off a token of the other one,
* touches a token of the other one, unless there is a place where both are possible.

The states are looked at from the one with the most ways on. The tokens of each one join the first
set that they can be joined with.

After a syntax error the lexer looks for any token of the grammar. Some tokens are left out, since
they match nearly any text: a token is *distinct* if it outlasts no token but those in whose company
it can be used, and what overlaps a distinct token that is none of its company is not looked for. The
word token and the keywords are always looked for, and so are the tokens of the scanner.
-/

namespace CallAtlas.Syntax

/-- For each token those that can be used at a place where it can be used. -/
abbrev Companions := Array TokenSet

/-- The companions, given the tokens that can be used at each place. -/
def Companions.ofSets (count : Nat) (valid : List TokenSet) : Companions :=
  valid.foldl (fun acc set =>
    set.members.foldl (fun (acc : Array TokenSet) t => acc.modify t (· ||| set)) acc)
    (Array.replicate count 0)

namespace Productions

/-- The tokens that outlast none but their companions. -/
def distinctTokens (p : Productions) (o : Overlaps) (companions : Companions) : TokenSet :=
  TokenSet.ofList ((List.range p.tokenCount).filter fun s =>
    (p.info s).token.isSome
      && ((o.outlasting.getD s 0).without (companions.getD s 0 ||| TokenSet.single s)) == 0)

/-- The tokens that error recovery looks for. -/
def sought (p : Productions) (o : Overlaps) (companions : Companions) : TokenSet :=
  let distinct := p.distinctTokens o companions
  let words := TokenSet.ofList (p.word.toList ++ p.keywords.map Prod.snd)
  TokenSet.ofList ((List.range p.tokenCount).filter fun s =>
    (distinct ||| words).has s
      || ((o.overlapping.getD s 0 &&& distinct).without (companions.getD s 0)) == 0)

end Productions

/-- The sets of tokens that are looked for together. -/
structure LexSets where
  sets : Array TokenSet := #[]
  /-- The set that the tokens of a state have joined. -/
  joined : Std.HashMap TokenSet Nat := {}
deriving Inhabited

namespace LexSets

/-- For each token those that must not be looked for in its company. -/
def excluded (o : Overlaps) (companions : Companions) : Array TokenSet :=
  companions.mapIdx fun t set =>
    o.overlapping.getD t 0 ||| o.cuttingOff.getD t 0 ||| (o.touching.getD t 0).without set

/-- Can two sets of tokens be looked for together? -/
def canJoin (excluded : Array TokenSet) (a b : TokenSet) : Bool :=
  ((a.without b).members.all fun t => excluded.getD t 0 &&& b == 0)
    && (b.without a).members.all fun t => excluded.getD t 0 &&& a == 0

/-- Lets the tokens of a state join a set. -/
def add (excluded : Array TokenSet) (l : LexSets) (tokens : TokenSet) : LexSets :=
  if l.joined.contains tokens then l
  else
    match l.sets.findIdx? fun set => canJoin excluded set tokens with
    | some i =>
      { sets := l.sets.modify i (· ||| tokens), joined := l.joined.insert tokens i }
    | none =>
      { sets := l.sets.push tokens, joined := l.joined.insert tokens l.sets.size }

/-- The set that the tokens of a state have joined. -/
def setOf (l : LexSets) (tokens : TokenSet) : TokenSet :=
  match l.joined[tokens]? with
  | some i => l.sets.getD i tokens
  | none => tokens

end LexSets

end CallAtlas.Syntax
