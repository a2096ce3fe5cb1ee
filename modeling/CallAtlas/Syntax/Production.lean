import CallAtlas.Syntax.Rule
import Std.Data.HashMap
import Std.Data.HashSet.Basic

/-!
# Productions

A grammar is brought into the plain form that the parsing automaton works on: numbered
symbols, and for every nonterminal a list of productions, each a sequence of steps.

* Tokens are collected from the rules in the order of the text. A rule that is nothing but a
  token used nowhere else gives the token its name.
* A repetition becomes an auxiliary nonterminal `r → r r | x`, shared between equal
  repetitions.
* Choices are multiplied out. A step carries the precedence, the associativity, the alias and
  the field name of the constructs around it; the last step of an inner construct that is
  followed by something falls back to the precedence around it.
* Inlined nonterminals are replaced by their productions.

Symbols are numbered: the end of the source, the word token, the other tokens, the tokens of
the outside scanner, the nonterminals.
-/

namespace CallAtlas.Syntax

/-- A symbol of a compiled grammar, by number. -/
abbrev SymbolId := Nat

/-- The end of the source. -/
def endSymbol : SymbolId := 0

/-- What a symbol looks like in a tree. -/
structure SymbolInfo where
  name : String
  named : Bool
  /-- Hidden symbols have no node of their own. -/
  visible : Bool
  /-- The token's definition, for a token of the grammar. -/
  token : Option TokenRule := none
  /-- The place of a token among the tokens in the order of their first use. -/
  order : Nat := 0
deriving Inhabited

/-- One step of a production. -/
structure Step where
  symbol : SymbolId
  precedence : Precedence := .default
  assoc : Option Assoc := none
  rename : Option Alias := none
  field : Option String := none
deriving DecidableEq, Hashable, Inhabited

/-- The right-hand side of a production. -/
structure Production where
  steps : List Step
  /-- The dynamic precedence of the node. -/
  dynamic : Int := 0
deriving DecidableEq, Hashable, Inhabited

/-- A grammar in plain form. -/
structure Productions where
  symbols : Array SymbolInfo
  /-- The number of symbols before the first nonterminal. -/
  tokenCount : Nat
  /-- The productions of each nonterminal. -/
  bodies : Array (List Production)
  /-- The nonterminals that stand for repetitions. -/
  auxiliary : Array Bool
  /-- The start symbol. -/
  start : SymbolId
  /-- The word token. -/
  word : Option SymbolId
  /-- The tokens that may stand anywhere. -/
  extras : List SymbolId
  /-- The symbols of the scanner's tokens, by the scanner's number. -/
  externals : List SymbolId
  /-- The hidden rules that only group others. -/
  supertypes : List SymbolId
  /-- The kind of the nodes of each symbol where they are not renamed. -/
  kinds : Array (Option Alias)
deriving Inhabited

namespace Productions

/-! ## Tokens -/

mutual

/-- The tokens of a rule, in order. -/
def tokensOf : Rule → List TokenRule
  | .blank => []
  | .token t => [t]
  | .ref _ => []
  | .seq rs => tokensOfAll rs
  | .choice rs => tokensOfAll rs
  | .repeat1 r => tokensOf r
  | .prec _ _ r => tokensOf r
  | .dynamic _ r => tokensOf r
  | .field _ r => tokensOf r
  | .alias _ r => tokensOf r

/-- The tokens of several rules, in order. -/
def tokensOfAll : List Rule → List TokenRule
  | [] => []
  | r :: rs => tokensOf r ++ tokensOfAll rs

end

/-- The text of a literal token, as the grammar's externals refer to it. -/
def literalText (t : TokenRule) : Option String :=
  match t.matcher with
  | .literal s => some s
  | _ => none

/-- A token, the number of its uses and, if a rule is nothing but the token, the rule's name. -/
structure Collected where
  token : TokenRule
  uses : Nat
  name : Option String := none

/-- Adds one use of a token. -/
def addToken (acc : Array Collected) (t : TokenRule) : Array Collected :=
  match acc.findIdx? (fun c => c.token == t) with
  | some i => acc.modify i fun c => { c with uses := c.uses + 1 }
  | none => acc.push { token := t, uses := 1 }

/-- The tokens of a grammar in the order of their first use. -/
def collectTokens (g : Grammar) : Array Collected :=
  let used := g.rules.foldl (fun acc r => (tokensOf r.2).foldl addToken acc) #[]
  let shared := g.externals.foldl (fun acc e =>
    match e with
    | .shared s =>
      match acc.findIdx? (fun (c : Collected) => literalText c.token == some s) with
      | some i => acc.modify i fun c => { c with uses := c.uses + 1 }
      | none => acc
    | .own _ => acc) used
  -- a rule that is a token used nowhere else lends the token its name
  match g.rules with
  | [] => shared
  | _ :: rest => rest.foldl (fun acc r =>
      match r.2 with
      | .token t =>
        match acc.findIdx? (fun c => c.token == t) with
        | some i => acc.modify i fun c => if c.uses == 1 then { c with name := some r.1 } else c
        | none => acc
      | _ => acc) shared

/-- Does a name stand for something without a node of its own? -/
def isHiddenName (s : String) : Bool := s.startsWith "_"

/-- What a collected token looks like in a tree. -/
def tokenInfo (c : Collected) : SymbolInfo :=
  match c.name with
  | some n => { name := n, named := true, visible := !isHiddenName n, token := some c.token }
  | none =>
    match literalText c.token with
    | some s => { name := s, named := false, visible := true, token := some c.token }
    | none => { name := "_token", named := false, visible := false, token := some c.token }

/-! ## Repetitions -/

/-- The auxiliary nonterminals made so far: their names and rules, with the repeated rules. -/
structure Repetitions where
  owner : String
  count : Nat
  made : Array (String × Rule × Rule)

/-- The auxiliary nonterminal for a repeated rule. -/
def Repetitions.intern (s : Repetitions) (r : Rule) : Repetitions × Rule :=
  match s.made.find? (fun m => m.2.1 == r) with
  | some m => (s, .ref m.1)
  | none =>
    let name := s.owner ++ " repeat " ++ Nat.repr (s.count + 1)
    ({ s with
        count := s.count + 1
        made := s.made.push (name, r, .choice [.seq [.ref name, .ref name], r]) }, .ref name)

mutual

/-- Replaces the repetitions in a rule, from the inside out. -/
def expand (s : Repetitions) : Rule → Repetitions × Rule
  | .blank => (s, .blank)
  | .token t => (s, .token t)
  | .ref n => (s, .ref n)
  | .seq rs => let (s, rs) := expandAll s rs; (s, .seq rs)
  | .choice rs => let (s, rs) := expandAll s rs; (s, .choice rs)
  | .repeat1 r => let (s, r) := expand s r; s.intern r
  | .prec a p r => let (s, r) := expand s r; (s, .prec a p r)
  | .dynamic p r => let (s, r) := expand s r; (s, .dynamic p r)
  | .field n r => let (s, r) := expand s r; (s, .field n r)
  | .alias k r => let (s, r) := expand s r; (s, .alias k r)

/-- Replaces the repetitions in several rules. -/
def expandAll (s : Repetitions) : List Rule → Repetitions × List Rule
  | [] => (s, [])
  | r :: rs =>
    let (s, r) := expand s r
    let (s, rs) := expandAll s rs
    (s, r :: rs)

end

/-- The rules without repetitions: name, rule, and whether the rule is auxiliary. -/
def expandRules (rules : List (String × Rule)) : List (String × Rule × Bool) :=
  let (kept, made) := rules.foldl (fun (acc : List (String × Rule × Bool) × _) r =>
    let s : Repetitions := { owner := r.1, count := 0, made := acc.2 }
    match isHiddenName r.1, r.2 with
    | true, .repeat1 body =>
      -- a hidden rule that is a repetition is its own auxiliary nonterminal
      let (s, body) := expand s body
      ((r.1, .choice [.seq [.ref r.1, .ref r.1], body], true) :: acc.1, s.made)
    | _, _ =>
      let (s, rule) := expand s r.2
      ((r.1, rule, false) :: acc.1, s.made)) ([], #[])
  kept.reverse ++ made.toList.map fun m => (m.1, m.2.2, true)

/-! ## Multiplying out -/

/-- What the constructs around a rule say. -/
structure Around where
  precedence : Precedence := .default
  assoc : Option Assoc := none
  rename : Option Alias := none
  field : Option String := none

/-- The dynamic precedence of larger absolute value; the first one on a tie. -/
def strongerDynamic (a b : Int) : Int := if a.natAbs < b.natAbs then b else a

/-- One after the other. -/
def Production.append (a b : Production) : Production :=
  { steps := a.steps ++ b.steps, dynamic := strongerDynamic a.dynamic b.dynamic }

/-- The step of a symbol inside the constructs around it. -/
def Around.step (around : Around) (symbol : SymbolId) : Step :=
  { symbol, precedence := around.precedence, assoc := around.assoc, rename := around.rename,
    field := around.field }

/-- Changes the last step. -/
def mapLast (f : Step → Step) : List Step → List Step
  | [] => []
  | [s] => [f s]
  | s :: rest => s :: mapLast f rest

mutual

/-- The alternatives of a rule. The flag says whether the rule ends its production. -/
def alternatives (symbolOf : Rule → SymbolId) (around : Around) (atEnd : Bool) :
    Rule → List Production
  | .blank => [⟨[], 0⟩]
  | .token t => [⟨[around.step (symbolOf (.token t))], 0⟩]
  | .ref n => [⟨[around.step (symbolOf (.ref n))], 0⟩]
  | .repeat1 r => alternatives symbolOf around atEnd r
  | .seq rs => alternativesSeq symbolOf around atEnd rs
  | .choice rs => alternativesAny symbolOf around atEnd rs
  | .prec a p r =>
    let inner : Around :=
      { around with
        precedence := if p == .default then around.precedence else p
        assoc := a.orElse fun _ => around.assoc }
    (alternatives symbolOf inner atEnd r).map fun production =>
      if atEnd then production
      else
        { production with
          steps := mapLast (fun s =>
            { s with
              precedence := if p == .default then s.precedence else around.precedence
              assoc := if a.isSome then around.assoc else s.assoc }) production.steps }
  | .dynamic d r =>
    (alternatives symbolOf around atEnd r).map fun production =>
      { production with dynamic := strongerDynamic d production.dynamic }
  | .field n r => alternatives symbolOf { around with field := some n } atEnd r
  | .alias k r => alternatives symbolOf { around with rename := some k } atEnd r

/-- The alternatives of a sequence; only its last rule ends the production. -/
def alternativesSeq (symbolOf : Rule → SymbolId) (around : Around) (atEnd : Bool) :
    List Rule → List Production
  | [] => [⟨[], 0⟩]
  | r :: rest =>
    let heads := alternatives symbolOf around (atEnd && rest.isEmpty) r
    let tails := alternativesSeq symbolOf around atEnd rest
    heads.flatMap fun h => tails.map fun t => Production.append h t

/-- The alternatives of a choice. -/
def alternativesAny (symbolOf : Rule → SymbolId) (around : Around) (atEnd : Bool) :
    List Rule → List Production
  | [] => []
  | r :: rest => alternatives symbolOf around atEnd r ++ alternativesAny symbolOf around atEnd rest

end

/-! ## Inlining -/

/-- An inlined production in place of a step: the alias and the field of the step go to every
step put in, its precedence and associativity to the last one if that has none. -/
def inlineStep (removed : Step) (steps : List Step) : List Step :=
  mapLast (fun s =>
      { s with
        precedence := if s.precedence == .default then removed.precedence else s.precedence
        assoc := s.assoc.orElse fun _ => removed.assoc })
    (steps.map fun s =>
      { s with
        rename := removed.rename.orElse fun _ => s.rename
        field := removed.field.orElse fun _ => s.field })

/-- Replaces inlined nonterminals in a sequence of steps; `bodies` gives their productions. -/
def inlineSteps (bodies : SymbolId → Option (List Production)) :
    (fuel : Nat) → List Step → List Production
  | 0, steps => [⟨steps, 0⟩]
  | _ + 1, [] => [⟨[], 0⟩]
  | fuel + 1, s :: rest =>
    match bodies s.symbol with
    | none =>
      (inlineSteps bodies fuel rest).map fun p => { p with steps := s :: p.steps }
    | some ps =>
      ps.flatMap fun p =>
        (inlineSteps bodies fuel (inlineStep s p.steps ++ rest)).map fun q =>
          { q with dynamic := strongerDynamic p.dynamic q.dynamic }

/-- More steps than any production has after inlining. -/
def inlineFuel : Nat := 200

/-- Each element once, in the order of the first occurrences. -/
def distinct {α : Type} [BEq α] [Hashable α] (xs : List α) : List α :=
  (xs.foldl (fun (acc : Std.HashSet α × List α) x =>
    if acc.1.contains x then acc else (acc.1.insert x, x :: acc.2)) ({}, [])).2.reverse

/-! ## Kinds -/

/-- For each symbol the other kinds that the steps of rules give it, and none for a use under its
own name. Steps of inlined rules are not counted, for they do not last. -/
def usesOf (count : Nat) (inlined extras : List SymbolId) (steps : List Step) :
    Array (List (Option Alias)) :=
  let uses := steps.foldl (fun (acc : Array (List (Option Alias))) s =>
    if inlined.contains s.symbol then acc else acc.modify s.symbol (s.rename :: ·))
    (Array.replicate count [])
  (extras.foldl (fun acc s => acc.modify s (none :: ·)) uses).map List.reverse

/-- The most frequent of several kinds, the first one on a tie. -/
def mostFrequent (kinds : List Alias) : Option Alias :=
  (distinct kinds).foldl (fun best a =>
    match best with
    | some b => if kinds.count b < kinds.count a then some a else best
    | none => some a) none

/-- The kind by which a symbol goes that is renamed wherever it stands: the most frequent of its
names. -/
def usualKind (uses : List (Option Alias)) : Option Alias :=
  if uses.contains none then none else mostFrequent (uses.filterMap id)

/-- Drops the names of steps whose symbols go by them anyway; `usual` tells by which kind a symbol
goes. A name stays if another production of the rule needs it at the same place. -/
def dropUsual (usual : SymbolId → Option Alias) (ps : List Production) : List Production :=
  ps.map fun p =>
    { p with
      steps := p.steps.mapIdx fun j s =>
        let needed := ps.any fun q =>
          q != p && q.steps[j]?.any fun t => t.rename == s.rename && usual t.symbol != s.rename
        if s.rename.isSome && usual s.symbol == s.rename && !needed then { s with rename := none }
        else s }

/-! ## Compiling -/

/-- The kinds of tokens in the order of their numbers, the end of the source first. -/
def tokenOrder (g : Grammar) (collected : Array Collected) : Array SymbolInfo :=
  let infos := collected.mapIdx fun i c => { tokenInfo c with order := i }
  let isWord (i : SymbolInfo) := i.named && g.word == some i.name
  #[{ name := "end", named := false, visible := false }]
    ++ infos.filter isWord ++ infos.filter (fun i => !isWord i)
    ++ (g.externals.toArray.filterMap fun e =>
      match e with
      | .own n => some { name := n, named := true, visible := !isHiddenName n }
      | .shared _ => none)

/-- A grammar in plain form. -/
def ofGrammar (g : Grammar) : Productions :=
  let collected := collectTokens g
  let tokens := tokenOrder g collected
  let tokenNames := tokens.toList.filterMap fun i => if i.named then some i.name else none
  let rules := expandRules (g.rules.filter fun r => !tokenNames.contains r.1)
  let symbols := tokens ++ (rules.toArray.map fun r =>
    { name := r.1, named := true,
      visible := !(isHiddenName r.1 || g.supertypes.contains r.1 || r.2.2) : SymbolInfo })
  let named : Std.HashMap String SymbolId :=
    (symbols.toList.zipIdx.filter fun p => p.1.named).foldl
      (fun m p => m.insert p.1.name p.2) {}
  let literal (s : String) : Option SymbolId :=
    tokens.findIdx? fun i => (i.token.bind literalText) == some s
  let symbolOf : Rule → SymbolId
    | .token t => (tokens.findIdx? fun i => i.token == some t).getD 0
    | .ref n => named.getD n 0
    | _ => 0
  let written := rules.toArray.map fun r =>
    distinct ((alternatives symbolOf {} true r.2.1))
  let inlined := g.inlined.filterMap fun n => named[n]?
  let extras := g.extras.filterMap fun n => named[n]?
  let uses := usesOf symbols.size inlined extras
    (written.toList.flatMap fun ps => ps.flatMap Production.steps)
  let usual := uses.map usualKind
  let flat := written.map (dropUsual fun s => (usual[s]?).join)
  let body (s : SymbolId) : Option (List Production) :=
    if inlined.contains s then flat[s - tokens.size]? else none
  let bodies := flat.map fun ps => distinct (ps.flatMap fun p =>
    (inlineSteps body inlineFuel p.steps).map fun q =>
      { q with dynamic := strongerDynamic p.dynamic q.dynamic })
  { symbols
    tokenCount := tokens.size
    bodies
    auxiliary := rules.toArray.map fun r => r.2.2
    start := tokens.size
    word := g.word.bind fun n => named[n]?
    extras
    externals := g.externals.map fun e =>
      match e with
      | .own n => named.getD n 0
      | .shared s => ((literal s).orElse fun _ => named[s]?).getD 0
    supertypes := g.supertypes.filterMap fun n => named[n]?
    kinds := symbols.mapIdx fun i info =>
      (usual[i]?.join).or (if info.visible then some ⟨info.name, info.named⟩ else none) }

/-! ## Views -/

/-- What a symbol looks like. -/
def info (p : Productions) (s : SymbolId) : SymbolInfo := p.symbols[s]?.getD default

/-- The kind of the nodes of a symbol where they are not renamed; none if it has no nodes. -/
def kindOf? (p : Productions) (s : SymbolId) : Option Alias := (p.kinds[s]?).join

/-- Is the symbol a token? -/
def isToken (p : Productions) (s : SymbolId) : Bool := s < p.tokenCount

/-- The productions of a nonterminal. -/
def productionsOf (p : Productions) (s : SymbolId) : List Production :=
  p.bodies[s - p.tokenCount]?.getD []

/-- Does the nonterminal stand for a repetition? -/
def isAuxiliary (p : Productions) (s : SymbolId) : Bool :=
  p.auxiliary[s - p.tokenCount]?.getD false

/-- The hidden rules that leave no trace in trees: they do not group kinds and are never renamed. -/
def traceless (p : Productions) : List SymbolId :=
  let renamed := p.bodies.foldl (fun (acc : Std.HashSet SymbolId) ps =>
    ps.foldl (fun acc q => q.steps.foldl (fun acc s =>
      if s.rename.isSome then acc.insert s.symbol else acc) acc) acc) {}
  ((List.range p.bodies.size).map (p.tokenCount + ·)).filter fun s =>
    (p.kindOf? s).isNone && !p.supertypes.contains s && !renamed.contains s

end Productions

end CallAtlas.Syntax
