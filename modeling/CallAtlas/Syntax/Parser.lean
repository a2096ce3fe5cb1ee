import CallAtlas.Syntax.Lexer
import CallAtlas.Syntax.Network
import CallAtlas.Syntax.Stack
import CallAtlas.Syntax.Vocabulary

/-!
# Parsing

The parser follows every reading of a text that the automaton allows. It advances each version
of the stack by a token, drops versions that are clearly worse than others, and merges those
that have come to the same state. When no version can use the next token, the most promising
one begins error recovery: it supplies a missing token, goes back to a state in which the token
makes sense, or skips the token. Of the complete readings the best one is taken.

A language is a grammar with the scanner of its own tokens, in all the forms in which it is needed:
to cut a text into tokens, to parse it, and to find out what queries may ask for.
-/

namespace CallAtlas.Syntax

/-! ## Languages -/

/-- A language. What is computed from its grammar is computed when it is first needed. -/
structure Language where
  scanner : Scanner
  tables : Thunk Tables
  lexer : Thunk LexTables
  automaton : Thunk Automaton
  network : Thunk Network
  vocabulary : Thunk Vocabulary

/-- The language of a grammar and a scanner. -/
def Language.ofGrammar (g : Grammar) (scanner : Scanner) : Language :=
  let tables : Thunk Tables := .mk fun _ => Tables.ofGrammar g
  let automaton : Thunk Automaton := .mk fun _ => Automaton.ofGrammar g tables.get
  let sought : Thunk TokenSet := .mk fun _ => automaton.get.validAt errorState
  { scanner, tables, automaton
    network := .mk fun _ => Network.ofAutomaton tables.get automaton.get
    vocabulary := .mk fun _ => Vocabulary.ofTables tables.get sought.get
    lexer := .mk fun _ => LexTables.ofGrammar g tables.get sought.get }

/-! ## What is seen in trees -/

namespace Tables

/-- Is a symbol seen in trees, and is it named? -/
def sees (t : Tables) (s : SymbolId) : Bool × Bool :=
  if s == errorSymbol then (true, true)
  else
    match t.productions.kindOf? s with
    | some a => (true, a.named)
    | none => (false, false)

/-- The name of a symbol in trees. -/
def nameOf (t : Tables) (s : SymbolId) : String :=
  if s == errorSymbol then Tree.errorKind
  else
    match t.productions.kindOf? s with
    | some a => a.kind
    | none => (t.productions.info s).name

end Tables

namespace Parser

/-- The limits of the parser. -/
structure Limits where
  /-- Versions that are kept after each round. -/
  versions : Nat := 6
  /-- Versions beyond that which reductions may add meanwhile. -/
  overflow : Nat := 4
  /-- How far down error recovery looks for a state. -/
  landmarkDepth : Nat := 16
  /-- The cost by which a version must be worse to be dropped at once. -/
  costDifference : Nat := 16 * costs.node

/-- The limits of the parser, as it uses them. -/
def limits : Limits := {}

/-- What the parser works with. -/
structure Context where
  scanner : Scanner
  tables : Tables
  lexer : LexTables
  automaton : Automaton
  source : Source

/-- How far the parser has come. -/
structure Progress where
  stack : Stack := Stack.initial
  finished : Option Reading := none
  acceptCount : Nat := 0

/-- A step of the parser. -/
abbrev Run := ReaderT Context (StateM Progress)

/-! ## Access -/

/-- Reads something off the stack. -/
def look {α : Type} (f : Stack → α) : Run α := return f (← get).stack

/-- Changes the stack. -/
def change (f : Stack → Stack) : Run Unit := modify fun p => { p with stack := f p.stack }

/-- Changes the stack and returns something. -/
def changeGet {α : Type} (f : Stack → Stack × α) : Run α :=
  modifyGet fun p =>
    let (stack, a) := f p.stack
    (a, { p with stack })

/-- The actions of a state at a token. -/
def actionsAt (s : StateId) (token : SymbolId) : Run (List Action) :=
  return (← read).automaton.actionsAt s token

/-- The state after a symbol; 0 if there is none. -/
def nextState (s : StateId) (symbol : SymbolId) : Run StateId :=
  return (← read).automaton.next s symbol

/-- The tokens for which a state has an action. -/
def validAt (s : StateId) : Run TokenSet := return (← read).automaton.validAt s

/-- A node over readings. -/
def makeNode (shape : Shape) (offset : Nat) (children : List Reading) : Run Reading := do
  let c ← read
  return Reading.node c.source c.tables.sees shape offset children

/-- The next token for a version. -/
def lexFor (v : Nat) : Run Reading := do
  let c ← read
  let s := (← get).stack
  let want : Want :=
    { source := c.source, position := s.position v
      valid := c.automaton.validAt (s.state v)
      matched := c.automaton.matchedAt (s.state v)
      memory := (s.head v).memory, advanced := s.hasAdvancedSinceError v }
  let lexeme := c.lexer.lex c.scanner want
  let r := Reading.ofLexeme c.tables.sees lexeme
  return if lexeme.symbol == some endSymbol then r.setExtra true else r

/-- The readings without the extras at their end, and those extras. -/
def splitExtras (readings : List Reading) : List Reading × List Reading :=
  let extras := (readings.reverse.takeWhile fun r => r.info.extra).reverse
  (readings.take (readings.length - extras.length), extras)

/-- Merges a version into the first one below a bound that takes it. -/
def mergeBelow (bound : Nat) (except : Option Nat) (version : Nat) : Run Bool := do
  for j in [0:bound] do
    if some j != except then
      if ← changeGet fun s => s.merge j version then return true
  return false

/-! ## Comparing versions -/

/-- How promising a version is. -/
structure Standing where
  cost : Nat
  nodeCount : Nat
  dynamic : Int
  inError : Bool

/-- Which of two versions is better, and whether the other one is worth keeping. -/
inductive Preference where
  | takeLeft
  | preferLeft
  | same
  | preferRight
  | takeRight
deriving DecidableEq

/-- Is the cheaper one of two versions so much cheaper that the other one can be dropped? The
more a version has read since its last error, the more it counts. -/
def clearlyCheaper (cheap dear : Nat) (nodeCount : Nat) : Bool :=
  (dear - cheap) * (1 + nodeCount) > limits.costDifference

/-- Compares two versions. -/
def Standing.compareTo (a b : Standing) : Preference :=
  if !a.inError && b.inError then if a.cost < b.cost then .takeLeft else .preferLeft
  else if a.inError && !b.inError then if b.cost < a.cost then .takeRight else .preferRight
  else if a.cost < b.cost then
    if clearlyCheaper a.cost b.cost a.nodeCount then .takeLeft else .preferLeft
  else if b.cost < a.cost then
    if clearlyCheaper b.cost a.cost b.nodeCount then .takeRight else .preferRight
  else if b.dynamic < a.dynamic then .preferLeft
  else if a.dynamic < b.dynamic then .preferRight
  else .same

/-- How promising a version is. -/
def standing (v : Nat) : Run Standing := do
  change fun s => s.settleNodeCount v
  look fun s =>
    let paused := (s.head v).isPaused
    { cost := s.errorCost v + if paused then costs.node else 0
      nodeCount := s.nodeCountSinceError v
      dynamic := s.dynamic v
      inError := paused || s.state v == errorState }

/-- Would a version of some cost be worse than what there is? -/
def betterVersionExists (v : Nat) (cost : Nat) : Run Bool := do
  if let some r := (← get).finished then
    if r.info.errorCost ≤ cost then return true
  change fun s => s.settleNodeCount v
  let mine ← look fun s =>
    ({ cost, inError := false, dynamic := s.dynamic v, nodeCount := s.nodeCountSinceError v }
      : Standing)
  let position ← look fun s => s.position v
  let count ← look Stack.count
  for i in [0:count] do
    if i != v && (← look fun s => (s.head i).isActive && position ≤ s.position i) then
      match mine.compareTo (← standing i) with
      | .takeRight => return true
      | .preferRight => if ← look fun s => s.canMerge i v then return true
      | _ => pure ()
  return false

/-! ## Shifting, reducing and accepting -/

/-- Consumes a token. -/
def shift (v : Nat) (state : StateId) (lookahead : Reading) (extra : Bool) : Run Unit := do
  let r := lookahead.setExtra extra
  change fun s => s.push v (some r) state
  if let some m := r.info.memory then change fun s => s.setMemory v m

/-- Of several lists of children for the same node the best one, with the extras after it. -/
def chooseChildren (shape : Shape) (offset : Nat) :
    Reading × List Reading → List Slice → Run (Reading × List Reading)
  | best, [] => return best
  | best, slice :: rest => do
    let (children, extras) := splitExtras slice.readings
    let other ← makeNode shape offset children
    chooseChildren shape offset
      (if best.1.prefersSecond other then (other, extras) else best) rest

/-- Makes a node out of each way in which a production's children were popped. -/
def reduceSlices (v : Nat) (shape : Shape) :
    (fuel : Nat) → (removed : Nat) → List Slice → Run Unit
  | 0, _, _ => return
  | _ + 1, _, [] => return
  | fuel + 1, removed, slice :: rest => do
    -- The slices of one version are different children of the same node.
    let same := rest.takeWhile fun other => other.version == slice.version
    let rest := rest.drop same.length
    -- Each version that was removed has moved those behind it down by one.
    let version := slice.version - removed
    if limits.versions + limits.overflow < version then
      change fun s => s.remove version
      reduceSlices v shape fuel (removed + 1) rest
    else
      let offset ← look fun s => s.position version
      let (children, extras) := splitExtras slice.readings
      let (parent, extras) ←
        chooseChildren shape offset (← makeNode shape offset children, extras) same
      let state ← look fun s => s.state version
      let next ← nextState state shape.symbol
      change fun s => s.push version (some parent) next
      for e in extras do change fun s => s.push version (some e) next
      let merged ← mergeBelow version (some v) version
      reduceSlices v shape fuel (if merged then removed + 1 else removed) rest

/-- Reduces by a production; the first version that this made, if any. -/
def reduce (v : Nat) (shape : Shape) : Run (Option Nat) := do
  let before ← look Stack.count
  let slices ← changeGet fun s => s.popCount v shape.count
  reduceSlices v shape (slices.length + 1) 0 slices
  let after ← look Stack.count
  return if before < after then some before else none

/-- The complete reading of a popped stack: the last part that is no extra, with everything
around it taken in. -/
def rootOf (readings : List Reading) : Run (Option Reading) := do
  let extras := readings.reverse.takeWhile fun r => r.info.extra
  match readings.reverse.drop extras.length with
  | [] => return none
  | r :: earlier =>
    let shape : Shape :=
      { symbol := r.info.symbol, count := 0, dynamic := 0, aliases := r.info.aliases,
        fields := r.info.fields }
    return some (← makeNode shape r.info.before (earlier.reverse ++ r.children ++ extras.reverse))

/-- Accepts a version: its readings are complete. -/
def accept (v : Nat) (lookahead : Reading) : Run Unit := do
  change fun s => s.push v (some lookahead) startState
  let slices ← changeGet fun s => s.popAll v
  for slice in slices do
    if let some root ← rootOf slice.readings then
      modify fun p =>
        { p with
          acceptCount := p.acceptCount + 1
          finished := match p.finished with
            | some r => if r.prefersSecond root then some root else some r
            | none => some root }
  match slices with
  | slice :: _ => change fun s => s.remove slice.version
  | [] => pure ()
  change fun s => s.halt v

/-! ## Error recovery -/

/-- What the actions of a state allow at the tokens of a list: whether one can be consumed, and
the productions that can be reduced. -/
def potential (state : StateId) : List SymbolId → Run (Bool × List Shape)
  | [] => return (false, [])
  | token :: rest => do
    let found ← actionsAt state token
    let shifts := found.any fun a =>
      match a with
      | .shift _ repeating => !repeating
      | .recover => true
      | _ => false
    let shapes := found.filterMap fun a =>
      match a with
      | .reduce shape => if shape.count > 0 then some shape else none
      | _ => none
    let (restShifts, restShapes) ← potential state rest
    return (shifts || restShifts, shapes ++ restShapes)

/-- The first production of each symbol and length. -/
def firstShapes (shapes : List Shape) : List Shape :=
  (shapes.foldl (fun (acc : List Shape) s =>
    if acc.any fun a => a.symbol == s.symbol && a.count == s.count then acc else s :: acc)
    []).reverse

/-- Reduces wherever that is possible: at one token, or, for none, at any token but the end.
Tells whether the token can be consumed afterwards. -/
def reduceAll (start : Nat) (token : Option SymbolId) : Run Bool := do
  let first ← look Stack.count
  go first 200 0 start false
where
  go (first : Nat) : (fuel : Nat) → (round : Nat) → (v : Nat) → Bool → Run Bool
    | 0, _, _, can => return can
    | fuel + 1, round, v, can => do
      let count ← look Stack.count
      if count ≤ v then return can
      let mut merged := false
      for j in [first:v] do
        if !merged then merged ← changeGet fun s => s.merge j v
      if merged then go first fuel (round + 1) v can
      else
        let state ← look fun s => s.state v
        let tokens ←
          match token with
          | some t => pure [t]
          | none => pure ((← validAt state).members.filter (· != endSymbol))
        let (shifts, shapes) ← potential state tokens
        let mut last : Option Nat := none
        for shape in firstShapes shapes do
          last ← reduce v shape
        let after := if v == start then count else v + 1
        if shifts then go first fuel (round + 1) after true
        else
          match last with
          | some r =>
            if round < limits.versions then
              change fun s => s.renumber r v
              go first fuel (round + 1) v can
            else
              if token.isSome then change fun s => s.remove v
              go first fuel (round + 1) after can
          | none =>
            if token.isSome then change fun s => s.remove v
            go first fuel (round + 1) after can

/-- Goes back to a state below, turning what was read since into an error node. -/
def recoverTo (v depth : Nat) (goal : StateId) : Run Bool := do
  let slices ← changeGet fun s => s.popCount v depth
  let mut previous : Option Nat := none
  for slice in slices do
    if some slice.version != previous then
      if (← look fun s => s.state slice.version) != goal then
        change fun s => s.halt slice.version
      else
        let errors ← changeGet fun s => s.popError slice.version
        let inner := (errors.head?.map Reading.children).getD []
        let (readings, extras) := splitExtras (inner ++ slice.readings)
        if !readings.isEmpty then
          let error ← makeNode (Reading.errorShape errorSymbol) 0 readings
          change fun s => s.push slice.version (some (error.setExtra true)) goal
        for e in extras do change fun s => s.push slice.version (some e) goal
        previous := some slice.version
  return previous.isSome

/-- Looks among the states below for one in which the token makes sense, and goes back to it. -/
def recoverBelow (v : Nat) (lookahead : Reading) (count : Nat) : List Landmark → Run Bool
  | [] => return false
  | l :: rest => do
    let position ← look fun s => s.position v
    if l.state == errorState || l.position == position then
      recoverBelow v lookahead count rest
    else
      let depth := l.depth + (if (← look fun s => s.nodeCountSinceError v) > 0 then 1 else 0)
      let redundant ← look fun s =>
        (List.range count).any fun j => s.state j == l.state && s.position j == position
      if redundant then recoverBelow v lookahead count rest
      else
        let source := (← read).source
        let lines := (source.point position).row - (source.point l.position).row
        let cost := (← look fun s => s.errorCost v) + l.depth * costs.node
          + (position - l.position) * costs.unit + lines * costs.line
        if ← betterVersionExists v cost then return false
        if (← actionsAt l.state lookahead.info.symbol).isEmpty then
          recoverBelow v lookahead count rest
        else if ← recoverTo v depth l.state then return true
        else recoverBelow v lookahead count rest

/-- Removes the versions from a number on that have been given up. -/
def removeHalted : (fuel : Nat) → (v : Nat) → Run Unit
  | 0, _ => return
  | fuel + 1, v => do
    if v < (← look Stack.count) then
      if ← look fun s => (s.head v).isActive then removeHalted fuel (v + 1)
      else
        change fun s => s.remove v
        removeHalted fuel v

/-- Skips a token: it joins the text that is being skipped. -/
def skipToken (v : Nat) (lookahead : Reading) : Run Unit := do
  let since ← look fun s => s.nodeCountSinceError v
  let shape := Reading.errorShape skippedSymbol
  let mut skipped ← makeNode shape 0 [lookahead]
  -- What was skipped before is taken off again and becomes part of the same node.
  if since > 0 then
    let slices ← changeGet fun s => s.popCount v 1
    match slices with
    | [] => pure ()
    | slice :: others =>
      if !others.isEmpty then
        let count ← look Stack.count
        for _ in [slice.version + 1:count] do
          change fun s => s.remove (slice.version + 1)
      change fun s => s.renumber slice.version v
      skipped ← makeNode shape 0 (slice.readings ++ [skipped])
  change fun s => s.push v (some skipped) errorState
  if let some m := lookahead.info.memory then change fun s => s.setMemory v m

/-- Continues error recovery with a token: goes back to a state that can use it, and skips it in
a version of its own. -/
def recover (v : Nat) (lookahead : Reading) : Run Unit := do
  let count ← look Stack.count
  change fun s => s.settleNodeCount v
  let landmarks ← look fun s => (s.head v).landmarks
  let recovered ←
    if lookahead.isError then pure false
    else recoverBelow v lookahead count (landmarks.getD [])
  removeHalted 100 count
  let crowded ← look fun s => decide (limits.versions < s.count)
  if recovered && crowded then change fun s => s.halt v
  else if recovered && lookahead.info.changed then change fun s => s.halt v
  -- At the end of the text all that is still open becomes an error.
  else if lookahead.info.symbol == endSymbol then
    let offset ← look fun s => s.position v
    let empty ← makeNode (Reading.errorShape errorSymbol) offset []
    change fun s => s.push v (some empty) startState
    accept v lookahead
  else
    let source := (← read).source
    let lines := (source.point lookahead.info.stop).row - (source.point lookahead.info.before).row
    let cost := (← look fun s => s.errorCost v) + costs.node + lookahead.width * costs.unit
      + lines * costs.line
    if ← betterVersionExists v cost then change fun s => s.halt v
    else
      let extra := (← read).tables.extraSet.has lookahead.info.symbol
      skipToken v (if extra then lookahead.setExtra true else lookahead)

/-- Supplies a token that the text lacks, if with it the lookahead makes sense. -/
def supply (v : Nat) (position : Nat) (lookahead : SymbolId) : List SymbolId → Run Bool
  | [] => return false
  | token :: rest => do
    let state ← look fun s => s.state v
    let next ← nextState state token
    if next == 0 || next == state then supply v position lookahead rest
    else
      let found ← actionsAt next lookahead
      let reduces := found.any fun a =>
        match a with
        | .reduce _ => true
        | _ => false
      if !reduces then supply v position lookahead rest
      else
        let version ← changeGet fun s => s.copy v
        let sees := (← read).tables.sees
        change fun s => s.push version (some (Reading.supplied sees token position)) next
        -- at the end of the text any token counts as a continuation
        if ← reduceAll version (if lookahead == endSymbol then none else some lookahead) then
          return true
        else supply v position lookahead rest

/-- Pushes the mark of an error onto the versions in which an error was met, after trying to
supply a missing token in one of them. -/
def markErrors (v first bound position : Nat) (lookahead : SymbolId) :
    (fuel : Nat) → (current : Nat) → (supplied : Bool) → Run Unit
  | 0, _, _ => return
  | fuel + 1, current, supplied => do
    if current < bound then
      let supplied ←
        if supplied then pure true
        else do
          let valid ← validAt (← look fun s => s.state current)
          supply current position lookahead (valid.members.filter (· != endSymbol))
      change fun s => s.push current none errorState
      markErrors v first bound position lookahead fuel (if current == v then first else current + 1)
        supplied

/-- Begins error recovery in a version that cannot use its next token. -/
def handleError (v : Nat) (lookahead : Reading) : Run Unit := do
  let first ← look Stack.count
  -- Whatever can be finished is finished first, so that recovery starts from every reading.
  let _ ← reduceAll v none
  let bound ← look Stack.count
  let position ← look fun s => s.position v
  markErrors v first bound position lookahead.info.symbol (bound + 1) v false
  for _ in [first:bound] do
    let _ ← changeGet fun s => s.merge v first
  change fun s => s.recordLandmarks v limits.landmarkDepth
  recover v lookahead

/-! ## Advancing -/

/-- What performing the actions of a state has led to. -/
inductive Outcome where
  /-- The token has been dealt with. -/
  | done
  /-- Only reductions were made; the last version that one of them made. -/
  | reduced (last : Option Nat)

/-- Performs the actions of a state at a token, in order. -/
def perform (v : Nat) (lookahead : Reading) : Option Nat → List Action → Run Outcome
  | last, [] => return .reduced last
  | last, action :: rest => do
    match action with
    | .shift next repeating =>
      if repeating then perform v lookahead last rest
      else
        shift v next lookahead false
        return .done
    | .shiftExtra =>
      shift v (← look fun s => s.state v) lookahead true
      return .done
    | .reduce shape =>
      let made ← reduce v shape
      perform v lookahead (made.orElse fun _ => last) rest
    | .accept =>
      accept v lookahead
      return .done
    | .recover =>
      recover v lookahead
      return .done

/-- Advances a version by a token. -/
def advanceWith (v : Nat) : (fuel : Nat) → Reading → Run Unit
  | 0, _ => change fun s => s.halt v
  | fuel + 1, lookahead => do
    let state ← look fun s => s.state v
    let found ← actionsAt state lookahead.info.symbol
    match ← perform v lookahead none found with
    | .done => return
    | .reduced (some last) =>
      change fun s => s.renumber last v
      advanceWith v fuel lookahead
    | .reduced none =>
      let c ← read
      -- A keyword that makes no sense here may still be an ordinary word.
      let asWord : Option Reading ←
        match c.tables.productions.word with
        | some w => do
          if lookahead.info.keyword && lookahead.info.symbol != w
              && !(← actionsAt state w).isEmpty then
            let (visible, named) := c.tables.sees w
            pure (some (.mk { lookahead.info with symbol := w, visible, named } []))
          else pure none
        | none => pure none
      match asWord with
      | some word => advanceWith v fuel word
      | none =>
        if state == errorState then recover v lookahead
        else change fun s => s.pause v lookahead

/-- More reductions than any text needs between two tokens. -/
def reductionFuel : Nat := 20000

/-- Advances a version until it has passed the offset that others have reached; returns the
offset reached. -/
def advanceVersion (v : Nat) : (fuel : Nat) → (last : Nat) → Run Nat
  | 0, last => return last
  | fuel + 1, last => do
    if ← look fun s => v < s.count && (s.head v).isActive then
      advanceWith v reductionFuel (← lexFor v)
      let position ← look fun s => s.position v
      if last < position || (v > 0 && position == last) then return position
      else advanceVersion v fuel last
    else return last

/-- Advances all versions. -/
def advanceAll : (fuel : Nat) → (v : Nat) → (last : Nat) → Run Nat
  | 0, _, last => return last
  | fuel + 1, v, last => do
    if v < (← look Stack.count) then
      let last ← advanceVersion v 1000 last
      advanceAll fuel (v + 1) last
    else return last

/-! ## Thinning out -/

/-- Compares a version with those before it; the number of the version to look at next. -/
def condenseOne (mine : Standing) : (fuel : Nat) → (v other : Nat) → Run Nat
  | 0, v, _ => return v + 1
  | fuel + 1, v, other => do
    if v ≤ other then return v + 1
    match (← standing other).compareTo mine with
    | .takeLeft =>
      change fun s => s.remove v
      return v
    | .preferLeft | .same =>
      if ← changeGet fun s => s.merge other v then return v
      else condenseOne mine fuel v (other + 1)
    | .preferRight =>
      if ← changeGet fun s => s.merge other v then return v
      else
        change fun s => s.swap v other
        condenseOne mine fuel v (other + 1)
    | .takeRight =>
      change fun s => s.remove other
      -- The version at hand has moved down by one.
      condenseOne mine fuel (v - 1) other

/-- The smaller of two costs, none being infinite. -/
def minCost (a : Option Nat) (b : Nat) : Option Nat :=
  some (match a with
    | some a => min a b
    | none => b)

/-- Drops versions that are worse than others; the least cost of those that are not in error. -/
def condense : (fuel : Nat) → (v : Nat) → (least : Option Nat) → Run (Option Nat)
  | 0, _, least => return least
  | fuel + 1, v, least => do
    if v < (← look Stack.count) then
      if ← look fun s => (s.head v).isHalted then
        change fun s => s.remove v
        condense fuel v least
      else
        let mine ← standing v
        let least := if mine.inError then least else minCost least mine.cost
        condense fuel (← condenseOne mine 1000 v 0) least
    else return least

/-- Lets the best version begin error recovery if no version can go on, and drops the waiting
versions otherwise. -/
def resumePaused : (fuel : Nat) → (v bound : Nat) → (running : Bool) → (least : Option Nat) →
    Run (Option Nat)
  | 0, _, _, _, least => return least
  | fuel + 1, v, bound, running, least => do
    if v < bound then
      match ← look fun s => (s.head v).status with
      | .paused lookahead =>
        if !running && (← get).acceptCount < limits.versions then
          let cost ← look fun s => s.errorCost v
          change fun s => s.resume v
          handleError v lookahead
          resumePaused fuel (v + 1) bound true (some cost)
        else
          change fun s => s.remove v
          resumePaused fuel v (bound - 1) running least
      | _ => resumePaused fuel (v + 1) bound true least
    else return least

/-- Thins out the versions after a round; the least cost that is still possible. -/
def thinOut : Run (Option Nat) := do
  let least ← condense 1000 0 none
  change fun s => { s with heads := s.heads.extract 0 limits.versions }
  resumePaused 100 0 (← look Stack.count) false least

/-- Rounds of advancing and thinning out, until a complete reading is better than all others. -/
def rounds : (fuel : Nat) → (last : Nat) → Run Unit
  | 0, _ => return
  | fuel + 1, last => do
    let last ← advanceAll 1000 0 last
    if (← look Stack.count) == 0 then return
    let least ← thinOut
    match (← get).finished, least with
    | some r, some c => if c ≤ r.info.errorCost then rounds fuel last
    | some _, none => return
    | none, _ => rounds fuel last

/-- A tree for a text that no reading was found for. -/
def noTree (source : Source) : Tree :=
  .node
    { kind := Tree.errorKind, start := 0, stop := source.size, startPoint := source.point 0,
      stopPoint := source.point source.size } []

end Parser

/-- The syntax tree of a text. -/
def Language.parse (l : Language) (source : Source) : Tree :=
  let context : Parser.Context :=
    { scanner := l.scanner, tables := l.tables.get, lexer := l.lexer.get,
      automaton := l.automaton.get, source }
  let (_, done) := ((Parser.rounds (source.size * 20 + 1000) 0).run context).run {}
  match done.finished with
  | none => Parser.noTree source
  | some r =>
    let nameOf := context.tables.nameOf
    match r.toTrees source nameOf (some ⟨nameOf r.info.symbol, true⟩) [] [] with
    | t :: _ => t
    | [] => Parser.noTree source

end CallAtlas.Syntax
