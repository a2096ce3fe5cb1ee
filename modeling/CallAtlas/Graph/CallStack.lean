import CallAtlas.Failure
import CallAtlas.Graph.Locate
import CallAtlas.Graph.SymbolIndex

/-!
# Call stacks

A call stack follows the calls of a definition, the callers one after another out of a queue. A
called name stands for every definition that carries it in the language of the caller, and each of
them becomes an entry of its own; a name that none carries becomes an unresolved entry. Below one
caller each definition and each unresolved name appears once. A definition that is already on the
path from the root is not followed again, and neither is one at the depth bound.

The number of entries is bounded. When an entry would exceed the bound, the listing ends: the
caller that it belongs to and all callers that were still to be followed are marked as truncated.
-/

namespace CallAtlas

/-- What became of an entry. -/
inductive CallStackStatus where
  /-- The calls of the definition were followed. -/
  | expanded
  /-- The definition is already on the path from the root. -/
  | cyclic
  /-- No definition carries the name. -/
  | unresolved
  /-- The definition is at the depth bound. -/
  | depthLimit
  /-- The bound on the number of entries was met before all calls were followed. -/
  | truncated
deriving DecidableEq, Repr, Inhabited

/-- The name of a status. -/
def CallStackStatus.name : CallStackStatus → String
  | .expanded => "expanded"
  | .cyclic => "cyclic"
  | .unresolved => "unresolved"
  | .depthLimit => "depth_limit"
  | .truncated => "truncated"

/-- An entry of a call stack. -/
structure CallStackEntry where
  /-- The position in the listing. -/
  id : Nat
  /-- The caller; none for the root. -/
  parentId : Option Nat
  depth : Nat
  status : CallStackStatus
  /-- None for unresolved names. -/
  definition : Option Definition
  /-- The call in the caller that led here; none for the root. -/
  callSite : Option CallSite
  calleeName : Text
  /-- The number of definitions that the name stands for. -/
  candidateCount : Nat
deriving DecidableEq, Inhabited

/-- A call stack: its entries level by level, the root first. -/
structure CallStack where
  entries : List CallStackEntry
  maxDepth : Nat
  truncated : Bool
deriving DecidableEq, Inhabited

namespace CallStack

/-- What calls are followed in: a model with its index, and the depth bound. -/
structure Scope where
  model : RepoModel
  index : SymbolIndex
  maxDepth : Nat

/-- The language of the file that a definition says it is in. -/
def Scope.languageOf? (s : Scope) (d : Definition) : Option Text :=
  (s.model.file? d.filePath).map FileModel.language

/-! ## The calls of one caller -/

/-- A callee: a call site with one of the definitions that its name stands for, or with none. -/
structure Callee where
  site : CallSite
  definition : Option Definition
  candidateCount : Nat
deriving DecidableEq, Inhabited

/-- What tells callees of one caller apart: the key of a definition, or for an unresolved callee its
name behind a word and the unit 0, which may be the key of a definition too. -/
def Callee.mark (c : Callee) : Text :=
  match c.definition with
  | none => Text.ofString "unresolved" ++ 0 :: c.site.callee
  | some d => d.key

/-- The callees of a call site. -/
def Scope.calleesAt (s : Scope) (language : Option Text) (site : CallSite) : List Callee :=
  match s.index.resolve site.callee language with
  | [] => [⟨site, none, 0⟩]
  | candidates => candidates.map fun d => ⟨site, some d, candidates.length⟩

/-- What the calls of an entry's definition lead to, one call after another. -/
def Scope.called (s : Scope) (e : CallStackEntry) : List Callee :=
  match e.definition with
  | none => []
  | some d => d.calls.flatMap (s.calleesAt (s.languageOf? d))

/-- The status of a callee at a depth, where it is known which keys stand on the path. A definition
on the path is cyclic even at the bound. -/
def Scope.statusOf (s : Scope) (isOnPath : Text → Bool) (depth : Nat) (c : Callee) :
    CallStackStatus :=
  match c.definition with
  | none => .unresolved
  | some d =>
    if isOnPath d.key then .cyclic
    else if s.maxDepth ≤ depth then .depthLimit
    else .expanded

/-- The entry of a callee. -/
def Callee.entry (c : Callee) (caller : CallStackEntry) (id : Nat) (status : CallStackStatus) :
    CallStackEntry where
  id
  parentId := some caller.id
  depth := caller.depth + 1
  status
  definition := c.definition
  callSite := some c.site
  calleeName := c.site.callee
  candidateCount := c.candidateCount

/-! ## The queue -/

/-- How far calls were followed. -/
structure Progress where
  /-- The entries so far, each at the place of its number. -/
  entries : Array CallStackEntry := #[]
  /-- The numbers of the entries whose calls are followed, in order. -/
  frontier : Array Nat := #[]
  truncated : Bool := false

/-- Is there a definition with a key on the way from an entry up to the root? The way has no more
steps than there are entries. -/
def isOnPath (entries : Array CallStackEntry) (key : Text) : (steps id : Nat) → Bool
  | 0, _ => false
  | steps + 1, id =>
    match entries[id]? with
    | none => false
    | some e =>
      e.definition.any (fun d => d.key = key) || e.parentId.any (isOnPath entries key steps)

/-- Takes an entry, whose calls are followed if it is expanded. -/
def Progress.push (p : Progress) (e : CallStackEntry) : Progress :=
  { p with
    entries := p.entries.push e
    frontier := if e.status = .expanded then p.frontier.push e.id else p.frontier }

/-- Takes the callees of a caller but those that repeat an earlier one, until there is no place for
one more. -/
def Scope.takeCallees (s : Scope) (maxNodes : Nat) (caller : CallStackEntry) :
    (seen : List Text) → Progress → List Callee → Progress
  | _, p, [] => p
  | seen, p, c :: cs =>
    if c.mark ∈ seen then s.takeCallees maxNodes caller seen p cs
    else if maxNodes ≤ p.entries.size then { p with truncated := true }
    else
      let status := s.statusOf (fun key => isOnPath p.entries key p.entries.size caller.id)
        (caller.depth + 1) c
      s.takeCallees maxNodes caller (c.mark :: seen)
        (p.push (c.entry caller p.entries.size status)) cs

/-- An entry whose calls were not all followed. -/
def cutShort (e : CallStackEntry) : CallStackEntry := { e with status := .truncated }

/-- Marks the callers from a place of the queue on as truncated. -/
def Progress.cut (p : Progress) (head : Nat) : Progress :=
  { p with
    entries := (p.frontier.toList.drop head).foldl (fun es id => es.modify id cutShort)
      p.entries }

/-- Follows the calls of the callers from a place of the queue on. -/
def Scope.work (s : Scope) (maxNodes : Nat) : (steps head : Nat) → Progress → Progress
  | 0, _, p => p
  | steps + 1, head, p =>
    match p.frontier[head]?.bind fun id => p.entries[id]? with
    | none => p
    | some caller =>
      let next := s.takeCallees maxNodes caller [] p (s.called caller)
      if next.truncated then next.cut head else s.work maxNodes steps (head + 1) next

/-- The entry of the root. -/
def Scope.rootEntry (s : Scope) (d : Definition) : CallStackEntry where
  id := 0
  parentId := none
  depth := 0
  status := if s.maxDepth = 0 then .depthLimit else .expanded
  definition := some d
  callSite := none
  calleeName := d.name
  candidateCount := 1

/-- The call stack of a definition with at most a number of entries. No more callers are followed
than there are entries. -/
def Scope.expand (s : Scope) (maxNodes : Nat) (root : Definition) : CallStack :=
  let done := s.work maxNodes maxNodes 0 (Progress.push {} (s.rootEntry root))
  { entries := done.entries.toList, maxDepth := s.maxDepth, truncated := done.truncated }

/-- The scope of a model. -/
def Scope.of (m : RepoModel) (maxDepth : Nat) : Scope := ⟨m, .build m, maxDepth⟩

/-! ## Requests -/

/-- The largest depth bound. -/
def depthLimit : Nat := 64

/-- The largest number of entries, where nothing else is said. -/
def defaultMaxNodes : Number := 10000

/-- Why there is no call stack. -/
inductive Error where
  /-- No definition encloses the line. -/
  | noEnclosingDefinition (filePath : Text) (line : Number)
deriving DecidableEq

/-- The message of an error. -/
def Error.message : Error → Text
  | .noEnclosingDefinition filePath line =>
    Text.ofString "No definition encloses " ++ filePath ++ Text.unit ':' :: line.toText

/-- The natural number that a number is, if it is one. -/
def natural? (n : Number) : Option Nat :=
  if n.den = 1 ∧ 0 ≤ n.num then some n.num.toNat else none

/-- The depth bound of a request. -/
def checkDepth (maxDepth : Number) : Except Failure Nat :=
  match natural? maxDepth with
  | some n => if n ≤ depthLimit then .ok n else .error refusal
  | none => .error refusal
where
  refusal : Failure :=
    Failure.of .validation (Text.ofString "maxDepth must be an integer between 0 and "
      ++ Text.ofNat depthLimit ++ Text.ofString ", got " ++ maxDepth.toText)

/-- The bound on the number of entries of a request. -/
def checkNodes (maxNodes : Number) : Except Failure Nat :=
  match natural? maxNodes with
  | some n => if 1 ≤ n then .ok n else .error refusal
  | none => .error refusal
where
  refusal : Failure :=
    Failure.of .validation
      (Text.ofString "maxNodes must be a positive integer, got " ++ maxNodes.toText)

/-- The call stack of the definition that encloses a line, within bounds that are known to hold. -/
def resolveWithin (m : RepoModel) (path : Text) (line : Number) (maxDepth maxNodes : Nat) :
    Except Error CallStack :=
  match m.enclosing? path line with
  | none => .error (.noEnclosingDefinition path line)
  | some root => .ok ((Scope.of m maxDepth).expand maxNodes root)

/-- The call stack of the definition that encloses a line of a file. Bounds out of range are
refused. -/
def resolve (m : RepoModel) (filePath : Text) (line maxDepth maxNodes : Number) :
    Except Failure (Except Error CallStack) := do
  let depth ← checkDepth maxDepth
  let nodes ← checkNodes maxNodes
  return resolveWithin m (Path.normalize filePath) line depth nodes

end CallStack

end CallAtlas
