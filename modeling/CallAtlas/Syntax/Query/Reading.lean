import CallAtlas.Syntax.Query.Condition

/-!
# Reading the patterns of a query

A pattern is a node in parentheses with patterns for its children, an anonymous node in quotes, the
wildcard `_`, a group, or alternatives in brackets; a field may be named before it, and repetitions
and captures may stand after it.

A query is refused if it is not well-formed, or if it names a kind or a field that the grammar does
not have or a capture that was not made.
-/

namespace CallAtlas.Syntax

namespace Query

/-- What patterns are enclosed by. -/
inductive Enclosure where
  /-- Alternatives in brackets. -/
  | alternatives
  /-- Patterns in parentheses. -/
  | group
  /-- The children of a node. -/
  | children
deriving DecidableEq

namespace Enclosure

/-- The closing code point. -/
def closer : Enclosure → Nat
  | alternatives => code ']'
  | _ => code ')'

/-- May the enclosure be closed, with or without an anchor before? -/
def mayClose (e : Enclosure) (isEmpty anchored : Bool) : Bool :=
  match e with
  | alternatives => !isEmpty
  | group => true
  | children => !(isEmpty && anchored)

end Enclosure

/-- Is the code point a closing one? -/
def isCloser (c : Nat) : Bool := c == code ')' || c == code ']'

/-- Reads repetitions and captures behind a pattern. -/
def suffixes : (fuel : Nat) → QueryTerm → Cursor → Read (QueryTerm × Cursor)
  | 0, t, c => .ok (t, c)
  | fuel + 1, t, c =>
    if c.next = code '+' then suffixes fuel (.repeated t) c.advance.skip
    else if c.next = code '*' then suffixes fuel (.many t) c.advance.skip
    else if c.next = code '?' then suffixes fuel (.optional t) c.advance.skip
    else if c.next = code '@' then
      let c := c.advance
      if beginsName c.next then
        let (name, c) := c.name
        suffixes fuel t { c with captures := name :: c.captures }.skip
      else c.stop
    else .ok (t, c)

/-- Reads the name of a field that a node must not have. -/
def absentField (v : Vocabulary) (c : Cursor) : Read Cursor :=
  let c := c.advance.skip
  if beginsName c.next then
    let (name, after) := c.name
    if v.hasField (stringOf name) then .ok after.skip else c.stop .unknownField
  else c.stop

/-- What a name asks of a node, and the hidden rule that it is one of. -/
def demandOf? (v : Vocabulary) (name : String) (named : Bool) :
    Option (Demand × Option String) :=
  if Vocabulary.namesError name then some (.error, none)
  else if v.hasKind ⟨name, named⟩ then some (.kind ⟨name, named⟩, none)
  else if named && v.hasSupertype name then some (.anything, some name)
  else none

/-- Reads the kind of a named node, and the hidden rule that it is one of. -/
def namedKind (v : Vocabulary) (c : Cursor) : Read ((Demand × Option String) × Cursor) :=
  let (name, after) := c.name
  if name = [code '_'] then .ok ((.anyNamed, none), after.skip)
  else
    match demandOf? v (stringOf name) true with
    | some found => .ok (found, after.skip)
    | none => c.stop .unknownKind

/-- Reads the kind of a node, or a hidden rule and behind a slash a kind that it groups. -/
def nodeKind (v : Vocabulary) (c : Cursor) : Read ((Demand × Option String) × Cursor) := do
  let ((demand, supertype), c) ← namedKind v c
  if c.next = code '/' then
    let c := c.advance
    if beginsName c.next then
      let (name, after) := c.name
      match demandOf? v (stringOf name) true with
      | some (_, some rule) => .ok ((.kind ⟨rule, true⟩, supertype), after.skip)
      | some (inner, none) => .ok ((inner, supertype), after.skip)
      | none => c.stop .unknownKind
    else c.stop
  else .ok ((demand, supertype), c)

/-- Does a name end as those of conditions do? -/
def endsCondition (name : List Nat) : Bool :=
  name.getLast? == some (code '!') || name.getLast? == some (code '?')

mutual

/-- Reads a pattern. -/
def term (v : Vocabulary) (total : Nat) : (fuel : Nat) → Cursor → Read (QueryTerm × Cursor)
  | 0, c => c.stop
  | fuel + 1, c =>
    let position := positionOf total c.rest
    if c.next = code '[' then do
      let (ts, c) ← terms v total fuel .alternatives [] c.advance.skip
      suffixes fuel (.alternatives position ts) c.skip
    else if c.next = code '(' then
      let inner := c.advance.skip
      if inner.next = code '(' || inner.next = code '"' || inner.next = code '[' then do
        let (ts, c) ← terms v total fuel .group [] inner
        suffixes fuel (.group position ts) c.skip
      else if inner.next = code '.' || inner.next = code '#' then
        condition position inner.advance
      else if beginsName inner.next then
        if endsCondition inner.name.1 then condition position inner
        else do
          let ((demand, supertype), below) ← nodeKind v inner
          let (ts, after) ← terms v total fuel .children [] below
          suffixes fuel (.node position demand supertype ts) after.skip
      else inner.stop
    else if c.next = code '_' then
      suffixes fuel (.node position .anything none []) c.advance.skip
    else if c.next = code '"' then do
      let (value, after) ← c.string
      match demandOf? v (stringOf value) false with
      | some (demand, _) => suffixes fuel (.node position demand none []) after.skip
      | none => c.advance.stop .unknownKind
    else if beginsName c.next then do
      let (name, after) := c.name
      let after := after.skip
      if after.next = code ':' then
        let (t, below) ← term v total fuel after.advance.skip
        if v.hasField (stringOf name) then
          suffixes fuel (.labelled position (stringOf name) t) below.skip
        else c.stop .unknownField
      else c.stop
    else c.stop

/-- Reads patterns up to the end of their enclosure. -/
def terms (v : Vocabulary) (total : Nat) :
    (fuel : Nat) → Enclosure → List QueryTerm → Cursor → Read (List QueryTerm × Cursor)
  | 0, _, _, c => c.stop
  | fuel + 1, e, found, c =>
    if e = .children ∧ c.next = code '!' then do
      let c ← absentField v c
      terms v total fuel e found c
    else
      let anchored := e != .alternatives && c.next == code '.'
      let c := if anchored then c.advance.skip else c
      if isCloser c.next then
        if c.next = e.closer ∧ e.mayClose found.isEmpty anchored then
          .ok (found.reverse, c.advance)
        else c.stop
      else do
        let (t, c) ← term v total fuel c
        terms v total fuel e (t :: found) c

end

/-- Reads all patterns of a query. -/
def patterns (v : Vocabulary) (total : Nat) :
    (fuel : Nat) → Cursor → Read (List QueryTerm × Cursor)
  | 0, c => c.stop
  | fuel + 1, c =>
    if c.rest.isEmpty then .ok ([], c)
    else do
      let (t, c) ← term v total fuel c
      let (ts, c) ← patterns v total fuel c.skip
      return (t :: ts, c)

end Query

end CallAtlas.Syntax
