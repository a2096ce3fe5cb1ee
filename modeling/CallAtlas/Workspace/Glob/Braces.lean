import CallAtlas.Number.Decimal
import CallAtlas.Number.Reading

/-!
# Braces in glob patterns

Braces list alternatives with commas between them, or a range of numbers or letters with two dots
between its ends and perhaps a step behind. A pattern with braces stands for the patterns that
result from every choice. Brackets and quotes hold their units for themselves, parentheses keep
commas and dots from counting, and a brace after a dollar sign or without commas stays as it is.
-/

namespace CallAtlas

/-- Why a glob pattern is refused. -/
inductive GlobFault where
  /-- Nothing is left of it. -/
  | empty
  /-- It has too many units. -/
  | tooLong (length limit : Nat)
  /-- It has too many units for its braces to be expanded. -/
  | bracesTooLong (length limit : Nat)
  /-- A range in it has too many members. -/
  | rangeTooLong
  /-- A brace before parentheses in it is not closed. -/
  | openBeforeParen
deriving DecidableEq, Repr

/-- What is said of a pattern that is refused. -/
def GlobFault.message : GlobFault → Text
  | empty => Text.ofString "Expected a non-empty string"
  | tooLong length limit =>
    Text.ofString ("Input length: " ++ Nat.repr length
      ++ ", exceeds maximum allowed length: " ++ Nat.repr limit)
  | bracesTooLong length limit =>
    Text.ofString ("Input length (" ++ Nat.repr length ++ "), exceeds max characters ("
      ++ Nat.repr limit ++ ")")
  | rangeTooLong =>
    Text.ofString ("expanded array length exceeds range limit. "
      ++ "Use options.rangeLimit to increase or disable the limit.")
  | openBeforeParen => Text.ofString "Cannot read properties of undefined (reading 'push')"

namespace Braces

/-! ## Pieces -/

/-- What a piece of a pattern is. -/
inductive Kind where
  | text
  /-- A dot that may begin the two dots of a range. -/
  | dot
  /-- The two dots of a range. -/
  | range
  | comma
  | opening
  | closing
  /-- Pieces between parentheses. -/
  | paren
  /-- Pieces between braces; of all pieces the whole pattern is one as well. -/
  | brace
deriving DecidableEq, Repr, Inhabited

/-- A piece of a pattern. Pieces know one another by their numbers. -/
structure Piece where
  kind : Kind
  value : Text := []
  /-- The pieces that it holds. -/
  inner : List Nat := []
  commas : Nat := 0
  ranges : Nat := 0
  /-- Does it stand behind a dollar sign, by itself or with what holds it? -/
  afterDollar : Bool := false
  /-- Does it hold two dots that make no range, or do parentheses stand in a brace that is not
  closed? -/
  broken : Bool := false
deriving Inhabited

/-- A pattern that is being read. -/
structure Draft where
  pieces : Array Piece := #[{ kind := .brace }]
  /-- The pieces that are open, the innermost first; the whole pattern is none of them. -/
  stack : List Nat := []
  /-- The piece that came last. -/
  last : Nat := 0
  /-- The number of open braces. -/
  depth : Nat := 0

namespace Draft

/-- A piece by its number. -/
def piece (d : Draft) (i : Nat) : Piece := (d.pieces[i]?).getD default

/-- Changes a piece. -/
def alter (d : Draft) (i : Nat) (f : Piece → Piece) : Draft :=
  { d with pieces := d.pieces.modify i f }

/-- The innermost open piece. -/
def block (d : Draft) : Nat := d.stack.headD 0

/-- Adds a piece to an open one. -/
def addTo (d : Draft) (block : Nat) (p : Piece) : Draft :=
  let n := d.pieces.size
  let grown : Draft := { d with pieces := d.pieces.push p, last := n }
  grown.alter block fun b => { b with inner := b.inner ++ [n] }

/-- Adds a text to an open piece; texts that follow one another are one. A single dot before it is
no part of a range. -/
def addText (d : Draft) (block : Nat) (value : Text) : Draft :=
  let before := d.piece d.last
  if d.last != 0 && (before.kind == .text || before.kind == .dot) then
    d.alter d.last fun p => { p with kind := .text, value := p.value ++ value }
  else d.addTo block { kind := .text, value }

/-- Opens a piece. -/
def enter (d : Draft) (p : Piece) : Draft :=
  let d := d.addTo d.block p
  { d with stack := d.last :: d.stack }

end Draft

/-- What a piece is written as. -/
def written (pieces : Array Piece) (fuel : Nat) (i : Nat) : Text :=
  match fuel with
  | 0 => []
  | n + 1 =>
    let p := (pieces[i]?).getD default
    if p.value.isEmpty then p.inner.flatMap (written pieces n) else p.value

/-! ## Reading -/

/-- A backslash with the unit behind it. At the end, the word for what is not there follows it. -/
def escapePair (rest : Text) : Text :=
  Text.backslash :: (if rest.isEmpty then Text.ofString "undefined" else rest.take 1)

/-- Cuts a text behind an opening bracket after the bracket that closes it, brackets inside
included. -/
def bracket (fuel depth : Nat) (t : Text) : Text × Text :=
  match fuel, t with
  | 0, _ => ([], t)
  | _, [] => ([], [])
  | n + 1, u :: rest =>
    let onward (depth : Nat) (part rest : Text) : Text × Text :=
      let (inside, after) := bracket n depth rest
      (part ++ inside, after)
    if u = Text.unit '[' then onward (depth + 1) [u] rest
    else if u = Text.backslash then onward depth (escapePair rest) (rest.drop 1)
    else if u = Text.unit ']' then
      if depth = 0 then ([u], rest) else onward (depth - 1) [u] rest
    else onward depth [u] rest

/-- Cuts a text behind a quote into what is quoted and what comes after the closing one. -/
def quoted (fuel : Nat) (quote : CodeUnit) (t : Text) : Text × Text :=
  match fuel, t with
  | 0, _ => ([], t)
  | _, [] => ([], [])
  | n + 1, u :: rest =>
    if u = quote then ([], rest)
    else
      let (part, rest) := if u = Text.backslash then (escapePair rest, rest.drop 1) else ([u], rest)
      let (inside, after) := quoted n quote rest
      (part ++ inside, after)

/-- Takes a comma inside braces. A range before it is none. -/
def takeComma (d : Draft) : Draft :=
  let b := d.block
  let d :=
    if (d.piece b).ranges = 0 then d
    else
      let inner := (d.piece b).inner
      let value := (inner.drop 1).flatMap (written d.pieces d.pieces.size)
      let n := d.pieces.size
      { d with pieces := d.pieces.push { kind := .text, value } }.alter b fun p =>
        { p with ranges := 0, inner := inner.take 1 ++ [n] }
  (d.addTo b { kind := .comma, value := [Text.unit ','] }).alter b fun p =>
    { p with commas := p.commas + 1 }

/-- Takes a dot inside braces that hold no comma so far. The second of two dots makes a range if
one value, or a range and a value, stand before them; a third one undoes it and makes the dots part
of the value, or all of it if the value is a group. -/
def takeDot (d : Draft) : Draft :=
  let b := d.block
  let before := d.piece d.last
  if before.kind == .dot then
    let count := (d.piece b).inner.length
    let d := d.alter d.last fun p => { p with kind := .range, value := p.value ++ [Text.dot] }
    if count = 3 || count = 5 then d.alter b fun p => { p with ranges := p.ranges + 1 }
    else
      (d.alter b fun p => { p with ranges := 0, broken := true }).alter d.last fun p =>
        { p with kind := .text }
  else if before.kind == .range then
    let inner := (d.piece b).inner.dropLast
    let target := inner.getLastD 0
    let d := d.alter b fun p => { p with inner, ranges := p.ranges - 1 }
    let own (p : Piece) : Text :=
      if p.value.isEmpty then Text.ofString "undefined" else p.value
    { d.alter target fun p => { p with value := own p ++ before.value ++ [Text.dot] } with
      last := target }
  else d.addTo b { kind := .dot, value := [Text.dot] }

/-- Takes an opening brace. -/
def openBrace (d : Draft) : Draft :=
  let afterDollar :=
    (d.piece d.last).value.getLast? == some (Text.unit '$') || (d.piece d.block).afterDollar
  let d := { d with depth := d.depth + 1 }.enter { kind := .brace, afterDollar }
  d.addTo d.block { kind := .opening, value := [Text.unit '\x7b'] }

/-- Takes a closing brace or parenthesis if it closes the innermost open piece. -/
def close (d : Draft) (kind : Kind) (u : CodeUnit) : Draft :=
  match d.stack with
  | [] => d.addText 0 [u]
  | b :: outer =>
    if (d.piece b).kind != kind then d.addText b [u]
    else if kind == .brace then
      { d.addTo b { kind := .closing, value := [u] } with stack := outer, depth := d.depth - 1 }
    else { d.addText b [u] with stack := outer }

/-- Does a quote begin? -/
def isQuote (u : CodeUnit) : Bool :=
  u = Text.unit '"' || u = Text.unit '\'' || u = 0x60

/-- Takes one unit, and the units behind it that belong to it. -/
def take (d : Draft) (u : CodeUnit) (rest : Text) : Draft × Text :=
  let b := d.block
  let isBrace := b != 0 && (d.piece b).kind == .brace
  if u = 0xFEFF || u = 0xA0 then (d, rest)
  else if u = Text.backslash then (d.addText b (escapePair rest), rest.drop 1)
  else if u = Text.unit ']' then (d.addText b [Text.backslash, u], rest)
  else if u = Text.unit '[' then
    let (inside, after) := bracket (rest.length + 1) 0 rest
    (d.addText b (u :: inside), after)
  else if u = Text.unit '(' then
    let d := d.enter { kind := .paren }
    (d.addText d.block [u], rest)
  else if u = Text.unit ')' then (close d .paren u, rest)
  else if isQuote u then
    let (inside, after) := quoted (rest.length + 1) u rest
    (d.addText b inside, after)
  else if u = Text.unit '\x7b' then (openBrace d, rest)
  else if u = Text.unit '\x7d' then (close d .brace u, rest)
  else if u = Text.unit ',' && 0 < d.depth then
    (if isBrace then takeComma d else d.addTo b { kind := .comma, value := [u] }, rest)
  else if u = Text.dot && isBrace && (d.piece b).commas = 0 then (takeDot d, rest)
  else (d.addText b [u], rest)

/-- Takes all units of a text. -/
def takeAll (fuel : Nat) (d : Draft) (t : Text) : Draft :=
  match fuel, t with
  | 0, _ => d
  | _, [] => d
  | n + 1, u :: rest =>
    let (d, rest) := take d u rest
    takeAll n d rest

/-- Puts the pieces of an open piece in its place, each of them a text or a group. -/
def dissolve (pieces : Array Piece) (block parent : Nat) : Array Piece :=
  let outer := (pieces[block]?).getD default
  let inner := outer.inner
  let pieces := inner.foldl (fun ps i =>
    ps.modify i fun p =>
      if p.inner.isEmpty then { p with kind := .text }
      else if p.kind == .paren && outer.kind == .brace then { p with broken := true }
      else p) pieces
  pieces.modify parent fun p =>
    { p with inner := p.inner.flatMap fun i => if i = block then inner else [i] }

/-- Puts the pieces of all open pieces in their places, the innermost first. -/
def dissolveAll (pieces : Array Piece) : List Nat → Array Piece
  | [] => pieces
  | [b] => dissolve pieces b 0
  | b :: parent :: outer => dissolveAll (dissolve pieces b parent) (parent :: outer)

/-- The pieces of a pattern; the first of them is the whole. -/
def read (t : Text) : Array Piece :=
  let d := takeAll (t.length + 1) {} t
  dissolveAll d.pieces d.stack

/-! ## Ranges -/

/-- The integer that a text stands for. -/
def integer? (t : Text) : Option Int :=
  (Number.ofText? t).bind fun n => if n.isInteger then some n.num else none

/-- Does a number begin with zeros that do not count? -/
def hasLeadingZeros (t : Text) : Bool :=
  let digits := if t.head? == some (Text.unit '-') then t.drop 1 else t
  digits ≠ [Text.unit '0'] && digits.head? == some (Text.unit '0')

/-- A number with zeros before it up to a width; the sign counts. -/
def padded (width : Nat) (t : Text) : Text :=
  let zeros (n : Nat) : Text := List.replicate n (Text.unit '0')
  if t.head? == some (Text.unit '-') then
    Text.unit '-' :: zeros (width - t.length) ++ t.drop 1
  else zeros (width - t.length) ++ t

/-- The integers from one to another, in steps. -/
def stepped (first last : Int) (step : Nat) : List Int :=
  let direction : Int := if last < first then -1 else 1
  (List.range ((last - first).natAbs / step + 1)).map fun i => first + direction * (i * step : Nat)

/-- The numbers of a range, as wide as the widest of its ends if one of them is padded. -/
def numbers (first last : Text) (a b : Int) (stepText : Text) (step : Nat) : List Text :=
  let isPadded := [first, last, stepText].any hasLeadingZeros
  let width := if isPadded then max first.length (max last.length stepText.length) else 0
  (stepped a b step).map fun n : Int => padded width (Number.toText n)

/-- The members of a range with the given ends and perhaps a step; none if it is no range. -/
def members (arguments : List Text) : List Text :=
  let fill (first last stepText : Text) (step : Int) : List Text :=
    let size := max step.natAbs 1
    match integer? first, integer? last with
    | some a, some b => numbers first last a b stepText size
    | a, b =>
      if (a.isNone && 1 < first.length) || (b.isNone && 1 < last.length) then []
      else
        match first, last with
        | u :: _, v :: _ =>
          (stepped (u.toNat : Int) (v.toNat : Int) size).map fun n => [n.toNat.toUInt16]
        | _, _ => []
  match arguments with
  | [first, last] => fill first last [Text.unit '1'] 1
  | first :: last :: step :: _ => ((integer? step).map (fill first last step)).getD []
  | _ => []

/-- How many members a range may have. -/
def rangeLimit : Nat := 1000

/-- Does a range without a step have too many members? -/
def isTooLong (arguments : List Text) : Bool :=
  match arguments with
  | [first, last] =>
    match integer? first, integer? last with
    | some a, some b => (rangeLimit : Int) ≤ b - a
    | _, _ => false
  | _ => false

/-! ## Expansion -/

/-- Every text of the first list with every text of the second one behind it. -/
def combine (queue stash : List Text) : List Text :=
  if stash.isEmpty then queue else queue.flatMap fun a => stash.map fun b => a ++ b

/-- The alternatives so far, the last one first, with more behind the last one. -/
def extend (queue : List (List Text)) (stash : List Text) : List (List Text) :=
  match queue with
  | [] => [combine [[]] stash]
  | last :: before => combine last stash :: before

/-- A text between braces. -/
def enclosed (t : Text) : Text := Text.unit '\x7b' :: t ++ [Text.unit '\x7d']

mutual

/-- The alternatives so far with those of a piece. -/
def expandPiece (pieces : Array Piece) (fuel : Nat) (queue : List (List Text)) (i : Nat) :
    Except GlobFault (List (List Text)) :=
  match fuel with
  | 0 => .ok queue
  | n + 1 =>
    let p := (pieces[i]?).getD default
    match p.kind with
    | .opening => .ok queue
    | .paren =>
      if !p.value.isEmpty then .ok (extend queue [p.value])
      else if p.broken then .error .openBeforeParen
      else expandAll pieces n false 1 queue p.inner
    | .brace =>
      if !p.value.isEmpty then .ok (extend queue [p.value])
      else if p.afterDollar || p.broken then .ok (extend queue [written pieces pieces.size i])
      -- Braces with nothing between them stand for themselves, and so do those without a comma.
      else if p.inner.length = 2 then .ok (extend queue [enclosed []])
      else if 0 < p.ranges then
        let arguments := (p.inner.filterMap (pieces[·]?)).filterMap fun q =>
          if q.kind == .text then some q.value else none
        if isTooLong arguments then .error .rangeTooLong
        else
          match members arguments with
          | [] => .ok (extend queue [written pieces pieces.size i])
          | ms => .ok (extend queue ms)
      else
        (expandAll pieces n true 0 [] p.inner).map fun alternatives =>
          let stash := alternatives.reverse.flatten
          extend queue (if p.commas = 0 then stash.map enclosed else stash)
    | .closing => .ok queue
    | _ => .ok (if p.value.isEmpty then queue else extend queue [p.value])

/-- The alternatives so far with those of several pieces. A comma of a brace begins a new
alternative, and two of them if it comes first. -/
def expandAll (pieces : Array Piece) (fuel : Nat) (isBrace : Bool) (place : Nat)
    (queue : List (List Text)) (inner : List Nat) : Except GlobFault (List (List Text)) :=
  match fuel with
  | 0 => .ok queue
  | n + 1 =>
    match inner with
    | [] => .ok queue
    | i :: rest =>
      let isComma := isBrace && ((pieces[i]?).getD default).kind == .comma
      let next :=
        if isComma then .ok ((if place = 1 then [[[]], [[]]] else [[[]]]) ++ queue)
        else expandPiece pieces n queue i
      match next with
      | .error e => .error e
      | .ok queue => expandAll pieces n isBrace (place + 1) queue rest

end

/-- How many units a pattern with braces may have. -/
def lengthLimit : Nat := 10000

/-- Does a pattern hold a brace and behind it another one that may close it? -/
def hasBraces (t : Text) : Bool :=
  (t.dropWhile fun u => u ≠ Text.unit '\x7b').contains (Text.unit '\x7d')

/-- The patterns that a pattern stands for, each once; empty ones are left out. -/
def expand (t : Text) : Except GlobFault (List Text) :=
  if !hasBraces t then .ok ([t].filter fun p => !p.isEmpty)
  else if t.length < 3 then .ok [t]
  else if lengthLimit < t.length then .error (.bracesTooLong t.length lengthLimit)
  else
    let pieces := read t
    let whole := ((pieces[0]?).getD default).inner
    (expandAll pieces (2 * pieces.size + 4) false 0 [] whole).map fun queue =>
      (Text.distinct queue.reverse.flatten).filter fun p => !p.isEmpty

end Braces

end CallAtlas
