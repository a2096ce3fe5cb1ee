import CallAtlas.Syntax.Lexer

/-!
# Line ends, indentation and strings in Python

The scanner keeps a stack of indentations and a stack of open strings. Where a line has ended it
compares the indentation of the next line that is not blank with the innermost open one; inside
a string it looks for the quote that closes it, and for the parts that the grammar describes.
-/

namespace CallAtlas.Languages.Python

open CallAtlas.Syntax

/-- The scanner's tokens, by number. -/
private inductive Kind where
  | newline
  | indent
  | dedent
  | stringStart
  | stringContent
  | escapeInterpolation
  | stringEnd
  | comment
  | closeBracket
  | closeParen
  | closeBrace
  | except
deriving DecidableEq

/-- The scanner's number of a token. -/
private def Kind.number : Kind → Nat
  | .newline => 0
  | .indent => 1
  | .dedent => 2
  | .stringStart => 3
  | .stringContent => 4
  | .escapeInterpolation => 5
  | .stringEnd => 6
  | .comment => 7
  | .closeBracket => 8
  | .closeParen => 9
  | .closeBrace => 10
  | .except => 11

/-- An open string: its quote and the marks before it. -/
private structure Delimiter where
  quote : Nat := 0
  raw : Bool := false
  format : Bool := false
  bytes : Bool := false
  triple : Bool := false

/-- A bit of a written number. -/
private def bit (b : Bool) (value : Nat) : Nat := if b then value else 0

/-- A delimiter as a number. -/
private def Delimiter.encode (d : Delimiter) : Nat :=
  d.quote * 16 + bit d.raw 1 + bit d.format 2 + bit d.bytes 4 + bit d.triple 8

/-- The delimiter that a number stands for. -/
private def Delimiter.decode (n : Nat) : Delimiter :=
  { quote := n / 16, raw := n.testBit 0, format := n.testBit 1, bytes := n.testBit 2,
    triple := n.testBit 3 }

/-- What the scanner remembers: the open strings and the open indentations, the innermost
first, and whether the innermost string is a format string. -/
private structure State where
  inFormat : Bool := false
  strings : List Delimiter := []
  indents : List Nat := [0]

/-- The most strings that are written. -/
private def mostStrings : Nat := 255

/-- The most strings and indentations that are written, two marks before them included. -/
private def memorySize : Nat := 1024

/-- The state in written form, the outermost strings and indentations first. An indentation is written
as a byte, so that one of 256 columns or more is remembered as a smaller one; the indentation of the
text as a whole is not written. -/
private def State.encode (s : State) : Memory :=
  let strings := s.strings.reverse.take mostStrings
  let indents := (s.indents.reverse.drop 1).map (· % 256)
  (bit s.inFormat 1 :: strings.length :: strings.map Delimiter.encode ++ indents).take memorySize

/-- Reads a written state; nothing written is the state at the beginning. -/
private def State.decode : Memory → State
  | inFormat :: count :: rest =>
    { inFormat := inFormat == 1, strings := ((rest.take count).map Delimiter.decode).reverse,
      indents := (rest.drop count).reverse ++ [0] }
  | _ => {}

/-- The code point of a character. -/
private def code (c : Char) : Nat := c.toNat

/-- The outcome of reading string content: the kind of token, and where it ends. -/
private structure Content where
  kind : Kind
  stop : Nat

/-- Reads on in a string. The result is no token where none can be made, and the offset where
the source ended as an error. -/
private def scanContent (source : Source) (d : Delimiter) :
    (fuel : Nat) → (offset : Nat) → (hasContent : Bool) → Except Nat (Option Content)
  | 0, offset, _ => .error offset
  | fuel + 1, offset, hasContent =>
    let c := source.codePoint offset
    let content (stop : Nat) : Except Nat (Option Content) :=
      .ok (if hasContent then some ⟨.stringContent, stop⟩ else none)
    let next := source.next offset
    if c == 0 then .error offset
    else if (c == code '\x7b' || c == code '\x7d') && d.format then content offset
    else if c == code '\\' then
      -- In a raw string a backslash only keeps what comes after it from ending the string.
      if d.raw then
        let o := next
        let escaped := source.codePoint o
        let o := if escaped == d.quote || escaped == code '\\' then source.next o else o
        let o :=
          if source.codePoint o == code '\r' then
            let o := source.next o
            if source.codePoint o == code '\n' then source.next o else o
          else if source.codePoint o == code '\n' then source.next o
          else o
        scanContent source d fuel o hasContent
      -- Characters cannot be named among bytes: there such an escape is plain content.
      else if d.bytes then
        let after := source.codePoint next
        if after == code 'N' || after == code 'u' || after == code 'U' then
          scanContent source d fuel (source.next (source.next next)) true
        else content offset
      else content offset
    else if c == d.quote then
      if d.triple then
        -- One or two quotes are content of a string that three of them end.
        if source.codePoint next == d.quote then
          let third := source.next next
          if source.codePoint third == d.quote then
            if hasContent then .ok (some ⟨.stringContent, offset⟩)
            else .ok (some ⟨.stringEnd, source.next third⟩)
          else .ok (some ⟨.stringContent, third⟩)
        else .ok (some ⟨.stringContent, next⟩)
      else if hasContent then .ok (some ⟨.stringContent, offset⟩)
      else .ok (some ⟨.stringEnd, next⟩)
    -- A string within one line is not closed.
    else if c == code '\n' && hasContent && !d.triple then .ok none
    else scanContent source d fuel next true

/-- What stands between a token and the next one. -/
private structure Gap where
  offset : Nat
  lineEnd : Bool := false
  indent : Nat := 0
  /-- The indentation of the first comment on a line of its own. -/
  comment : Option Nat := none

/-- The end of the line at an offset. -/
private def lineEnd (source : Source) : (fuel : Nat) → (offset : Nat) → Nat
  | 0, offset => offset
  | fuel + 1, offset =>
    let c := source.codePoint offset
    if c == 0 || c == code '\n' then offset else lineEnd source fuel (source.next offset)

/-- Skips blanks, line ends and, where a line may end, comments. `none` means that no token of
the scanner can follow. -/
private def scanGap (source : Source) (comments : Bool) : (fuel : Nat) → Gap → Option Gap
  | 0, g => some g
  | fuel + 1, g =>
    let c := source.codePoint g.offset
    let next := source.next g.offset
    if c == code '\n' then
      scanGap source comments fuel { g with offset := next, lineEnd := true, indent := 0 }
    else if c == code ' ' then
      scanGap source comments fuel { g with offset := next, indent := g.indent + 1 }
    else if c == code '\r' || c == code '\x0c' then
      scanGap source comments fuel { g with offset := next, indent := 0 }
    else if c == code '\t' then
      scanGap source comments fuel { g with offset := next, indent := g.indent + 8 }
    else if c == code '#' && comments then
      -- A comment behind code belongs to the line, which has not ended yet.
      if !g.lineEnd then none
      else
        let stop := lineEnd source source.size g.offset
        scanGap source comments fuel
          { g with offset := source.next stop, indent := 0,
                   comment := g.comment.orElse fun _ => some g.indent }
    else if c == code '\\' then
      -- A backslash at the end of a line joins it with the next one.
      let o := if source.codePoint next == code '\r' then source.next next else next
      if source.codePoint o == code '\n' || source.atEnd o then
        scanGap source comments fuel { g with offset := source.next o }
      else none
    else if source.atEnd g.offset then some { g with lineEnd := true, indent := 0 }
    else some g

/-- Reads the marks before a string's quote; the offset after them. -/
private def scanMarks (source : Source) : (fuel : Nat) → (offset : Nat) → Delimiter →
    Nat × Delimiter
  | 0, offset, d => (offset, d)
  | fuel + 1, offset, d =>
    let c := source.codePoint offset
    let next := source.next offset
    if c == code 'f' || c == code 'F' then scanMarks source fuel next { d with format := true }
    else if c == code 'r' || c == code 'R' then scanMarks source fuel next { d with raw := true }
    else if c == code 'b' || c == code 'B' then
      scanMarks source fuel next { d with bytes := true }
    else if c == code 'u' || c == code 'U' then scanMarks source fuel next d
    else (offset, d)

/-- The quote that opens a string, with the offset after it. -/
private def scanQuote (source : Source) (offset : Nat) (d : Delimiter) :
    Option (Nat × Delimiter) :=
  let c := source.codePoint offset
  let next := source.next offset
  if c == 0x60 then some (next, { d with quote := c })
  else if c == code '\'' || c == code '"' then
    if source.codePoint next == c && source.codePoint (source.next next) == c then
      some (source.next (source.next next), { d with quote := c, triple := true })
    else some (next, { d with quote := c })
  else none

/-- Looks for a line end, a change of indentation or the beginning of a string, from an offset
on. -/
private def scanLayout (q : ScanQuery) (s : State) (recovering : Bool) (offset : Nat) :
    Option Scanned :=
  let valid (k : Kind) : Bool := q.valid k.number
  let source := q.source
  let comments := valid .indent || valid .dedent || valid .newline || valid .except
  let inBrackets := valid .closeBrace || valid .closeParen || valid .closeBracket
  match scanGap source comments (source.size + 2) { offset } with
  | none => none
  | some g =>
    let c := source.codePoint g.offset
    let current := s.indents.head?
    let here (k : Kind) (s : State) : Option Scanned :=
      some
        { token := k.number, start := if g.offset == offset then q.position else offset,
          stop := offset, memory := s.encode }
    let indents :=
      match current with
      | some i => g.lineEnd && valid .indent && i < g.indent
      | none => false
    let quote := c == code '"' || c == code '\'' || c == 0x60
    -- A comment that is still indented keeps the block open, and so does an open bracket.
    let dedents :=
      match current with
      | some i =>
        g.lineEnd
          && (valid .dedent || (!valid .newline && !(valid .stringStart && quote) && !inBrackets))
          && g.indent < i && !s.inFormat && (g.comment.map fun n => decide (n < i)).getD true
      | none => false
    if indents then here .indent { s with indents := g.indent :: s.indents }
    else if dedents then here .dedent { s with indents := s.indents.drop 1 }
    else if g.lineEnd && valid .newline && !recovering then here .newline s
    else if g.comment.isNone && valid .stringStart then
      let (offset, d) := scanMarks source source.size g.offset {}
      match scanQuote source offset d with
      | some (stop, d) =>
        some
          { token := Kind.stringStart.number, start := g.offset, stop
            memory := { s with strings := d :: s.strings, inFormat := d.format : State }.encode }
      | none => none
    else none

/-- Finds line ends, changes of indentation and the parts of strings. -/
def scan : Scanner := fun q =>
  let s := State.decode q.memory
  let valid (k : Kind) : Bool := q.valid k.number
  -- No state of the grammar allows both, so the parser is looking for any token at all.
  let recovering := valid .stringContent && valid .indent
  let c := q.source.codePoint q.position
  let brace := c == code '\x7b' || c == code '\x7d'
  match s.strings with
  | [] => scanLayout q s recovering q.position
  | d :: outer =>
    if valid .escapeInterpolation && brace && !recovering && d.format then
      let next := q.source.next q.position
      if q.source.codePoint next == c then
        some
          { token := Kind.escapeInterpolation.number, start := q.position,
            stop := q.source.next next, memory := s.encode }
      else none
    else if valid .stringContent && !recovering then
      match scanContent q.source d (q.source.size + 2) q.position false with
      | .error offset => scanLayout q s recovering offset
      | .ok none => none
      | .ok (some content) =>
        let s := if content.kind = .stringEnd then
            { s with strings := outer, inFormat := false } else s
        some
          { token := content.kind.number, start := q.position, stop := content.stop,
            memory := s.encode }
    else scanLayout q s recovering q.position

end CallAtlas.Languages.Python
