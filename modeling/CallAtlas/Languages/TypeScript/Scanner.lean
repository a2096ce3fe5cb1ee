import CallAtlas.Syntax.Lexer

/-!
# Line ends and templates in TypeScript

The scanner decides where the end of a line ends a statement, reads the text of templates and
comments that begin with an arrow, and tells the question mark of a conditional from the other
ones.
-/

namespace CallAtlas.Languages.TypeScript

open CallAtlas.Syntax

/-- The scanner's tokens, by number. -/
private inductive Mark where
  | lineEnd
  | templateText
  | conditional
  | arrowComment
  | logicalOr
  | escapeSequence
  | regexText
  | signatureEnd
  | recovery
deriving DecidableEq

/-- The scanner's number of a token. -/
private def Mark.number : Mark → Nat
  | .lineEnd => 0
  | .templateText => 1
  | .conditional => 2
  | .arrowComment => 3
  | .logicalOr => 4
  | .escapeSequence => 5
  | .regexText => 6
  | .signatureEnd => 7
  | .recovery => 8

/-- Is the code point a blank? -/
private def isSpace (c : Nat) : Bool := c == 32 || (9 ≤ c && c ≤ 13)

/-- Is the code point an ASCII letter? -/
private def isAsciiLetter (c : Nat) : Bool := (65 ≤ c && c ≤ 90) || (97 ≤ c && c ≤ 122)

/-- Is the code point a character of the string? -/
private def isOneOf (s : String) (c : Nat) : Bool := s.toList.any fun d => d.toNat == c

/-- Is the character at the offset? -/
private def isAt (source : Source) (offset : Nat) (c : Char) : Bool :=
  source.codePoint offset == c.toNat

/-- The first offset at which a test on the code point fails. -/
private def skipWhile (source : Source) (test : Nat → Bool) : (fuel : Nat) → (offset : Nat) → Nat
  | 0, offset => offset
  | fuel + 1, offset =>
    if !source.atEnd offset && test (source.codePoint offset) then
      skipWhile source test fuel (source.next offset)
    else offset

/-- The offset after the blanks. -/
private def skipBlanks (source : Source) (offset : Nat) : Nat :=
  skipWhile source isSpace source.size offset

/-- The offset after a text, if it stands at the offset. -/
private def afterText (source : Source) (s : String) (offset : Nat) : Option Nat :=
  s.toList.foldl
    (fun o c => o.bind fun o => if isAt source o c then some (source.next o) else none)
    (some offset)

/-- The end of the text of a template; none where the template does not go on with text. -/
private def scanTemplate (source : Source) : (fuel : Nat) → (offset : Nat) → (hasText : Bool) →
    Option Nat
  | 0, _, _ => none
  | fuel + 1, offset, hasText =>
    let c := source.codePoint offset
    let next := source.next offset
    if c == 0x60 || c == 0x5C then (if hasText then some offset else none)
    else if c == 0 then none
    else if c == 0x24 then
      if isAt source next '\x7b' then (if hasText then some offset else none)
      else scanTemplate source fuel next true
    else scanTemplate source fuel next true

/-- The end of a block comment; the offset is that after its opening. -/
private def blockEnd (source : Source) : (fuel : Nat) → (offset : Nat) → Nat
  | 0, offset => offset
  | fuel + 1, offset =>
    if source.codePoint offset == 0 then offset
    else if isAt source offset '*' then
      if isAt source (source.next offset) '/' then source.next (source.next offset)
      else blockEnd source fuel (source.next offset)
    else blockEnd source fuel (source.next offset)

/-- Skips blanks and comments: the offset after them, whether there was a line comment, and
whether what follows is not a lone slash. -/
private def skipComments (source : Source) : (fuel : Nat) → (offset : Nat) →
    (comment : Bool) → Nat × Bool × Bool
  | 0, offset, comment => (offset, comment, true)
  | fuel + 1, offset, comment =>
    let offset := skipBlanks source offset
    if isAt source offset '/' then
      let next := source.next offset
      if isAt source next '/' then
        let stop := skipWhile source (fun c => c != 0 && c != 10) source.size next
        skipComments source fuel stop true
      else if isAt source next '*' then
        skipComments source fuel (blockEnd source source.size (source.next next)) comment
      else (next, comment, false)
    else (offset, comment, true)

/-- The outcome of looking for the end of a statement. -/
private structure LineEnd where
  ends : Bool
  /-- A line comment was passed. -/
  comment : Bool := false
  /-- How far the text was looked at. -/
  offset : Nat

/-- Does the line that begins at an offset leave the statement before it? -/
private def leaves (source : Source) (valid : Mark → Bool) (comment : Bool) (offset : Nat) :
    LineEnd :=
  let c := source.codePoint offset
  let next := source.next offset
  let answer (ends : Bool) (offset : Nat) : LineEnd := { ends, comment, offset }
  if isOneOf ",.;*%><=?^|&/:" c then answer false offset
  else if c == 0x7B && valid .signatureEnd then answer false offset
  else if isOneOf "([" c && valid .logicalOr then answer false offset
  else if isOneOf "+-" c then answer (source.codePoint next == c) next
  else if isOneOf "!" c then answer (!isAt source next '=') next
  else if isOneOf "i" c then
    if !isAt source next 'n' then answer true next
    else
      let after := source.next next
      if !isAsciiLetter (source.codePoint after) then answer false after
      else
        match afterText source "stanceof" after with
        | none => answer true after
        | some o => answer (isAsciiLetter (source.codePoint o)) o
  else answer true offset

/-- Does the statement end at the offset without a semicolon? It does at the end of the source,
before a closing brace and at the end of a line that the next line does not go on with. -/
private def scanLineEnd (source : Source) (valid : Mark → Bool) (offset : Nat) : LineEnd :=
  let stop := skipWhile source (fun c => isSpace c && c != 10) source.size offset
  let c := source.codePoint stop
  if c == 0 then { ends := true, offset := stop }
  else if c == 0x7D then
    let after := skipBlanks source (source.next stop)
    { ends := !isAt source after ':' || valid .logicalOr, offset := after }
  else if c == 10 then
    let (o, comment, plain) := skipComments source source.size (source.next stop) false
    if plain then leaves source valid comment o else { ends := false, comment, offset := o }
  else { ends := false, offset := stop }

/-- The place of the question mark of a conditional, looked for from an offset on. -/
private def scanConditional (source : Source) (offset : Nat) : Option (Nat × Nat) :=
  let start := skipBlanks source offset
  if !isAt source start '?' then none
  else
    let stop := source.next start
    if isOneOf "?." (source.codePoint stop) then none
    else
      let after := skipBlanks source stop
      let c := source.codePoint after
      let digit := source.codePoint (source.next after)
      if isOneOf ":)," c then none
      else if c == 0x2E && !(48 ≤ digit && digit ≤ 57) then none
      else some (start, stop)

/-- The place of a comment between arrows. -/
private def scanArrowComment (source : Source) (offset : Nat) : Option (Nat × Nat) :=
  let isLineSeparator (c : Nat) : Bool := c == 0x2028 || c == 0x2029
  let start := skipWhile source (fun c => isSpace c || isLineSeparator c) source.size offset
  let opened := (afterText source "<!--" start).or (afterText source "-->" start)
  opened.map fun o =>
    (start, skipWhile source (fun c => c != 0 && c != 10 && !isLineSeparator c) source.size o)

/-- Finds the ends of statements, texts of templates, and question marks. -/
def scan : Scanner := fun q =>
  let source := q.source
  let valid (m : Mark) : Bool := q.valid m.number
  let token (m : Mark) (start stop : Nat) : Option Scanned :=
    some { token := m.number, start, stop, memory := [] }
  let conditional (offset : Nat) : Option Scanned :=
    (scanConditional source offset).bind fun (start, stop) => token .conditional start stop
  if valid .templateText then
    if valid .lineEnd then none
    else
      (scanTemplate source (source.size + 1) q.position false).bind fun stop =>
        token .templateText q.position stop
  else if valid .lineEnd || valid .signatureEnd then
    let found := scanLineEnd source valid q.position
    if found.ends then token .lineEnd q.position q.position
    else if !found.comment && valid .conditional && isAt source found.offset '?' then
      conditional found.offset
    else none
  else if valid .conditional then conditional q.position
  else if valid .arrowComment && !valid .logicalOr && !valid .escapeSequence
      && !valid .regexText then
    (scanArrowComment source q.position).bind fun (start, stop) =>
      token .arrowComment start stop
  else none

end CallAtlas.Languages.TypeScript
