import CallAtlas.Regex.Reader
import CallAtlas.Workspace.Glob.Braces
import CallAtlas.Workspace.Glob.Repetition

/-!
# Glob patterns as regular expressions

A glob pattern is turned into the text of a regular expression for whole paths. `?` stands for one
unit and `*` for any number of units inside a segment, a segment `**` for any number of segments,
and `[...]` for one unit of a set. Parentheses group alternatives, and a mark before them tells how
often they may occur: `?` at most once, `+` at least once, `*` any number of times, `@` once and
`!` not at all. Whatever else a regular expression may hold is passed on as it is written.

Segments that begin with a dot are hidden: wildcards at their beginning reach them only if they
are told to.
-/

namespace CallAtlas

/-- How a pattern is matched. -/
structure GlobOptions where
  /-- Do wildcards reach hidden segments? -/
  hidden : Bool
  /-- Does case not count? -/
  foldCase : Bool

namespace GlobSource

/-! ## Parts of the expressions -/

/-- A dot. -/
def dotLiteral : Text := "\\."

/-- A slash. -/
def slashLiteral : Text := "\\/"

/-- A place that is not at the end of the line. -/
def oneChar : Text := "(?=.)"

/-- One unit inside a segment. -/
def oneUnit : Text := "[^/]"

/-- One unit inside a segment, other than a dot. -/
def oneUnitNoDot : Text := "[^.\\/]"

/-- Any number of units inside a segment. -/
def star : Text := "[^/]*?"

/-- A place where no dot follows. -/
def noDot : Text := "(?!\\.)"

/-- A place where no segment of one or two dots begins. -/
def noDots : Text := "(?!(?:^|\\/)\\.\x7b1,2\x7d(?:\\/|$))"

/-- A place after a dot where neither another dot alone nor the end of the segment follows. -/
def noDotSlash : Text := "(?!\\.\x7b0,1\x7d(?:\\/|$))"

/-- A place where no segment of one or two dots follows. -/
def noDotsSlash : Text := "(?!\\.\x7b1,2\x7d(?:\\/|$))"

/-- Any number of units of segments that are reached. -/
def globstar (o : GlobOptions) : Text :=
  if o.hidden then "(?:(?:(?!(?:^|\\/)\\.\x7b1,2\x7d(?:\\/|$)).)*?)"
  else "(?:(?:(?!(?:^|\\/)\\.).)*?)"

/-- What a named class of units holds. -/
def classSource? (name : Text) : Option Text :=
  ([("alnum", "a-zA-Z0-9"), ("alpha", "a-zA-Z"), ("ascii", "\\x00-\\x7F"), ("blank", " \\t"),
    ("cntrl", "\\x00-\\x1F\\x7F"), ("digit", "0-9"), ("graph", "\\x21-\\x7E"), ("lower", "a-z"),
    ("print", "\\x20-\\x7E "),
    ("punct", "\\-!\"#$%&'()\\*+,./:;<=>?@[\\]^_\x60\x7b|\x7d~"),
    ("space", " \\t\\r\\n\\v\\f"), ("upper", "A-Z"), ("word", "A-Za-z0-9_"),
    ("xdigit", "A-Fa-f0-9")].find? fun c => Text.ofString c.1 == name).map
      fun c => Text.ofString c.2

/-- Is a unit in a text? -/
def isIn (t : Text) (u : CodeUnit) : Bool := List.elem u t

/-- Does a unit have a meaning of its own in a regular expression? -/
def isSpecial (u : CodeUnit) : Bool := isIn "-*+?.^$\x7b\x7d(|)[]" u

/-- A text that stands for itself in a regular expression. -/
def escaped (t : Text) : Text :=
  t.flatMap fun u => if isSpecial u then [Text.backslash, u] else [u]

/-- A set of the units between the given ends, which are put in order; if that is no set, the ends
themselves with dots between them. -/
def rangeSource (ends : List Text) : Text :=
  let value := Text.unit '[' :: Text.join [Text.unit '-'] (Text.sort ends) ++ [Text.unit ']']
  if (Regex.ofText? value).isSome then value
  else Text.join [Text.dot, Text.dot] ((Text.sort ends).map escaped)

/-! ## Tokens -/

/-- What a token of a pattern is. -/
inductive Kind where
  | start
  | text
  | slash
  | dot
  /-- Dots between the ends of a range in braces. -/
  | dots
  | star
  | globstar
  | mark
  | plus
  | paren
  | bracket
  | brace
  | comma
  /-- A slash that a path may end with. -/
  | closing
deriving DecidableEq, Repr, Inhabited

/-- A token: how it is written, and what it becomes if that is something else. -/
structure Token where
  kind : Kind
  value : Text
  output : Option Text := none
  /-- Is it one of several stars? -/
  doubled : Bool := false
  /-- Does it hold a named class? -/
  named : Bool := false
  /-- Does it belong to a group with a mark? -/
  marked : Bool := false
deriving Inhabited

/-- What a token becomes. -/
def Token.source (t : Token) : Text := t.output.getD t.value

/-- What a token becomes, or what it is written as if that is nothing. -/
def Token.visible (t : Token) : Text := if t.source.isEmpty then t.value else t.source

/-- A group with a mark that is still open. -/
structure Group where
  mark : CodeUnit
  /-- The pattern from the mark on. -/
  pattern : Text
  /-- The expression before it. -/
  output : Text
  /-- The number of the token of its mark. -/
  token : Nat
  /-- What closes it. -/
  close : Text
  /-- How many parentheses were open before it. -/
  parens : Int
  /-- What it holds so far. -/
  inner : Text := []

/-- A brace that is still open. -/
structure OpenBrace where
  /-- The length of the expression before it. -/
  length : Nat
  /-- The number of its token. -/
  token : Nat
  comma : Bool := false
  dots : Bool := false

/-- A pattern that is being turned into an expression. -/
structure Draft where
  /-- What is left of the pattern. -/
  rest : Text
  /-- How many units were taken. -/
  taken : Nat := 0
  /-- How many units do not belong to the pattern proper. -/
  start : Nat := 0
  output : Text := []
  negated : Bool := false
  /-- Is the expression to be put together from the tokens? -/
  rebuild : Bool := false
  brackets : Nat := 0
  parens : Int := 0
  quoted : Bool := false
  tokens : Array Token := #[⟨.start, [], some [], false, false, false⟩]
  groups : List Group := []
  braces : List OpenBrace := []
  /-- What is open, the innermost first; braces are marked. -/
  nesting : List Bool := []
deriving Inhabited

namespace Draft

/-- The last token. -/
def last (d : Draft) : Token := (d.tokens.back?).getD default

/-- The token before the last one, and so on. -/
def before (d : Draft) (n : Nat) : Token :=
  if n < d.tokens.size then (d.tokens[d.tokens.size - 1 - n]?).getD default else default

/-- Changes the last token, or the one before it, and so on. -/
def alter (d : Draft) (n : Nat) (f : Token → Token) : Draft :=
  { d with tokens := d.tokens.modify (d.tokens.size - 1 - n) f }

/-- The next unit. -/
def peek (d : Draft) : Option CodeUnit := d.rest.head?

/-- Is the next unit the given one? -/
def sees (d : Draft) (c : Char) : Bool := d.rest.head? == some (Text.unit c)

/-- Passes over units. -/
def skip (d : Draft) (n : Nat) : Draft := { d with rest := d.rest.drop n, taken := d.taken + n }

/-- A text without a number of units at its end; nothing is left where that number is zero. -/
def cut (t : Text) (n : Nat) : Text := if n = 0 then [] else t.take (t.length - n)

/-- Puts another text in the place of the end of the expression. -/
def replaceEnd (d : Draft) (n : Nat) (t : Text) : Draft := { d with output := cut d.output n ++ t }

/-- Something opens. -/
def nest (d : Draft) (isBrace : Bool) : Draft := { d with nesting := isBrace :: d.nesting }

/-- What was opened last is closed. -/
def unnest (d : Draft) : Draft := { d with nesting := d.nesting.drop 1 }

/-- Stars before something that does not end a segment reach no other segment. -/
def settleGlobstar (d : Draft) (t : Token) : Draft :=
  let staysInBrace := !d.braces.isEmpty && (t.kind == .comma || t.kind == .brace)
  let staysInGroup := t.marked || (!d.groups.isEmpty && t.kind == .paren)
  if d.last.kind != .globstar || t.kind == .slash || t.kind == .paren || staysInBrace
      || staysInGroup then d
  else
    (d.replaceEnd d.last.source.length star).alter 0 fun p =>
      { p with kind := .star, value := [Text.unit '*'], output := some star }

/-- Adds a token; texts that follow one another are one. What the first of them is written as is
then no longer kept apart, so that an expression put together from the tokens lacks it. -/
def push (d : Draft) (t : Token) : Draft :=
  let d := d.settleGlobstar t
  let groups :=
    match d.groups with
    | g :: gs => if t.kind == .paren then g :: gs else { g with inner := g.inner ++ t.value } :: gs
    | [] => []
  let d := { d with groups, output := d.output ++ t.source }
  if d.last.kind == .text && t.kind == .text then
    d.alter 0 fun p =>
      { p with output := some (p.output.getD [] ++ t.value), value := p.value ++ t.value }
  else { d with tokens := d.tokens.push t }

/-- Adds a text. -/
def pushText (d : Draft) (value : Text) : Draft := d.push { kind := .text, value }

/-- Adds a token that becomes something else. -/
def pushAs (d : Draft) (kind : Kind) (value output : Text) : Draft :=
  d.push { kind, value, output := some output }

/-- Adds units to the last token. -/
def append (d : Draft) (value : Text) : Draft :=
  { d.alter 0 fun p => { p with value := p.value ++ value } with output := d.output ++ value }

end Draft

/-! ## Escapes and sets -/

/-- What an escape takes. -/
inductive Escape where
  /-- It is dealt with. -/
  | done (d : Draft)
  /-- It stands for the given units of a set. -/
  | inSet (value : Text) (d : Draft)

/-- Takes what stands behind a backslash. One before a slash, a dot or a semicolon vanishes, and
more than two further ones are passed over. -/
def takeEscape (d : Draft) : Escape :=
  match d.peek with
  | none => .done (d.pushText [Text.backslash, Text.backslash])
  | some next =>
    if next = Text.slash || next = Text.dot || next = Text.unit ';' then .done d
    else
      let run := (d.rest.takeWhile fun u => u = Text.backslash).length
      let skipped := if 2 < run then run else 0
      let d := d.skip skipped
      let opening :=
        if skipped % 2 = 1 then [Text.backslash, Text.backslash] else [Text.backslash]
      let value := opening ++ d.rest.take 1
      let d := d.skip (min 1 d.rest.length)
      if d.brackets = 0 then .done (d.pushText value) else .inSet value d

/-- The text up to the last opening bracket in it, and what comes after the colon behind that. -/
def splitClass (t : Text) : Text × Text :=
  let behind := (t.reverse.takeWhile fun u => u ≠ Text.unit '[').reverse
  (t.take (t.length - behind.length - 1), behind.drop 1)

/-- Takes a colon in a set, which may end the name of a class. -/
def takeColon (d : Draft) : Option Draft × Draft :=
  let value := d.last.value
  let inner := value.drop 1
  if !isIn inner (Text.unit '[') then (none, d)
  else
    let d := d.alter 0 fun p => { p with named := true }
    if !isIn inner (Text.unit ':') then (none, d)
    else
      let (outside, name) := splitClass value
      match classSource? name with
      | none => (none, d)
      | some source =>
        let d := d.alter 0 fun p => { p with value := outside ++ source }
        let d := { d with rebuild := true }.skip (min 1 d.rest.length)
        let isFirst := d.tokens.size = 2 && (d.before 1).source.isEmpty
        (some (if isFirst then d.alter 1 fun p => { p with output := some oneChar } else d), d)

/-- Is the set that was opened last still empty? -/
def isEmptySet (d : Draft) : Bool :=
  d.last.value == [Text.unit '['] || d.last.value == [Text.unit '[', Text.unit '^']

/-- Takes a part of a set. -/
def takeInSet (d : Draft) (value : Text) : Draft :=
  let (finished, d) := if value = [Text.unit ':'] then takeColon d else (none, d)
  match finished with
  | some d => d
  | none =>
    let isBare :=
      (value == [Text.unit '['] && !d.sees ':') || (value == [Text.unit '-'] && d.sees ']')
        || (value == [Text.unit ']'] && isEmptySet d)
    let value := if isBare then Text.backslash :: value else value
    d.append
      (if value == [Text.unit '!'] && d.last.value == [Text.unit '['] then [Text.unit '^']
       else value)

/-- Takes an opening bracket; one that is not closed stands for itself. -/
def takeOpenBracket (d : Draft) : Draft :=
  if isIn d.rest (Text.unit ']') then
    ({ d with brackets := d.brackets + 1 }.nest false).push { kind := .bracket, value := "[" }
  else d.push { kind := .bracket, value := "\\[" }

/-- Takes a closing bracket. A set without special units may also be meant as it is written. -/
def takeCloseBracket (d : Draft) : Draft :=
  if (d.last.kind == .bracket && d.last.value.length = 1) || d.brackets = 0 then
    d.pushAs .text "]" "\\]"
  else
    let inner := d.last.value.drop 1
    let closing : Text :=
      if !d.last.named && inner.head? == some (Text.unit '^') && !isIn inner Text.slash then
        "/]"
      else "]"
    let d := { d with brackets := d.brackets - 1 }.unnest.append closing
    if inner.any isSpecial then d
    else
      let set := d.last.value
      let both := Text.ofString "(?:" ++ escaped set ++ Text.unit '|' :: set ++ [Text.unit ')']
      (d.replaceEnd set.length both).alter 0 fun p => { p with value := both }

/-! ## Groups -/

/-- Takes a mark with the parenthesis behind it. -/
def openGroup (d : Draft) (mark : CodeUnit) (opening close : Text) : Draft :=
  let group : Group :=
    { mark
      pattern := mark :: d.rest
      output := d.output
      token := d.tokens.size
      close
      parens := d.parens }
  let d := { d with parens := d.parens + 1 }.nest false
  let kind : Kind :=
    if mark = Text.unit '*' then .star else if mark = Text.unit '+' then .plus else .mark
  let d := d.pushAs kind [mark] (if d.output.isEmpty then oneChar else [])
  let d := (d.skip 1).push { kind := .paren, value := "(", output := some opening, marked := true }
  { d with groups := group :: d.groups }

/-- Is a text a dot with plain units behind it? -/
def isPlainExtension (t : Text) : Bool :=
  match t with
  | d :: u :: rest =>
    d = Text.dot
      && (u :: rest).all fun v => v ≠ Text.backslash && v ≠ Text.slash && v ≠ Text.dot
  | _ => false

/-- What closes a group. What stands behind a group that must not occur decides how far it is
looked ahead: `expression` gives the expression of a text. -/
def groupEnd (o : GlobOptions) (expression : Text → Text) (g : Group) (rest : Text) : Text :=
  if g.mark ≠ Text.unit '!' then g.close
  else
    let crosses := 1 < g.inner.length && isIn g.inner Text.slash
    let wide := if crosses then globstar o else star
    if isIn g.inner (Text.unit '*') && isPlainExtension rest then
      Text.unit ')' :: expression rest ++ Text.unit ')' :: wide ++ [Text.unit ')']
    else if crosses || rest.all (fun u => u = Text.unit ')') then
      Text.ofString ")$))" ++ wide
    else g.close

/-- The pattern of a group that ends before the given rest of the pattern. -/
def Group.written (g : Group) (rest : Text) : Text :=
  g.pattern.take (g.pattern.length - rest.length)

/-- How a group that ends before the given rest of the pattern is matched. -/
def Group.repetition (g : Group) (rest : Text) : Repetition :=
  if g.mark = Text.unit '+' || g.mark = Text.unit '*' then
    Repetition.ofInside (((g.written rest).drop 2).dropLast)
  else .group

/-- Puts an expression in the place of a group and of all tokens in it. -/
def replaceGroup (d : Draft) (g : Group) (output : Text) : Draft :=
  let tokens := (d.tokens.extract 0 g.token).push
    { d.tokens[g.token]?.getD default with
      kind := .text
      value := g.written d.rest
      output := some output }
  let emptied := (d.tokens.extract (g.token + 1) d.tokens.size).map fun t =>
    { t with value := [], output := some [] }
  { d with tokens := tokens ++ emptied, output := g.output ++ output, rebuild := true }

/-- Ends a group with a mark. -/
def closeGroup (o : GlobOptions) (expression : Text → Text) (d : Draft) (g : Group) : Draft :=
  let opening : Text := if g.output.isEmpty then oneChar else []
  let (d, close) : Draft × Text :=
    match g.repetition d.rest with
    | .group => (d, groupEnd o expression g d.rest)
    | .literal => (replaceGroup d g (escaped (g.written d.rest)), [])
    | .units [u] => (replaceGroup d g (opening ++ escaped [u] ++ [Text.unit '*']), [])
    | .units us =>
      let set := Text.unit '[' :: escaped us ++ [Text.unit ']', Text.unit '*']
      (replaceGroup d g (opening ++ set), [])
  d.push { kind := .paren, value := ")", output := some close, marked := true }

/-- Takes a closing parenthesis. -/
def takeCloseParen (o : GlobOptions) (expression : Text → Text) (d : Draft) : Draft :=
  let plain (d : Draft) : Draft :=
    let d := d.pushAs .paren ")" (if d.parens = 0 then "\\)" else ")")
    { d with parens := d.parens - 1 }.unnest
  match d.groups with
  | [] => plain d
  | g :: groups =>
    if d.parens = g.parens + 1 then
      let d := closeGroup o expression { d with groups } g
      { d with parens := d.parens - 1 }.unnest
    else plain d

/-! ## Braces -/

/-- Takes an opening brace. -/
def takeOpenBrace (d : Draft) : Draft :=
  let brace : OpenBrace := { length := d.output.length, token := d.tokens.size }
  ({ d with braces := brace :: d.braces }.nest true).pushAs .brace "\x7b" "("

/-- The tokens up to the last brace, and what was written behind it other than dots. -/
def popRange : (fuel : Nat) → Array Token → List Text → Array Token × List Text
  | 0, tokens, ends => (tokens, ends)
  | n + 1, tokens, ends =>
    match tokens.back? with
    | none => (tokens, ends)
    | some t =>
      if t.kind == .brace then (tokens.pop, ends)
      else popRange n tokens.pop (if t.kind == .dots then ends else t.value :: ends)

/-- Takes a closing brace. Braces with a comma hold alternatives and braces with two dots a range;
all others stand for themselves. -/
def takeCloseBrace (d : Draft) : Draft :=
  match d.braces with
  | [] => d.pushAs .text "\x7d" "\x7d"
  | b :: braces =>
    let (d, value, output) : Draft × Text × Text :=
      if b.dots then
        let (tokens, ends) := popRange (d.tokens.size + 1) d.tokens []
        ({ d with tokens, rebuild := true }, "\x7d", rangeSource ends)
      else if b.comma then (d, "\x7d", ")")
      else
        let d := { d with
          tokens := d.tokens.modify b.token fun p =>
            { p with value := "\\\x7b", output := some "\\\x7b" } }
        let behind := (d.tokens.toList.drop b.token).flatMap Token.visible
        ({ d with output := d.output.take b.length ++ behind }, "\\\x7d", "\\\x7d")
    { d.pushAs .brace value output with braces }.unnest

/-- Takes a comma. -/
def takeComma (d : Draft) : Draft :=
  match d.braces, d.nesting with
  | b :: braces, true :: _ =>
    { d with braces := { b with comma := true } :: braces }.pushAs .comma "," "|"
  | _, _ => d.pushAs .comma "," ","

/-! ## Slashes, dots and marks -/

/-- Takes a slash. One dot before it at the beginning of the pattern does not count. -/
def takeSlash (d : Draft) : Draft :=
  if d.last.kind == .dot && d.taken = d.start + 2 then
    { d with start := d.taken, output := [], tokens := d.tokens.pop }
  else d.pushAs .slash "/" slashLiteral

/-- Takes a dot that may begin a segment or a range, or one that does not. -/
def takeSingleDot (d : Draft) : Draft :=
  if (d.braces.length : Int) + d.parens = 0 && d.last.kind != .start && d.last.kind != .slash then
    d.pushAs .text "." dotLiteral
  else d.pushAs .dot "." dotLiteral

/-- Takes a dot. -/
def takeDot (d : Draft) : Draft :=
  match d.braces with
  | b :: braces =>
    if d.last.kind == .dot then
      let d := d.alter 0 fun p =>
        { p with
          kind := .dots
          output := some
            ((if p.value == [Text.dot] then dotLiteral else p.source) ++ [Text.dot])
          value := p.value ++ [Text.dot] }
      { d with braces := { b with dots := true } :: braces }
    else takeSingleDot d
  | [] => takeSingleDot d

/-- Does a group follow, rather than another parenthesis? -/
def seesGroup (d : Draft) : Bool :=
  d.sees '(' && (d.rest.drop 1).head? != some (Text.unit '?')

/-- Does an opening angle begin a look behind or a name somewhere in a text? -/
def hasAngle (t : Text) : Bool :=
  (Regex.ofString "<([!=]|\\w+>)").test false t

/-- Takes a question mark. -/
def takeQuestion (o : GlobOptions) (d : Draft) : Draft :=
  let isGroup := d.last.value == [Text.unit '(']
  if !isGroup && seesGroup d then openGroup d (Text.unit '?') "(?:" ")?"
  else if d.last.kind == .paren then
    let begins := ['!', '=', '<', ':'].any fun c => d.sees c
    let isPlain := (isGroup && !begins) || (d.sees '<' && !hasAngle d.rest)
    d.pushAs .text "?" (if isPlain then "\\?" else "?")
  else if !o.hidden && (d.last.kind == .slash || d.last.kind == .start) then
    d.pushAs .mark "?" oneUnitNoDot
  else d.pushAs .mark "?" oneUnit

/-- Takes the exclamation marks at the beginning. An odd number of them negates the pattern. -/
def takeNegation : (fuel : Nat) → (count : Nat) → Draft → Draft
  | 0, _, d => d
  | n + 1, count, d =>
    let second := (d.rest.drop 1).head?
    let third := (d.rest.drop 2).head?
    if d.sees '!' && (second != some (Text.unit '(') || third == some (Text.unit '?')) then
      takeNegation n (count + 1) { d.skip 1 with start := d.start + 1 }
    else if count % 2 = 0 then d
    else { d with negated := true, start := d.start + 1 }

/-- Takes a plus sign. -/
def takePlus (d : Draft) : Draft :=
  if seesGroup d then openGroup d (Text.unit '+') "(?:" ")+"
  else if d.last.value == [Text.unit '('] then d.pushAs .plus "+" "\\+"
  else
    let k := d.last.kind
    if k == .bracket || k == .paren || k == .brace || 0 < d.parens then
      d.push { kind := .plus, value := "+" }
    else d.push { kind := .plus, value := "\\+" }

/-- Does a unit have a meaning of its own in a pattern? -/
def isPatternUnit (u : CodeUnit) : Bool := isIn "@![],.$*+?^\x7b\x7d()|\\/" u

/-- Takes a plain unit, and the plain units behind it. -/
def takePlain (d : Draft) (u : CodeUnit) : Draft :=
  let value := if u = Text.unit '$' || u = Text.unit '^' then [Text.backslash, u] else [u]
  let run := d.rest.takeWhile fun v => !isPatternUnit v
  (d.skip run.length).pushText (value ++ run)

/-! ## Stars -/

/-- Passes over further segments `**`; the number of units that they take. -/
def furtherStars : (fuel : Nat) → Text → Nat
  | 0, _ => 0
  | n + 1, t =>
    if (Text.ofString "/**").isPrefixOf t
        && (match (t.drop 3).head? with
            | none => true
            | some u => u = Text.slash) then
      3 + furtherStars n (t.drop 3)
    else 0

/-- Makes the last star one that reaches across segments. -/
def widen (d : Draft) (output : Text) : Draft :=
  d.alter 0 fun p =>
    { p with kind := .globstar, value := p.value ++ [Text.unit '*'], output := some output }

/-- Takes a second star. Only as a whole segment it reaches across segments. -/
def takeSecondStar (o : GlobOptions) (d : Draft) : Draft :=
  let prior := d.before 1
  let outer := d.before 2
  let isStart := prior.kind == .slash || prior.kind == .start
  let afterStar := prior.kind != .start && (outer.kind == .star || outer.kind == .globstar)
  let inBrace := !d.braces.isEmpty && (prior.kind == .comma || prior.kind == .brace)
  if !isStart && prior.kind != .paren && !inBrace then d.pushAs .star "*" []
  else
    let d := d.skip (furtherStars (d.rest.length + 1) d.rest)
    let own := d.last.source.length
    let isInner := prior.kind == .slash && outer.kind != .start
    let opening := Text.ofString "(?:" ++ prior.source
    -- the slash before the stars becomes part of what they stand for
    let joined (output : Text) : Draft :=
      let d := d.replaceEnd (prior.source.length + own) (opening ++ output)
      widen (d.alter 1 fun p => { p with output := some opening }) output
    if prior.kind == .start && d.rest.isEmpty then
      { widen d (globstar o) with output := globstar o }
    else if isInner && !afterStar && d.rest.isEmpty then joined (globstar o ++ Text.ofString "|$)")
    else if isInner && d.sees '/' then
      let atEnd : Text := if d.rest.length = 1 then "" else "|$"
      let d := joined
        (globstar o ++ slashLiteral ++ Text.unit '|' :: slashLiteral ++ atEnd ++ [Text.unit ')'])
      (d.skip 1).pushAs .slash "/" []
    else if prior.kind == .start && d.sees '/' then
      let output := Text.ofString "(?:^|\\/|" ++ globstar o ++ slashLiteral ++ [Text.unit ')']
      ({ widen d output with output }.skip 1).pushAs .slash "/" []
    else widen (d.replaceEnd own (globstar o)) (globstar o)

/-- Takes a single star. At the beginning of a segment it stands for something, and for what is
not hidden. -/
def takeFirstStar (o : GlobOptions) (d : Draft) : Draft :=
  let begins := d.taken = d.start + 1 || d.last.kind == .slash || d.last.kind == .dot
  let guarded (d : Draft) (t : Text) : Draft :=
    { d.alter 0 fun p => { p with output := some (p.source ++ t) } with output := d.output ++ t }
  let d :=
    if !begins then d
    else
      let d := guarded d
        (if d.last.kind == .dot then noDotSlash else if o.hidden then noDotsSlash else noDot)
      if d.sees '*' then d else guarded d oneChar
  d.pushAs .star "*" star

/-- Takes a star. -/
def takeStar (o : GlobOptions) (d : Draft) : Draft :=
  if d.last.kind == .globstar || d.last.doubled then
    let d := d.alter 0 fun p =>
      { p with
        kind := .star
        doubled := true
        value := p.value ++ [Text.unit '*']
        output := some star }
    { d with rebuild := true }
  else if seesGroup d && 1 < d.rest.length then openGroup d (Text.unit '*') "(?:" ")*"
  else if d.last.kind == .star then takeSecondStar o d
  else takeFirstStar o d

/-! ## Patterns -/

/-- Takes a unit outside sets and quotes. -/
def takeUnit (o : GlobOptions) (expression : Text → Text) (d : Draft) (u : CodeUnit) : Draft :=
  if u = Text.unit '(' then
    ({ d with parens := d.parens + 1 }.nest false).push { kind := .paren, value := [u] }
  else if u = Text.unit ')' then takeCloseParen o expression d
  else if u = Text.unit '[' then takeOpenBracket d
  else if u = Text.unit ']' then takeCloseBracket d
  else if u = Text.unit '\x7b' then takeOpenBrace d
  else if u = Text.unit '\x7d' then takeCloseBrace d
  else if u = Text.unit '|' then d.pushText [u]
  else if u = Text.unit ',' then takeComma d
  else if u = Text.slash then takeSlash d
  else if u = Text.dot then takeDot d
  else if u = Text.unit '?' then takeQuestion o d
  else if u = Text.unit '!' && d.sees '('
      && !((d.rest.drop 1).head? == some (Text.unit '?')
        && (['!', '=', '<', ':'].any fun c => (d.rest.drop 2).head? == some (Text.unit c))) then
    openGroup d u "(?:(?!(?:" (Text.ofString "))" ++ star ++ [Text.unit ')'])
  else if u = Text.unit '!' && d.taken = 1 then takeNegation (d.rest.length + 1) 1 d
  else if u = Text.unit '+' then takePlus d
  else if u = Text.unit '@' then
    if seesGroup d then d.push { kind := .mark, value := [u], output := some [], marked := true }
    else d.pushText [u]
  else if u = Text.unit '*' then takeStar o d
  else takePlain d u

/-- Takes the next unit, with its escape. -/
def takeNext (o : GlobOptions) (expression : Text → Text) (d : Draft) (u : CodeUnit) : Draft :=
  let takeSimple (d : Draft) : Draft :=
    if 0 < d.brackets && (u ≠ Text.unit ']' || isEmptySet d) then takeInSet d [u]
    else if d.quoted && u ≠ Text.unit '"' then d.append (escaped [u])
    else if u = Text.unit '"' then { d with quoted := !d.quoted }
    else takeUnit o expression d u
  if u = 0 then d
  else if u = Text.backslash then
    match takeEscape d with
    | .done d => d
    | .inSet value d => takeInSet d value
  else takeSimple d

/-- Takes all units that are left. -/
def takeAll (o : GlobOptions) (expression : Text → Text) : (fuel : Nat) → Draft → Draft
  | 0, d => d
  | n + 1, d =>
    match d.rest with
    | [] => d
    | u :: _ => takeAll o expression n (takeNext o expression (d.skip 1) u)

/-- The text with a backslash before the last of its units of a kind that has none. -/
def escapeLast (u : CodeUnit) (t : Text) : Text :=
  let rec go : Text → Option Text
    | [] => none
    | v :: before =>
      if v = u then
        if before.head? == some Text.backslash then (go before).map (v :: ·)
        else some (v :: Text.backslash :: before)
      else (go before).map (v :: ·)
  ((go t.reverse).map List.reverse).getD t

/-- What is left open stands for itself. -/
def closeAll (d : Draft) : Draft :=
  let repeated (n : Nat) (u : CodeUnit) (t : Text) : Text := Nat.repeat (escapeLast u) n t
  { d with
    output :=
      repeated d.braces.length (Text.unit '\x7b')
        (repeated d.parens.toNat (Text.unit '(')
          (repeated d.brackets (Text.unit '[') d.output)) }

/-- The expression of a pattern that was taken. -/
def finish (d : Draft) : Text :=
  let d := closeAll d
  let d :=
    if d.last.kind == .star || d.last.kind == .bracket then
      d.pushAs .closing [] (slashLiteral ++ [Text.unit '?'])
    else d
  if d.rebuild then d.tokens.toList.flatMap Token.source else d.output

/-- The expression of a pattern, and whether the pattern is negated. -/
def translate (o : GlobOptions) : (fuel : Nat) → Text → Text × Bool
  | 0, _ => ([], false)
  | n + 1, t =>
    let d := takeAll o (fun rest => (translate o n rest).1) (t.length + 1) { rest := t }
    (finish d, d.negated)

/-! ## Short ways -/

/-- Is the unit a letter, a digit or an underscore of ASCII? -/
def isWord (u : CodeUnit) : Bool := UnitClass.word.contains u

/-- The expression of a pattern without slashes, groups, sets, braces and quotes that begins with no
star: each run of the same unit is escaped or turned into what it stands for. -/
def simple (o : GlobOptions) (isFirst : Bool) : (fuel : Nat) → Text → Text × Bool
  | 0, _ => ([], false)
  | _ + 1, [] => ([], false)
  | n + 1, u :: rest =>
    let escape := u = Text.backslash && (rest.head?.any fun v => !isWord v)
    let (first, behind) : CodeUnit × Text :=
      match escape, rest with
      | true, v :: more => (v, more)
      | _, _ => (u, rest)
    if isWord first then
      let (r, slashes) := simple o false n rest
      (u :: r, slashes)
    else
      let run := behind.takeWhile fun v => v = first
      let after := behind.drop run.length
      let chars := first :: run
      let written := (if escape then [Text.backslash] else []) ++ chars
      let dots (t : Text) (count : Nat) : Text := (List.replicate count t).flatten
      let piece : Text :=
        if first = Text.backslash then written
        -- The escape is for the first unit of a run alone.
        else if first = Text.unit '?' then
          if escape then [Text.backslash, first] ++ dots oneUnit run.length
          else if isFirst then
            (if o.hidden then oneUnit else oneUnitNoDot) ++ dots oneUnit run.length
          else dots oneUnit chars.length
        else if first = Text.dot then dots dotLiteral chars.length
        else if first = Text.unit '*' then
          if escape then [Text.backslash, first] ++ (if run.isEmpty then [] else star) else star
        else if escape then written
        else Text.backslash :: chars
      let (r, slashes) := simple o false n after
      (piece ++ r, slashes || first = Text.backslash)

/-- The text with each run of backslashes made one of at most two, and one if their number is
odd. -/
def foldSlashes : (fuel : Nat) → Text → Text
  | 0, t => t
  | _ + 1, [] => []
  | n + 1, u :: rest =>
    if u = Text.backslash then
      let run := (rest.takeWhile fun v => v = Text.backslash).length
      (if run % 2 = 1 then [u, u] else [u]) ++ foldSlashes n (rest.drop run)
    else u :: foldSlashes n rest

/-- Is a pattern one that `simple` is for? -/
def isSimple (t : Text) : Bool :=
  t.head? != some (Text.unit '*') && t.head? != some (Text.unit '!')
    && !t.any (isIn "/()[]\x7b\x7d\"")

/-- The expression of a common pattern. -/
def common? (o : GlobOptions) : (fuel : Nat) → Text → Option Text
  | 0, _ => none
  | n + 1, t =>
    let is (s : String) : Bool := t == Text.ofString s
    let noneHidden := if o.hidden then noDots else noDot
    let noneBehind := if o.hidden then noDotsSlash else noDot
    let tree := Text.ofString "(?:" ++ noneHidden ++ globstar o ++ slashLiteral ++ ")?"
    if is "*" then some (noneHidden ++ oneChar ++ star)
    else if is ".*" then some (dotLiteral ++ oneChar ++ star)
    else if is "*.*" then some (noneHidden ++ star ++ dotLiteral ++ oneChar ++ star)
    else if is "*/*" then
      some (noneHidden ++ star ++ slashLiteral ++ oneChar ++ noneBehind ++ star)
    else if is "**" then some (noneHidden ++ globstar o)
    else if is "**/*" then some (tree ++ noneBehind ++ oneChar ++ star)
    else if is "**/*.*" then
      some (tree ++ noneBehind ++ star ++ dotLiteral ++ oneChar ++ star)
    else if is "**/.*" then some (tree ++ dotLiteral ++ oneChar ++ star)
    else
      let extension := (t.reverse.takeWhile isWord).reverse
      let body := t.take (t.length - extension.length)
      if extension.isEmpty || body.getLast? != some Text.dot
          || body.any Regex.isLineTerminator then none
      else (common? o n body.dropLast).map fun r => r ++ dotLiteral ++ extension

/-- How many units a pattern may have. -/
def lengthLimit : Nat := 65536

/-- Patterns that are as good as other ones. -/
def simplified (t : Text) : Text :=
  if t == Text.ofString "***" then Text.ofString "*"
  else if t == Text.ofString "**/**" || t == Text.ofString "**/**/**" then Text.ofString "**"
  else t

/-- The expression of a pattern without its frame, and whether the pattern is negated. -/
def body (o : GlobOptions) (t : Text) : Text × Bool :=
  let pattern := simplified t
  let pattern := if [Text.dot, Text.slash].isPrefixOf pattern then pattern.drop 2 else pattern
  let common :=
    if t.head? == some Text.dot || t.head? == some (Text.unit '*') then
      (common? o (pattern.length + 1) pattern).map fun r => r ++ slashLiteral ++ [Text.unit '?']
    else none
  match common with
  | some r => (r, false)
  | none =>
    if isSimple pattern then
      let (r, slashes) := simple o true (pattern.length + 1) pattern
      (if slashes then foldSlashes (r.length + 1) r else r, false)
    else translate o (pattern.length + 1) pattern

/-- The text of the regular expression of a pattern. -/
def ofPattern (o : GlobOptions) (t : Text) : Except GlobFault Text :=
  if t.isEmpty then .error .empty
  else if lengthLimit < t.length then .error (.tooLong t.length lengthLimit)
  else
    let (source, negated) := body o t
    let framed := Text.ofString "^(?:" ++ source ++ Text.ofString ")$"
    .ok (if negated then Text.ofString "^(?!" ++ framed ++ Text.ofString ").*$" else framed)

end GlobSource

end CallAtlas
