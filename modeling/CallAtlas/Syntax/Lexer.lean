import CallAtlas.Syntax.LexToken
import CallAtlas.Syntax.Tables

/-!
# Lexing

The next token depends on what the parser can use: the lexer is given the set of tokens that
are valid and the set of tokens to match, which holds the valid ones and may hold more, where
several sets are matched as one. First the language's own scanner is asked, if one of its
tokens is valid. Then the patterns of the tokens to match grow side by side, after each run of
separators: a match grows as long as some pattern can go on that
does not rank below the token found so far, and among tokens that end at the same place rank
decides first, then how specific the token is, then the order of the grammar. A separator of
several characters outlasts a token of negative rank that ends inside it. The end of the source
is found only if it is among the tokens to match.

Keywords are found by matching the word token first. Where no valid token can be found, the
lexer looks for any token at all, and where there is none it skips text.
-/

namespace CallAtlas.Syntax

/-- What a scanner remembers between tokens, in written form; empty before the first token. -/
abbrev Memory := List Nat

/-- What a scanner is asked: is one of the valid tokens at the position? -/
structure ScanQuery where
  source : Source
  position : Nat
  /-- Is the scanner's token of this number valid? -/
  valid : Nat → Bool
  memory : Memory

/-- A token that a scanner found. -/
structure Scanned where
  /-- The scanner's number of the token. -/
  token : Nat
  start : Nat
  stop : Nat
  memory : Memory

/-- A scanner for tokens that patterns cannot describe. -/
abbrev Scanner := ScanQuery → Option Scanned

/-- The scanner of a language without such tokens. -/
def Scanner.none : Scanner := fun _ => .none

/-- A token of the text, or a piece of text that is none. -/
structure Lexeme where
  /-- The symbol; none for text that is no token. -/
  symbol : Option SymbolId
  /-- The offset at which the separators before the token begin. -/
  before : Nat
  start : Nat
  stop : Nat
  /-- The token is a keyword and could also be read as a word. -/
  keyword : Bool := false
  /-- For a scanner's token, what the scanner remembers after it. -/
  memory : Option Memory := none
  /-- The scanner remembers something else than before. -/
  changed : Bool := false
deriving Inhabited

/-- Where and for what a token is wanted. -/
structure Want where
  source : Source
  position : Nat
  /-- The tokens that can be used. -/
  valid : TokenSet
  /-- The tokens that are matched. -/
  matched : TokenSet
  memory : Memory
  /-- Has anything been read since the last error? -/
  advanced : Bool

/-- What the lexer needs to know of a grammar. -/
structure LexTables where
  /-- The tokens of the grammar, by symbol. -/
  tokens : Array (Option LexToken)
  separator : Pattern
  word : Option SymbolId
  /-- The keywords, by their text. -/
  keywords : Std.HashMap Text SymbolId
  /-- The tokens that may begin with each ASCII character. -/
  openers : Array (List SymbolId)
  /-- The symbols of the scanner's tokens, by the scanner's number. -/
  externals : Array SymbolId
  externalSet : TokenSet
  /-- The tokens that error recovery looks for. -/
  soughtSet : TokenSet
  /-- The tokens that are matched for error recovery. -/
  soughtMatched : TokenSet
deriving Inhabited

namespace LexTables

/-- The tables of a grammar, given the tokens that error recovery looks for. -/
def ofGrammar (g : Grammar) (t : Tables) (soughtSet : TokenSet) : LexTables :=
  let p := t.productions
  let tokens := p.lexTokens
  let keywords := p.keywords
  let symbolsWhere (test : LexToken → Bool) : List SymbolId :=
    (List.range p.tokenCount).filter fun s => ((tokens[s]?.getD none).map test).getD false
  { tokens
    separator := g.separator
    word := p.word
    keywords := keywords.foldl (fun m k => m.insert (Text.ofString k.1) k.2) {}
    openers := (Array.range 128).map fun c => symbolsWhere fun token => token.pattern.opensWith c
    externals := p.externals.toArray
    externalSet := TokenSet.ofList p.externals
    soughtSet
    soughtMatched := p.matched (TokenSet.ofList (keywords.map Prod.snd)) soughtSet }

/-! ## Matching tokens side by side -/

/-- A pattern that is still growing, with its token. -/
structure Growing where
  symbol : SymbolId
  token : LexToken
  rest : Pattern

/-- Is the first token the better one of two that end at the same place? -/
def prefers (a b : Growing) : Bool := a.token.isPreferred b.token

/-- The best of the patterns that are complete. -/
def complete (alive : List Growing) : Option Growing :=
  alive.foldl (fun best g =>
    if !g.rest.nullable then best
    else
      match best with
      | none => some g
      | some b => if prefers b g then best else some g) none

/-- The outcome of matching: the token and its end if there is one, and the offset up to which
text was looked at. -/
structure Matched where
  found : Option (SymbolId × Nat)
  reached : Nat

/-- Lets the patterns grow as far as they can. -/
def grow (source : Source) : (fuel : Nat) → List Growing → (offset : Nat) →
    Option (SymbolId × Nat) → Matched
  | 0, _, offset, found => ⟨found, offset⟩
  | fuel + 1, alive, offset, found =>
    let best := complete alive
    let found := (best.map fun g => (g.symbol, offset)).orElse fun _ => found
    if source.atEnd offset then ⟨found, offset⟩
    else
      let c := source.codePoint offset
      let next := alive.filterMap fun g =>
        let rest := g.rest.derivative c
        if rest = .never then none else some { g with rest }
      let goesOn :=
        match best with
        | none => !next.isEmpty
        | some b => next.any fun g => b.token.rank ≤ g.token.rank
      if goesOn then grow source fuel next (source.next offset) found else ⟨found, offset⟩

/-- The patterns of a set that may match at an offset. -/
def candidates (l : LexTables) (set : TokenSet) (source : Source) (offset : Nat)
    (unskipped : Bool) : List Growing :=
  let c := source.codePoint offset
  let symbols :=
    match l.openers[c]? with
    | some found => found
    | none => (List.range l.tokens.size).filter fun s =>
        ((l.tokens[s]?.getD none).map fun (token : LexToken) => token.pattern.opensWith c).getD false
  symbols.filterMap fun s =>
    if !set.has s then none
    else
      match l.tokens[s]?.getD none with
      | some token =>
        if token.immediate && !unskipped then none else some { symbol := s, token, rest := token.pattern }
      | none => none

/-- The outcome of looking for a token: the place after the separators, and the match. -/
structure Found where
  start : Nat
  found : Option (SymbolId × Nat)
  reached : Nat

/-- The end of the separator at an offset, if a token of negative rank ends inside it. -/
def outlasting (l : LexTables) (source : Source) (offset : Nat) (f : SymbolId × Nat) :
    Option Nat :=
  match l.tokens[f.1]?.getD none with
  | some token =>
    if token.rank < 0 then (l.separator.longest source offset).filter fun stop => f.2 < stop
    else none
  | none => none

/-- The better of what was found behind a separator and a token that ends inside it. -/
def Found.orElseToken (behind : Found) (f : SymbolId × Nat) : Found :=
  match behind.found with
  | some (symbol, stop) =>
    if symbol == endSymbol then ⟨f.2, some f, behind.reached⟩
    else ⟨behind.start, some (symbol, stop), behind.reached⟩
  | none => ⟨f.2, some f, behind.reached⟩

/-- Looks for a token of a set, skipping separators. -/
def search (l : LexTables) (set : TokenSet) (source : Source) :
    (fuel : Nat) → (offset : Nat) → (unskipped : Bool) → Found
  | 0, offset, _ => ⟨offset, none, offset⟩
  | fuel + 1, offset, unskipped =>
    if source.atEnd offset then
      ⟨offset, if set.has endSymbol then some (endSymbol, offset) else none, offset⟩
    else
      let m := grow source (source.size - offset + 1) (l.candidates set source offset unskipped)
        offset none
      match m.found with
      | some f =>
        match l.outlasting source offset f with
        | some stop => (search l set source fuel stop false).orElseToken f
        | none => ⟨offset, some f, m.reached⟩
      | none =>
        match l.separator.longest source offset with
        | some stop =>
          if offset < stop then search l set source fuel stop false
          else ⟨offset, none, m.reached⟩
        | none => ⟨offset, none, m.reached⟩

/-! ## The next token -/

/-- Asks the scanner for one of the valid tokens. -/
def scanFor (l : LexTables) (scanner : Scanner) (w : Want) (valid : TokenSet) (offset : Nat)
    (strict : Bool) : Option Lexeme :=
  if valid &&& l.externalSet == 0 then none
  else
    let query : ScanQuery :=
      { source := w.source, position := offset, memory := w.memory
        valid := fun i => ((l.externals[i]?).map valid.has).getD false }
    match scanner query with
    | none => none
    | some s =>
      let changed := s.memory != w.memory
      -- an empty token that changes nothing would be found again for ever
      if s.stop ≤ offset && (strict || !w.advanced) && !changed then none
      else
        some { symbol := l.externals[s.token]?, before := w.position, start := s.start,
               stop := s.stop, memory := some s.memory, changed }

/-- The lexeme of a token that the patterns gave: a word may turn out to be a keyword. -/
def settle (l : LexTables) (w : Want) (symbol : SymbolId) (start stop : Nat) : Lexeme :=
  let plain : Lexeme := { symbol := some symbol, before := w.position, start, stop }
  if l.word == some symbol then
    match l.keywords[w.source.slice start stop]? with
    | some k => if w.valid.has k then { plain with symbol := some k, keyword := true } else plain
    | none => plain
  else plain

/-- Skips text until a token begins. `stop` is the end of the text skipped so far. -/
def skip (l : LexTables) (scanner : Scanner) (w : Want) (start : Nat) :
    (fuel : Nat) → (stop : Nat) → Lexeme
  | 0, stop => { symbol := none, before := w.position, start, stop }
  | fuel + 1, stop =>
    let skipped : Lexeme := { symbol := none, before := w.position, start, stop }
    match l.scanFor scanner w l.soughtSet stop true with
    | some _ => skipped
    | none =>
      let f := l.search l.soughtMatched w.source (w.source.size - stop + 1) stop true
      match f.found with
      | some _ => skipped
      | none =>
        if stop < f.reached then skip l scanner w start fuel f.reached
        else if w.source.atEnd stop then skipped
        else skip l scanner w start fuel (w.source.next stop)

/-- The next token. -/
def lex (l : LexTables) (scanner : Scanner) (w : Want) : Lexeme :=
  let position := w.source.afterMark w.position
  let fuel := w.source.size - position + 1
  let attempt (valid matched : TokenSet) (strict : Bool) : Except Found Lexeme :=
    match l.scanFor scanner w valid position strict with
    | some lexeme => .ok lexeme
    | none =>
      let f := l.search matched w.source fuel position true
      match f.found with
      | some (symbol, stop) => .ok (l.settle w symbol f.start stop)
      | none => .error f
  let inError := w.valid == l.soughtSet
  let first : Except Found Lexeme :=
    if inError then .error ⟨position, none, position⟩ else attempt w.valid w.matched false
  match first with
  | .ok lexeme => lexeme
  | .error _ =>
    match attempt l.soughtSet l.soughtMatched true with
    | .ok lexeme => lexeme
    | .error f =>
      let stop :=
        if f.start < f.reached then f.reached else w.source.next f.start
      l.skip scanner w f.start fuel stop

end LexTables

end CallAtlas.Syntax
