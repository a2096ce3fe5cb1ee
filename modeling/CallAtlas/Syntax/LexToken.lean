import CallAtlas.Syntax.TokenSet

/-!
# Tokens as the lexer matches them

A token of a grammar is matched by a pattern. Among tokens that match, rank and then specificity
decide. Keywords are tokens given by texts that the word token matches as well; they are not matched
by themselves but told apart from other words after the word is matched.
-/

namespace CallAtlas.Syntax

/-- A token as the lexer matches it. -/
structure LexToken where
  pattern : Pattern
  /-- The rank that the grammar gives to the token. -/
  rank : Int
  /-- Texts are more specific than patterns, immediate tokens more than others. -/
  specificity : Nat
  immediate : Bool
  /-- The place of the token in the order of the grammar. -/
  order : Nat
deriving Inhabited

namespace LexToken

/-- A token, at a place in the order of the grammar, as the lexer matches it. -/
def ofRule (order : Nat) (t : TokenRule) : LexToken :=
  let immediate := if t.immediate then 1 else 0
  let token : LexToken :=
    { pattern := .never, rank := t.rank, specificity := immediate
      immediate := t.immediate, order }
  match t.matcher with
  | .literal s => { token with pattern := .text s, specificity := 2 + immediate }
  | .words ss => { token with pattern := .choice (ss.map Pattern.text) }
  | .pattern p => { token with pattern := p }

/-- Is the first token preferred of two that match the same text? The last resort is their order. -/
def isPreferred (a b : LexToken) : Bool :=
  if a.rank != b.rank then b.rank < a.rank
  else if a.specificity != b.specificity then b.specificity < a.specificity
  else a.order < b.order

end LexToken

namespace Productions

/-- The tokens of the grammar as the lexer matches them, by symbol. -/
def lexTokens (p : Productions) : Array (Option LexToken) :=
  (p.symbols.extract 0 p.tokenCount).map fun i => i.token.map (LexToken.ofRule i.order)

/-- The texts of the tokens that are given by texts. -/
def literalTexts (p : Productions) : List String :=
  (p.symbols.extract 0 p.tokenCount).toList.filterMap fun i => i.token.bind literalText

/-- Does the word token match a text? -/
def isWord (p : Productions) (text : String) : Bool :=
  match p.word.bind fun w => (p.info w).token.map (LexToken.ofRule (p.info w).order) with
  | some word =>
    (text.toList.foldl (fun (q : Pattern) c => q.derivative c.toNat) word.pattern).nullable
  | none => false

/-- Can a text be a keyword? It opens with a letter, it is a word, and no other token goes on from it
with something that is no word. -/
def isKeyword (p : Productions) (text : String) : Bool :=
  ((text.toList.head?.map fun c => c.isAlpha || c == '_').getD false) && p.isWord text
    && p.literalTexts.all fun other => !text.toList.isPrefixOf other.toList || p.isWord other

/-- The keywords of a grammar, with their tokens. -/
def keywords (p : Productions) : List (String × SymbolId) :=
  (List.range p.tokenCount).flatMap fun s =>
    match (p.info s).token.map TokenRule.matcher with
    | some (.literal text) => if p.isKeyword text then [(text, s)] else []
    | some (.words texts) => if texts.all p.isKeyword then texts.map fun text => (text, s) else []
    | _ => []

/-- What the lexer matches to find the tokens of a set: keywords are matched as words, and the
scanner's own tokens are not matched. -/
def matched (p : Productions) (keywords tokens : TokenSet) : TokenSet :=
  let own := TokenSet.ofList (p.externals.filter fun s => (p.info s).token.isNone)
  let plain := tokens.without (own ||| keywords)
  match p.word with
  | some w => if tokens &&& keywords == 0 then plain else plain ||| TokenSet.single w
  | none => plain

end Productions

end CallAtlas.Syntax
