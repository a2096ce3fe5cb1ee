import CallAtlas.Syntax.Pattern

/-!
# Grammars

A grammar is a list of named rules over tokens and rule names. Rules carry what a parser
generator needs to settle ambiguities: precedence and associativity of the enclosing
construct, a dynamic precedence that decides between finished readings, field names for
children, and aliases that give a child another kind.

A rule whose name begins with `_` and a rule listed among the supertypes are hidden: their
children appear in the tree in place of a node of their own.
-/

namespace CallAtlas.Syntax

/-- What a token matches. -/
inductive Matcher where
  /-- The characters of a string. -/
  | literal (s : String)
  /-- One of several words. -/
  | words (ss : List String)
  /-- A regular pattern. -/
  | pattern (p : Pattern)
deriving DecidableEq, Repr, Inhabited

/-- A token of a grammar. -/
structure TokenRule where
  matcher : Matcher
  /-- A token of higher rank wins over one of lower rank, whatever their lengths. -/
  rank : Int := 0
  /-- An immediate token must begin where the token before it ended. -/
  immediate : Bool := false
deriving DecidableEq, Repr, Inhabited

/-- A token given by its text. -/
def TokenRule.ofText (s : String) : TokenRule := { matcher := .literal s }

/-- A token given by a pattern. -/
def TokenRule.ofPattern (p : Pattern) : TokenRule := { matcher := .pattern p }

/-- An immediate token given by a pattern. -/
def TokenRule.adjoining (p : Pattern) : TokenRule := { matcher := .pattern p, immediate := true }

/-- Which way a chain of equal operators is read. -/
inductive Assoc where
  | left
  | right
deriving DecidableEq, Hashable, Repr, Inhabited

/-- The static precedence of a construct. -/
inductive Precedence where
  | default
  | level (n : Int)
  | named (s : String)
deriving DecidableEq, Hashable, Repr, Inhabited

/-- Another kind for a child, and whether the child then counts as named. -/
structure Alias where
  kind : String
  named : Bool
deriving DecidableEq, Hashable, Repr, Inhabited

/-- A rule of a grammar. -/
inductive Rule where
  /-- The empty text. -/
  | blank
  /-- A token. -/
  | token (t : TokenRule)
  /-- Another rule, or an external token, by name. -/
  | ref (name : String)
  /-- The rules one after the other. -/
  | seq (rules : List Rule)
  /-- One of the rules. -/
  | choice (rules : List Rule)
  /-- The rule at least once. -/
  | repeat1 (rule : Rule)
  /-- The rule with a static precedence. -/
  | prec (assoc : Option Assoc) (precedence : Precedence) (rule : Rule)
  /-- The rule with a dynamic precedence. -/
  | dynamic (precedence : Int) (rule : Rule)
  /-- The children of the rule carry a field name. -/
  | field (name : String) (rule : Rule)
  /-- The children of the rule take another kind. -/
  | alias (kind : Alias) (rule : Rule)
deriving BEq, Repr, Inhabited

namespace Rule

instance : Coe String Rule := ⟨fun s => .token { matcher := .literal s }⟩

/-- A token given by its text. -/
def text (s : String) : Rule := .token { matcher := .literal s }

/-- A token given by several words. -/
def words (ss : List String) : Rule := .token { matcher := .words ss }

/-- A token given by a pattern. -/
def pat (p : Pattern) : Rule := .token { matcher := .pattern p }

/-- An immediate token given by a pattern. -/
def imm (p : Pattern) : Rule := .token { matcher := .pattern p, immediate := true }

/-- An immediate token given by a pattern, with a rank. -/
def immAt (rank : Int) (p : Pattern) : Rule :=
  .token { matcher := .pattern p, rank, immediate := true }

/-- An immediate token given by its text. -/
def immText (s : String) : Rule := .token { matcher := .literal s, immediate := true }

/-- An immediate token given by its text, with a rank. -/
def immTextAt (rank : Int) (s : String) : Rule :=
  .token { matcher := .literal s, rank, immediate := true }

/-- The rule or nothing. -/
def opt (r : Rule) : Rule := .choice [r, .blank]

/-- The rule any number of times. -/
def many (r : Rule) : Rule := .choice [.repeat1 r, .blank]

/-- The rules one after the other, or nothing. -/
def optSeq (rs : List Rule) : Rule := opt (.seq rs)

/-- The rule at least once, with a separator between each two. -/
def sepBy1 (separator r : Rule) : Rule := .seq [r, many (.seq [separator, r])]

/-- The rule any number of times, with commas. -/
def commaSep (r : Rule) : Rule := opt (sepBy1 "," r)

/-- The rule at least once, with commas. -/
def commaSep1 (r : Rule) : Rule := sepBy1 "," r

/-- Precedence by level, without associativity. -/
def precAt (n : Int) (r : Rule) : Rule := .prec none (.level n) r

/-- Left-associative precedence by level. -/
def leftAt (n : Int) (r : Rule) : Rule := .prec (some .left) (.level n) r

/-- Right-associative precedence by level. -/
def rightAt (n : Int) (r : Rule) : Rule := .prec (some .right) (.level n) r

/-- Precedence by name, without associativity. -/
def precOf (s : String) (r : Rule) : Rule := .prec none (.named s) r

/-- Left-associative precedence by name. -/
def leftOf (s : String) (r : Rule) : Rule := .prec (some .left) (.named s) r

/-- Right-associative precedence by name. -/
def rightOf (s : String) (r : Rule) : Rule := .prec (some .right) (.named s) r

/-- Left-associative, at the default precedence. -/
def left (r : Rule) : Rule := .prec (some .left) (.level 0) r

/-- Right-associative, at the default precedence. -/
def right (r : Rule) : Rule := .prec (some .right) (.level 0) r

/-- The rule under another named kind. -/
def named (kind : String) (r : Rule) : Rule := .alias ⟨kind, true⟩ r

/-- The rule under another anonymous kind. -/
def anonymous (kind : String) (r : Rule) : Rule := .alias ⟨kind, false⟩ r

end Rule

/-- An entry of an order of precedences: a name, or a rule that stands for itself. -/
inductive Rank where
  | named (s : String)
  | rule (s : String)
deriving DecidableEq, Repr, Inhabited

/-- A token that a scanner outside the grammar recognises. -/
inductive External where
  /-- A token of the scanner's own, by the name that rules use for it. -/
  | own (name : String)
  /-- A token that the grammar also has, by its text. -/
  | shared (text : String)
deriving DecidableEq, Repr, Inhabited

/-- A grammar. The first rule is the start. -/
structure Grammar where
  rules : List (String × Rule)
  /-- The separators that may stand before any token but an immediate one. -/
  separator : Pattern
  /-- Tokens and rules that may stand anywhere. -/
  extras : List String
  /-- The tokens of the scanner, in the order in which the scanner numbers them. -/
  externals : List External := []
  /-- Rules that are replaced by their alternatives wherever they are used. -/
  inlined : List String := []
  /-- Rules that only group others and have no node. -/
  supertypes : List String := []
  /-- The token from which keywords are told apart after it is matched. -/
  word : Option String := none
  /-- Orders of precedences, each from the highest to the lowest. -/
  precedences : List (List Rank) := []

end CallAtlas.Syntax
