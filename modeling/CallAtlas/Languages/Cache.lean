import CallAtlas.Languages.Adapter
import CallAtlas.Registry.Basic
import CallAtlas.Syntax.Query.Analysis

/-!
# The cache of parsers and queries

There is one parser for each grammar and one query for each grammar and text. They are made when
they are first asked for and kept until the cache is cleared, and so is the knowledge that one of
them cannot be made. Parsers and queries are known by their numbers, which are never used again.
-/

namespace CallAtlas

open Syntax

/-- The languages by the names of their grammars. -/
def knownLanguages : List (String × Language) :=
  [("python", Languages.Python.language),
    ("typescript", Languages.TypeScript.assertionLanguage),
    ("tsx", Languages.TypeScript.markupLanguage), ("go", Languages.Go.language),
    ("java", Languages.Java.language), ("c", Languages.C.language)]

/-- The language of a grammar. -/
def languageOf? (grammar : Text) : Option Language :=
  (knownLanguages.find? fun l => Text.ofString l.1 == grammar).map Prod.snd

/-- The parsers and queries that were made. -/
structure GrammarCache where
  /-- The parsers by grammar; none where there is no such grammar. -/
  parsers : List (Text × Option Nat) := []
  /-- The queries by grammar and text, with the unit 0 between them; none where the query is
  refused. -/
  queries : List (Text × Option Nat) := []
  /-- The number of the next parser or query. -/
  next : Nat := 0

namespace GrammarCache

/-- The number of the next parser or query, if it can be made. -/
def fresh (c : GrammarCache) (possible : Bool) : Option Nat × Nat :=
  if possible then (some c.next, c.next + 1) else (none, c.next)

/-- The parser of a grammar. -/
def parser (c : GrammarCache) (grammar : Text) : GrammarCache × Option Nat × List LogEntry :=
  match c.parsers.lookup grammar with
  | some number => (c, number, [])
  | none =>
    let known := (languageOf? grammar).isSome
    let (number, next) := c.fresh known
    ({ c with parsers := c.parsers ++ [(grammar, number)], next }, number,
      if known then [] else [Registry.noParserEntry grammar])

/-- How much of a refused query is shown. -/
def shownLength : Nat := 120

/-- What is wrong with a query in a grammar, if anything. -/
def refusal? (grammar text : Text) : Option Text :=
  match languageOf? grammar with
  | none => some (Text.ofString "Invalid language object")
  | some l => (Query.fault? l.vocabulary.get l.network text).map QueryFault.message

/-- What is reported of a query that is refused. -/
def noQueryEntry (grammar text reason : Text) : LogEntry :=
  .withValues .error (Text.ofString "Failed to create query for " ++ grammar)
    [("error", .str reason), ("query", .str (text.take shownLength))]

/-- The key of a query. -/
def queryKey (grammar text : Text) : Text := grammar ++ 0 :: text

/-- The query of a grammar and a text. -/
def query (c : GrammarCache) (grammar text : Text) :
    GrammarCache × Option Nat × List LogEntry :=
  match c.queries.lookup (queryKey grammar text) with
  | some number => (c, number, [])
  | none =>
    let reason := refusal? grammar text
    let (number, next) := c.fresh reason.isNone
    ({ c with queries := c.queries ++ [(queryKey grammar text, number)], next }, number,
      (reason.map (noQueryEntry grammar text)).toList)

/-- Forgets the parser and the queries of a grammar. -/
def clear (c : GrammarCache) (grammar : Text) : GrammarCache :=
  { c with
    parsers := c.parsers.filter fun p => p.1 != grammar
    queries := c.queries.filter fun q => !(queryKey grammar []).isPrefixOf q.1 }

/-- Forgets all parsers and queries. -/
def clearAll (c : GrammarCache) : GrammarCache := { c with parsers := [], queries := [] }

end GrammarCache

end CallAtlas
