import CallAtlas.Command.Arguments
import CallAtlas.Command.Help
import CallAtlas.Command.Options
import CallAtlas.Command.Run
import CallAtlas.Concurrency.Limiter
import CallAtlas.Digest.FileSet
import CallAtlas.Digest.Sha256
import CallAtlas.Failure
import CallAtlas.Generation.Basic
import CallAtlas.Generation.Queue
import CallAtlas.Generation.Run
import CallAtlas.Graph.CallStack
import CallAtlas.Graph.CallTree
import CallAtlas.Graph.Locate
import CallAtlas.Graph.SymbolIndex
import CallAtlas.Host
import CallAtlas.Index.File
import CallAtlas.Json.Basic
import CallAtlas.Json.Decoder
import CallAtlas.Json.Printer
import CallAtlas.Json.Reader
import CallAtlas.Languages.Adapter
import CallAtlas.Languages.C.Grammar
import CallAtlas.Languages.C.Outline
import CallAtlas.Languages.C.Token
import CallAtlas.Languages.Cache
import CallAtlas.Languages.Go.Grammar
import CallAtlas.Languages.Go.Outline
import CallAtlas.Languages.Java.Grammar
import CallAtlas.Languages.Java.Outline
import CallAtlas.Languages.Java.Token
import CallAtlas.Languages.Python.Grammar
import CallAtlas.Languages.Python.Outline
import CallAtlas.Languages.Python.Scanner
import CallAtlas.Languages.TypeScript.Expressions
import CallAtlas.Languages.TypeScript.Grammar
import CallAtlas.Languages.TypeScript.Outline
import CallAtlas.Languages.TypeScript.Scanner
import CallAtlas.Languages.TypeScript.Statements
import CallAtlas.Languages.TypeScript.Token
import CallAtlas.Languages.TypeScript.Types
import CallAtlas.Log.Basic
import CallAtlas.Main
import CallAtlas.Model.Assembly
import CallAtlas.Model.Basic
import CallAtlas.Model.Document
import CallAtlas.Model.Lines
import CallAtlas.Model.Stored
import CallAtlas.Number.Binary64
import CallAtlas.Number.Decimal
import CallAtlas.Number.Reading
import CallAtlas.Outline.Basic
import CallAtlas.Path.Basic
import CallAtlas.Proofs.Concurrency.Batches
import CallAtlas.Proofs.Concurrency.Drains
import CallAtlas.Proofs.Concurrency.History
import CallAtlas.Proofs.Concurrency.Slots
import CallAtlas.Proofs.Digest.FileSet
import CallAtlas.Proofs.Generation.Accounts
import CallAtlas.Proofs.Generation.Books
import CallAtlas.Proofs.Generation.Indexing
import CallAtlas.Proofs.Generation.Model
import CallAtlas.Proofs.Generation.Moves
import CallAtlas.Proofs.Generation.Serving
import CallAtlas.Proofs.Generation.Storable
import CallAtlas.Proofs.Graph.Unfolding
import CallAtlas.Proofs.Graph.Bounds
import CallAtlas.Proofs.Graph.Expansion
import CallAtlas.Proofs.Graph.LevelOrder
import CallAtlas.Proofs.Graph.SymbolIndex
import CallAtlas.Proofs.Json.Decoding
import CallAtlas.Proofs.Json.Order
import CallAtlas.Proofs.Json.RoundTrip
import CallAtlas.Proofs.Json.Strings
import CallAtlas.Proofs.Keys
import CallAtlas.Proofs.Model.Attachment
import CallAtlas.Proofs.Model.Nesting
import CallAtlas.Proofs.Model.Ranges
import CallAtlas.Proofs.Model.Stored
import CallAtlas.Proofs.Number.Digits
import CallAtlas.Proofs.Number.Rounding
import CallAtlas.Proofs.Number.Shortest
import CallAtlas.Proofs.Number.Whole
import CallAtlas.Proofs.Path.Canonical
import CallAtlas.Proofs.Path.Containment
import CallAtlas.Proofs.Path.Resolved
import CallAtlas.Proofs.Regex.Units
import CallAtlas.Proofs.Registry.View
import CallAtlas.Proofs.Session.Reading
import CallAtlas.Proofs.Sync.Again
import CallAtlas.Proofs.Sync.Calls
import CallAtlas.Proofs.Sync.Conduct
import CallAtlas.Proofs.Sync.Current
import CallAtlas.Proofs.Sync.Leaving
import CallAtlas.Proofs.Sync.Reuse
import CallAtlas.Proofs.Sync.Safety
import CallAtlas.Proofs.Text.Characters
import CallAtlas.Proofs.Text.Order
import CallAtlas.Proofs.Text.Pieces
import CallAtlas.Proofs.Walks
import CallAtlas.Proofs.Workers.Tasks
import CallAtlas.Proofs.Workspace.Added
import CallAtlas.Proofs.Workspace.Disturbed
import CallAtlas.Proofs.Workspace.Extensions
import CallAtlas.Proofs.Workspace.Files
import CallAtlas.Proofs.Workspace.Fingerprint
import CallAtlas.Proofs.Workspace.Followed
import CallAtlas.Proofs.Workspace.Keeping
import CallAtlas.Proofs.Workspace.Places
import CallAtlas.Proofs.Workspace.Recorded
import CallAtlas.Proofs.Workspace.Records
import CallAtlas.Proofs.Workspace.Scan
import CallAtlas.Proofs.Workspace.Shown
import CallAtlas.Proofs.Workspace.Store
import CallAtlas.Regex.Basic
import CallAtlas.Regex.Extended
import CallAtlas.Regex.Reader
import CallAtlas.Registry.Basic
import CallAtlas.Session.CallStack
import CallAtlas.Session.Job
import CallAtlas.Settings.Basic
import CallAtlas.Settings.Load
import CallAtlas.Settings.Variables
import CallAtlas.Sync.Basic
import CallAtlas.Sync.Freshness
import CallAtlas.Sync.Refresh
import CallAtlas.Syntax.Automaton
import CallAtlas.Syntax.Core
import CallAtlas.Syntax.Item
import CallAtlas.Syntax.LexSet
import CallAtlas.Syntax.LexToken
import CallAtlas.Syntax.Lexer
import CallAtlas.Syntax.Merging
import CallAtlas.Syntax.Network
import CallAtlas.Syntax.Overlap
import CallAtlas.Syntax.Parser
import CallAtlas.Syntax.Pattern
import CallAtlas.Syntax.Production
import CallAtlas.Syntax.Query.Analysis
import CallAtlas.Syntax.Query.Basic
import CallAtlas.Syntax.Query.Condition
import CallAtlas.Syntax.Query.Cursor
import CallAtlas.Syntax.Query.Reading
import CallAtlas.Syntax.Query.Step
import CallAtlas.Syntax.Reading
import CallAtlas.Syntax.Rule
import CallAtlas.Syntax.Source
import CallAtlas.Syntax.Stack
import CallAtlas.Syntax.Tables
import CallAtlas.Syntax.TokenSet
import CallAtlas.Syntax.Tree
import CallAtlas.Syntax.Variant
import CallAtlas.Syntax.Verdict
import CallAtlas.Syntax.Vocabulary
import CallAtlas.Text.Basic
import CallAtlas.Text.Capital
import CallAtlas.Text.Casing
import CallAtlas.Text.Identifier
import CallAtlas.Text.Letter
import CallAtlas.Text.Literal
import CallAtlas.Text.Runs
import CallAtlas.Trace.Basic
import CallAtlas.Workers.Pool
import CallAtlas.Workers.Script
import CallAtlas.Workspace.Basic
import CallAtlas.Workspace.Checkout
import CallAtlas.Workspace.Document
import CallAtlas.Workspace.Environment
import CallAtlas.Workspace.Files
import CallAtlas.Workspace.Git
import CallAtlas.Workspace.Git.Commit
import CallAtlas.Workspace.Git.Config
import CallAtlas.Workspace.Git.Moment
import CallAtlas.Workspace.Glob
import CallAtlas.Workspace.Glob.Braces
import CallAtlas.Workspace.Glob.Repetition
import CallAtlas.Workspace.Glob.Source
import CallAtlas.Workspace.Ignore
import CallAtlas.Workspace.Revision
import CallAtlas.Workspace.Store
import CallAtlas.Proofs.Graph.Frames
import CallAtlas.Proofs.Graph.Truncation
import CallAtlas.Proofs.Graph.CallTree
import CallAtlas.Proofs.Graph.Locate
import CallAtlas.Proofs.Graph.Paths
import CallAtlas.Proofs.Graph.Language
import CallAtlas.Proofs.Graph.Identity
import CallAtlas.Proofs.Generation.Independence
import CallAtlas.Proofs.Generation.Faults
import CallAtlas.Proofs.Workers.Shutdown
import CallAtlas.Proofs.Generation.Threads
import CallAtlas.Proofs.Languages.Python.Holding
import CallAtlas.Proofs.Settings.Variables
import CallAtlas.Proofs.Syntax.Faults
