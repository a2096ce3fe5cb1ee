import CallAtlas.Failure
import CallAtlas.Json.Printer

/-!
# Log lines

An operation reports what it does as log entries. An entry has a level, a message and named
details; a line of the log is written for it when its level is not below the level of the logger.
An error among the details is written by its message, with its trace under a name of its own.
-/

namespace CallAtlas

/-- The levels of the log, the least important first. -/
inductive LogLevel where
  | debug
  | info
  | warn
  | error
deriving DecidableEq, Repr, Inhabited

namespace LogLevel

/-- All levels. -/
def all : List LogLevel := [debug, info, warn, error]

/-- The name of a level. -/
def name : LogLevel → String
  | debug => "debug"
  | info => "info"
  | warn => "warn"
  | error => "error"

/-- The mark of a level at the beginning of a line. -/
def mark : LogLevel → String
  | debug => "[DEBUG]"
  | info => "[INFO]"
  | warn => "[WARN]"
  | error => "[ERROR]"

/-- How important a level is. -/
def rank : LogLevel → Nat
  | debug => 0
  | info => 1
  | warn => 2
  | error => 3

/-- The level of a name. -/
def ofName? (t : Text) : Option LogLevel := all.find? fun l => Text.ofString l.name == t

end LogLevel

/-- A detail of a log entry. -/
inductive LogDetail where
  | value (j : Json)
  /-- An error, with its trace if it has one. -/
  | failure (message : Text) (trace : Option Text)

/-- A log entry. -/
structure LogEntry where
  level : LogLevel
  message : Text
  details : Option (List (Text × LogDetail)) := none
  /-- The details contain themselves and cannot be written. -/
  circular : Bool := false

namespace LogEntry

/-- An entry with a message alone. -/
def plain (level : LogLevel) (message : Text) : LogEntry := { level, message }

/-- An entry with values as details. -/
def withValues (level : LogLevel) (message : Text) (details : List (String × Json)) : LogEntry :=
  { level, message, details := some (details.map fun d => (Text.ofString d.1, .value d.2)) }

/-- The members that a detail becomes. -/
def detailMembers (d : Text × LogDetail) : List (Text × Json) :=
  match d.2 with
  | .value j => [(d.1, j)]
  | .failure message trace =>
    match trace with
    | some t => if t.isEmpty then [(d.1, .str message)]
        else [(d.1, .str message), (d.1 ++ Text.ofString "Stack", .str t)]
    | none => [(d.1, .str message)]

/-- The details as one object. A detail cannot replace what all objects inherit from. -/
def detailsJson (details : List (Text × LogDetail)) : Json :=
  let members := details.flatMap detailMembers
  Json.ofMembers (members.filter fun m => m.1 != Text.ofString "__proto__")

/-- The line of an entry. -/
def line (e : LogEntry) : Text :=
  let details :=
    match e.details with
    | none => []
    | some ds =>
      Text.ofString " "
        ++ if e.circular then Text.ofString "[circular or unstringifiable]"
           else (detailsJson ds).compact
  Text.ofString e.level.mark ++ Text.ofString " " ++ e.message ++ details

/-- Is the entry written by a logger of some level? -/
def isWritten (e : LogEntry) (level : LogLevel) : Bool := level.rank ≤ e.level.rank

end LogEntry

/-- The lines that a logger of some level writes. -/
def logLines (level : LogLevel) (entries : List LogEntry) : List Text :=
  (entries.filter fun e => e.isWritten level).map LogEntry.line

end CallAtlas
