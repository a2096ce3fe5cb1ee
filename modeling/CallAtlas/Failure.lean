import CallAtlas.Json.Basic

/-!
# Failures

An operation fails with an error of some class, with a message and perhaps a code, a line and a
cause; a collaborator may also throw any other value that is plain data. Errors that tell that a
resource shared by all files is used up are told apart from those that concern one file only.
-/

namespace CallAtlas

/-- The classes of errors. -/
inductive FailureClass where
  /-- The configuration is not valid. -/
  | config
  /-- The content of a repository could not be fetched. -/
  | fetch
  /-- A repository has no such ref. -/
  | refNotFound
  /-- A resource that all files share is used up. -/
  | resource
  /-- A model could not be stored or loaded. -/
  | persistence
  /-- A request is not valid. -/
  | validation
  /-- A file cannot be parsed. -/
  | parse
  /-- A worker stopped without an answer. -/
  | workerCrash
  /-- A value is out of its range. -/
  | range
  /-- A value is of the wrong type. -/
  | type
  /-- Any other error. -/
  | general
deriving DecidableEq, Repr, Inhabited

namespace FailureClass

/-- The name of a class. -/
def name : FailureClass → String
  | config => "ConfigError"
  | fetch => "FetchFailureError"
  | refNotFound => "RefNotFoundError"
  | resource => "ResourceExhaustedError"
  | persistence => "PersistenceError"
  | validation => "ValidationError"
  | parse => "SourceParseError"
  | workerCrash => "WorkerCrashError"
  | range => "RangeError"
  | type => "TypeError"
  | general => "Error"

/-- The code that errors of a class carry. -/
def code? : FailureClass → Option String
  | config => some "CONFIG_ERROR"
  | fetch => some "FETCH_FAILURE"
  | refNotFound => some "REF_NOT_FOUND"
  | resource => some "RESOURCE_EXHAUSTED"
  | persistence => some "PERSISTENCE_ERROR"
  | validation => some "VALIDATION_ERROR"
  | parse => some "PARSE_FAILURE"
  | _ => none

/-- All classes. -/
def all : List FailureClass :=
  [config, fetch, refNotFound, resource, persistence, validation, parse, workerCrash, range, type,
    general]

/-- The class of a name. -/
def ofName? (t : Text) : Option FailureClass := all.find? fun k => Text.ofString k.name == t

end FailureClass

/-- An error. -/
structure Failure where
  kind : FailureClass
  message : Text
  /-- The code; usually a string. -/
  code : Option Json := kind.code?.map fun s => .str (Text.ofString s)
  /-- The line of a text that the error concerns. -/
  line : Option Number := none
  /-- The message of the error that led to this one. -/
  cause : Option Text := none
deriving Inhabited

/-- What an operation throws: an error, or any other value that is plain data. Asking such a value
for its text either gives the text or fails in the one way of `Thrown.withoutText`; values with an
operation of their own that gives their text, which may throw anything else, are left out. -/
inductive Thrown where
  | failure (f : Failure)
  | value (v : Json)
deriving Inhabited

mutual

/-- The text of a value of no particular kind. -/
def Json.display : Json → Text
  | .null => Text.ofString "null"
  | .bool b => Text.ofString (if b then "true" else "false")
  | .num n => n.toText
  | .infinite negative => Text.ofString (if negative then "-Infinity" else "Infinity")
  | .str s => s
  | .arr es => Json.displayElements es
  | .obj _ => Text.ofString "[object Object]"

/-- The texts of elements with commas between them; null gives nothing. -/
def Json.displayElements : List Json → Text
  | [] => []
  | [e] => if e == .null then [] else e.display
  | e :: es => (if e == .null then [] else e.display) ++ Text.unit ',' :: Json.displayElements es

end

mutual

/-- Has a value a text? An object whose own member takes the place of the operation that gives its
text has none, and neither has an array that holds such an object. -/
def Json.hasText : Json → Bool
  | .arr es => Json.elementsHaveText es
  | .obj ms => ms.all fun m => m.1 != Text.ofString "toString"
  | .null | .bool _ | .num _ | .infinite _ | .str _ => true

/-- Have all elements a text? -/
def Json.elementsHaveText : List Json → Bool
  | [] => true
  | e :: es => e.hasText && Json.elementsHaveText es

end

namespace Failure

/-- An error with its class's own code. -/
def of (kind : FailureClass) (message : Text) : Failure := { kind, message }

/-- A ref that a repository does not have. -/
def refNotFound (repository ref : Text) : Failure :=
  of .refNotFound
    (Text.ofString "No ref found in repository " ++ repository ++ Text.ofString " by name: " ++ ref)

/-- A syntax error near a line. -/
def syntaxNear (line : Nat) : Failure :=
  { of .parse (Text.ofString ("Syntax error near line " ++ Nat.repr line)) with
    line := some ((line : Nat) : Int) }

/-- The code, where it is a string. -/
def codeText (f : Failure) : Option Text := f.code.bind Json.str?

/-- The codes that tell that a shared resource is used up. -/
def resourceCodes : List Text :=
  ["RESOURCE_EXHAUSTED", "ERR_WORKER_OUT_OF_MEMORY", "ERR_WORKER_INIT_FAILED",
    "ERR_MEMORY_ALLOCATION_FAILED", "ENOMEM"].map Text.ofString

/-- The unit with ASCII capitals made small. -/
def foldUnit (u : CodeUnit) : CodeUnit := if 0x41 ≤ u && u ≤ 0x5A then u + 0x20 else u

/-- Does the message say that memory could not be had? -/
def saysOutOfMemory (message : Text) : Bool :=
  let folded := message.map foldUnit
  Text.contains (Text.ofString "allocation failed") folded
    || Text.contains (Text.ofString "out of memory") folded

end Failure

namespace Thrown

/-- The message of what was thrown. -/
def message : Thrown → Text
  | failure f => f.message
  | value v => v.display

/-- The code of what was thrown, where it is a string. -/
def codeText : Thrown → Option Text
  | failure f => f.codeText
  | value _ => none

/-- Does it tell that a resource shared by all files is used up, rather than that one file is at
fault? -/
def isResourceExhaustion : Thrown → Bool
  | value _ => false
  | failure f =>
    f.kind == .resource
      || (match f.codeText with
          | some c => Failure.resourceCodes.contains c
          | none => false)
      || (f.kind == .range && Failure.saysOutOfMemory f.message)

/-- An error of a class. -/
def ofKind (kind : FailureClass) (message : Text) : Thrown := failure (Failure.of kind message)

/-- The text of what was thrown, if it has one. -/
def text? : Thrown → Option Text
  | failure f => some f.message
  | value v => if v.hasText then some v.display else none

/-- What is thrown where the text of a value is asked for that has none. -/
def withoutText : Thrown :=
  ofKind .type (Text.ofString "Cannot convert object to primitive value")

/-- What is thrown where something that was thrown is asked for its text and then thrown on. -/
def asked (thrown : Thrown) : Thrown := if thrown.text?.isSome then thrown else withoutText

end Thrown

end CallAtlas
