import CallAtlas.Model.Assembly
import CallAtlas.Registry.Basic

/-!
# Indexing one file

A file is handed to the adapter of its extension, or of its language where it names another one.
The result is the file's entry in the model or a failure that concerns this file alone. Only the
exhaustion of a shared resource is thrown.
-/

namespace CallAtlas

/-- A source file. -/
structure SourceFile where
  /-- The path inside the repository. -/
  path : Text
  content : Text
  /-- The language, where the extension is not to decide. -/
  language : Option Text := none
deriving DecidableEq, Inhabited

/-- Why a file is not in the model. -/
inductive FileFailureKind where
  | unsupportedLanguage
  | parseFailure
  | workerFailure
  | cancelled
deriving DecidableEq, Repr, Inhabited

/-- The name of a kind of failure. -/
def FileFailureKind.name : FileFailureKind → String
  | .unsupportedLanguage => "UnsupportedLanguage"
  | .parseFailure => "ParseFailure"
  | .workerFailure => "WorkerFailure"
  | .cancelled => "Cancelled"

/-- A file that is not in the model. -/
structure FileFailure where
  path : Text
  kind : FileFailureKind
  message : Text
  line : Option Number := none
deriving DecidableEq, Inhabited

/-- What became of a file: an entry of the model under its path, or a failure. -/
inductive FileOutcome where
  | indexed (path : Text) (file : FileModel)
  | failed (failure : FileFailure)
deriving DecidableEq, Inhabited

namespace Index

/-- The size above which a file is not parsed, where nothing else is said. -/
def defaultMaxFileBytes : Number := 2000000

/-- The number of lines; a line feed at the end does not begin another one. -/
def countLines (content : Text) : Nat :=
  if content = [] then 0
  else
    let breaks := content.count Text.newline
    if content.getLast? = some Text.newline then breaks else breaks + 1

/-- The language that a file names. -/
def statedLanguage (file : SourceFile) : Option Text := file.language.filter fun l => !l.isEmpty

/-- Asks for the adapter of a file: that of its extension, or of its language where it names another
one. -/
def adapterFor (r : Registry) (file : SourceFile) (path : Text) :
    Registry × Except Thrown (Option AdapterInstance) × List LogEntry :=
  let (r, answer, log) := r.askExtension (Path.extensionOf path)
  match answer with
  | .error thrown => (r, .error thrown, log)
  | .ok byExtension =>
    match statedLanguage file with
    | none => (r, .ok byExtension, log)
    | some language =>
      if (byExtension.map fun i => i.adapter.languageId == language).getD false then
        (r, .ok byExtension, log)
      else
        let (r, byLanguage, more) := r.askLanguage language
        (r, byLanguage, log ++ more)

/-- The failure of a file that no adapter is there for. -/
def noAdapter (file : SourceFile) (path : Text) : FileFailure :=
  let message :=
    match statedLanguage file with
    | some language => Text.ofString "No adapter for language: " ++ language
    | none =>
      let extension := Path.extensionOf path
      Text.ofString "No adapter for extension: "
        ++ if extension.isEmpty then Text.ofString "(none)" else extension
  { path, kind := .unsupportedLanguage, message }

/-- The failure of a file that is too large. -/
def tooLarge (path : Text) (size : Nat) (maxFileBytes : Number) : FileFailure :=
  { path, kind := .parseFailure
    message := Text.ofString "file too large (" ++ Text.ofNat size ++ Text.ofString " bytes > "
      ++ maxFileBytes.toText ++ Text.ofString ")" }

/-- The line of a text that what was thrown concerns. -/
def lineOf : Thrown → Option Number
  | .failure f => if f.kind == .parse then f.line else none
  | .value _ => none

/-- What a value thrown while a file was parsed means: a failure of the file, or the exhaustion of
a resource. A value that has no text makes room for another error. -/
def settleThrown (path : Text) (thrown : Thrown) : Except Thrown FileOutcome :=
  if thrown.isResourceExhaustion then
    match thrown with
    | .failure f =>
      if f.kind == .resource then .error thrown
      else
        .error (.failure
          { Failure.of .resource (Text.ofString "Resource exhausted while parsing " ++ path) with
            cause := some f.message })
    | .value _ => .error thrown
  else
    match thrown.text? with
    | some message => .ok (.failed { path, kind := .parseFailure, message, line := lineOf thrown })
    | none => .error .withoutText

/-- The entry of a file whose outline is known. -/
def entryOf (adapter : Adapter) (path content : Text) (outline : Outline) : FileModel :=
  let lineCount : Number := ((countLines content : Nat) : Int)
  { language := adapter.languageId
    lineCount
    definitions := Assembly.definitions path lineCount outline.declarations outline.calls
    imports := Text.distinct outline.imports }

/-- Is a text too large to be parsed? -/
def exceeds (maxFileBytes : Number) (content : Text) : Bool :=
  maxFileBytes < ((content.utf8Length : Nat) : Int)

/-- Indexes a file with an adapter. -/
def indexWith (adapter : Adapter) (maxFileBytes : Number) (path content : Text) :
    Except Thrown FileOutcome :=
  if exceeds maxFileBytes content then
    .ok (.failed (tooLarge path content.utf8Length maxFileBytes))
  else
    match adapter.outline content path with
    | .ok outline => .ok (.indexed path (entryOf adapter path content outline))
    | .error thrown => settleThrown path thrown

/-- Indexes a file. What is thrown where its adapter is asked for is thrown on. -/
def indexFile (r : Registry) (maxFileBytes : Number) (file : SourceFile) :
    Registry × Except Thrown FileOutcome × List LogEntry :=
  let path := Path.normalize file.path
  let (r, answer, log) := adapterFor r file path
  match answer with
  | .error thrown => (r, .error thrown, log)
  | .ok none => (r, .ok (.failed (noAdapter file path)), log)
  | .ok (some i) =>
    let (r, more) :=
      if exceeds maxFileBytes file.content then (r, []) else r.requestGrammar i.adapter
    (r, indexWith i.adapter maxFileBytes path file.content, log ++ more)

end Index

end CallAtlas
