import CallAtlas.Failure

/-!
# Spans

An operation can be traced by a span, which has a name, attributes, a status and events. Spans are
recorded only while a tracer is installed, and they are kept only if the tracer keeps them in
memory. Spans are nested: an inner span ends before the outer one does.
-/

namespace CallAtlas

/-- Values by name, in the order in which the names were first set. -/
abbrev Attributes := List (Text × Json)

namespace Attributes

/-- The number of attributes of a span that are recorded. -/
def limit : Nat := 128

/-- Sets an attribute. A missing value and an empty name set nothing, and no new attribute is
recorded beyond the limit. -/
def set (attributes : Attributes) (name : Text) (value : Option Json) : Attributes :=
  match value with
  | none => attributes
  | some v =>
    if name.isEmpty then attributes
    else if attributes.any fun a => a.1 == name then
      attributes.map fun a => if a.1 == name then (name, v) else a
    else if attributes.length < limit then attributes ++ [(name, v)]
    else attributes

/-- Sets attributes one after the other. -/
def setAll (attributes : Attributes) (new : List (Text × Option Json)) : Attributes :=
  new.foldl (fun acc a => acc.set a.1 a.2) attributes

end Attributes

/-- How an operation ended. -/
inductive SpanStatus where
  | ok
  | error (message : Text)

/-- What a span tells of an error. -/
structure SpanEvent where
  /-- The code of the error or the name of its class. -/
  kind : Option Text
  message : Option Text

/-- The record of an operation that has ended. -/
structure Span where
  name : Text
  attributes : Attributes
  status : SpanStatus
  /-- The service that the operation belongs to. -/
  service : Text
  events : List SpanEvent

/-- How operations are traced. -/
structure TracerOptions where
  enabled : Bool
  /-- Are the spans kept in memory, rather than written out? -/
  inMemory : Bool
  service : Option Text := none
deriving DecidableEq, Inhabited

/-- An installed tracer. -/
structure InstalledTracer where
  service : Text
  inMemory : Bool

/-- The state of tracing. -/
structure Tracing where
  /-- Was it decided whether there is a tracer? -/
  initialized : Bool := false
  tracer : Option InstalledTracer := none
  /-- The attributes of the operations that have not ended, the innermost first. -/
  opened : List (Text × Attributes) := []
  /-- The spans in memory, in the order in which they ended. -/
  finished : List Span := []

namespace Tracing

/-- The name of the service, where no other one is given. -/
def defaultService : Text := Text.ofString "callmap"

/-- Installs a tracer or decides to have none; only the first decision counts. -/
def install (t : Tracing) (options : TracerOptions) : Tracing :=
  if t.initialized then t
  else if options.enabled then
    { t with
      initialized := true
      tracer := some ⟨options.service.getD defaultService, options.inMemory⟩ }
  else { t with initialized := true }

/-- Is there a tracer? -/
def enabled (t : Tracing) : Bool := t.tracer.isSome

/-- Does the tracer keep spans in memory? -/
def keeps (t : Tracing) : Bool := (t.tracer.map InstalledTracer.inMemory).getD false

/-- An operation begins. -/
def enter (t : Tracing) (name : Text) (attributes : List (Text × Option Json)) : Tracing :=
  { t with opened := (name, Attributes.setAll [] attributes) :: t.opened }

/-- Sets attributes of the innermost operation. -/
def annotate (t : Tracing) (attributes : List (Text × Option Json)) : Tracing :=
  match t.opened with
  | [] => t
  | (name, own) :: outer => { t with opened := (name, own.setAll attributes) :: outer }

/-- The text of a code that counts as given. -/
def codeText? : Json → Option Text
  | .null => none
  | .bool false => none
  | .num n => if n = 0 then none else some n.toText
  | .str s => if s.isEmpty then none else some s
  | j => some j.display

/-- What a span tells of what was thrown. -/
def eventOf (thrown : Thrown) : SpanEvent :=
  let kind :=
    match thrown with
    | .failure f => (f.code.bind codeText?).getD (Text.ofString f.kind.name)
    | .value _ => Text.ofString FailureClass.general.name
  ⟨some kind, some thrown.message |>.filter fun m => !m.isEmpty⟩

/-- The innermost operation ends. Its span is never finished if what was thrown has no text. -/
def leave (t : Tracing) (failure : Option Thrown) : Tracing :=
  match t.opened with
  | [] => t
  | (name, attributes) :: outer =>
    let t := { t with opened := outer }
    match t.tracer with
    | none => t
    | some tracer =>
      if tracer.inMemory && failure.all fun thrown => thrown.text?.isSome then
        { t with
          finished := t.finished ++ [
            { name, attributes
              status := match failure with
                | none => .ok
                | some thrown => .error thrown.message
              service := tracer.service
              events := (failure.map eventOf).toList }] }
      else t

end Tracing

end CallAtlas
