import CallAtlas.Graph.CallStack
import CallAtlas.Session.Job

/-!
# Call stacks as jobs

Resolving a call stack changes nothing but the log and the spans of a session: a stack that was cut
short is worth a warning, and the resolution runs inside a span of its own.
-/

namespace CallAtlas.CallStack

/-- The call stack of the definition that encloses a line of a file, with a span around the work.
Bounds out of range are refused before it begins. -/
def resolveJob {σ : Type} (m : RepoModel) (filePath : Text) (line maxDepth maxNodes : Number) :
    Job σ (Except Error CallStack) :=
  match checkDepth maxDepth, checkNodes maxNodes with
  | .error f, _ | .ok _, .error f => Job.throw (.failure f)
  | .ok depth, .ok nodes =>
    let path := Path.normalize filePath
    Job.span "callmap.callstack.resolve"
        [("callmap.file", Json.str path), ("callmap.line", .num line),
          ("callmap.max_depth", .num maxDepth)] do
      let result := resolveWithin m path line depth nodes
      match result with
      | .ok s =>
        if s.truncated then
          Job.note .warn "Call stack truncated"
            [("filePath", Json.str path), ("line", .num line), ("maxNodes", .num maxNodes)]
        Job.annotate
          [("callmap.callstack.entries", Json.ofNat s.entries.length),
            ("callmap.callstack.truncated", .bool s.truncated)]
      | .error _ => Job.annotate []
      return result

end CallAtlas.CallStack
