import CallAtlas.Command.Run
import CallAtlas.Workspace.Document

/-!
# The command line

The program reads a workspace as a JSON document from the standard input and runs the command that
its arguments ask for. It writes a JSON document with what the command has printed, the lines of
the log and the workspace after the command, and it ends with the exit code of the command.
-/

namespace CallAtlas.Main

/-- A host that is known by the document alone. -/
def host (document : Json) : Host :=
  let text (name otherwise : String) : Text :=
    ((document.get? name).bind Json.str?).getD (Text.ofString otherwise)
  { now := text "now" "1970-01-01T00:00:00.000Z"
    processors := (((document.get? "processors").bind Json.num?).map Number.toNat).getD 1
    process := text "process" "0"
    runtime := text "runtime" "unknown"
    platform := text "platform" "unknown"
    architecture := text "architecture" "unknown" }

/-- What a command has come to. -/
def reportOf (session : Session Terminal) : Json :=
  let t := session.world
  let lines (ls : List Text) : Json := .arr (ls.map Json.str)
  .object
    [("exit", .ofNat t.exitCode), ("output", lines t.output), ("errors", lines t.errors),
      ("log", lines (logLines t.logLevel session.log)), ("workspace", t.workspace.toJson)]

/-- Runs the command of some arguments on the workspace of a document. -/
def runOn (document : Json) (arguments : List Text) : Except Text (Json × Nat) :=
  match Workspace.decoder (some document) with
  | .error issues => .error (Text.join [Text.newline] (issues.map Issue.line))
  | .ok workspace =>
    let session : Session Terminal := { host := host document, world := { workspace } }
    let (_, after) := (Command.execute arguments).run session
    .ok (reportOf after, after.world.exitCode)

/-- All that a stream holds. -/
partial def readAll (input : IO.FS.Stream) (before : String) : IO String := do
  let line ← input.getLine
  if line.isEmpty then return before else readAll input (before ++ line)

end CallAtlas.Main

open CallAtlas in
/-- Runs the command of the arguments on the workspace in the standard input. -/
def main (arguments : List String) : IO UInt32 := do
  let text ← Main.readAll (← IO.getStdin) ""
  match Json.parse? (Text.ofString text) with
  | none =>
    IO.eprintln "The standard input holds no JSON document."
    return 2
  | some document =>
    match Main.runOn document (arguments.map Text.ofString) with
    | .error issues =>
      IO.eprintln issues.toString
      return 2
    | .ok (report, code) =>
      IO.println report.ascii.toString
      return code.toUInt32
