import CallAtlas.Index.File

/-!
# The queue of a generation

The files that a generation works on are those whose path, in normal form, was not met before.
A file whose path was met before fails.
-/

namespace CallAtlas

/-- A file that waits for a worker. -/
structure QueuedFile where
  /-- The path in normal form. -/
  path : Text
  file : SourceFile
deriving DecidableEq, Inhabited

namespace Queue

/-- The failure of a file whose path was met before. -/
def repeatedPath (path : Text) : FileFailure :=
  { path, kind := .parseFailure, message := Text.ofString "duplicate path" }

/-- The failure of a file that no worker took. -/
def cancelled (f : QueuedFile) : FileFailure :=
  { path := f.path, kind := .cancelled
    message := Text.ofString "generation cancelled before this file was dispatched" }

/-- A file with its path in normal form. -/
def queued (file : SourceFile) : QueuedFile := ⟨Path.normalize file.path, file⟩

/-- The files whose path was not met before. -/
def firsts (met : List Text) : List QueuedFile → List QueuedFile
  | [] => []
  | f :: fs => if met.contains f.path then firsts met fs else f :: firsts (f.path :: met) fs

/-- The paths that were met before, once for each time that they come again. -/
def repeats (met : List Text) : List QueuedFile → List Text
  | [] => []
  | f :: fs =>
    if met.contains f.path then f.path :: repeats met fs else repeats (f.path :: met) fs

/-- The files of a generation. -/
def ofFiles (files : List SourceFile) : List QueuedFile := firsts [] (files.map queued)

/-- The failures of the files whose path was met before. -/
def repeatFailures (files : List SourceFile) : List FileFailure :=
  (repeats [] (files.map queued)).map repeatedPath

end Queue

end CallAtlas
