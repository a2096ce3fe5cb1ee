import CallAtlas.Digest.Sha256

/-!
# The digest of a set of files

A set of files is given by pairs of a path and a content. Each file becomes a record of its path
and the digest of its content; the digest of the set is that of the sorted records, so the order
of the files does not matter.
-/

namespace CallAtlas.Digest

/-- The record of a file. -/
def fileRecord (hash : Text → Text) (file : Text × Text) : Text :=
  file.1 ++ 0 :: hash file.2

/-- The digest of a set of files under a hash of texts. -/
def fileSetWith (hash : Text → Text) (files : List (Text × Text)) : Text :=
  hash (Text.join [Text.newline] (Text.sort (files.map (fileRecord hash))))

/-- The digest of a set of files. -/
def fileSet (files : List (Text × Text)) : Text := fileSetWith ofText files

end CallAtlas.Digest
