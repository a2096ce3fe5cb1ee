import CallAtlas.Generation.Basic
import CallAtlas.Model.Stored

/-!
# Where models and contents come from

A content provider fetches the source files of a repository at a ref, as a snapshot that has to be
released after use. A fingerprint is a text that identifies the content of a repository without
the content itself; it may be unknown. A store keeps models under paths.
-/

namespace CallAtlas

/-- The content of a repository at a ref. -/
structure Snapshot (σ : Type) where
  files : List SourceFile
  /-- What identifies the content. -/
  fingerprint : Option Text := none
  /-- The ref of the content. -/
  ref : Text
  /-- Gives up what the snapshot holds. -/
  release : Job σ Unit

/-- Looks up the fingerprint of a repository at a ref. -/
abbrev FingerprintLookup (σ : Type) := (repository ref : Text) → Job σ (Option Text)

/-- Provides contents. -/
structure ContentProvider (σ : Type) where
  /-- Fetches the content of a repository at a ref. -/
  fetch : (repository ref : Text) → Job σ (Snapshot σ)
  /-- Looks up fingerprints, if the provider can do so. -/
  fingerprint : Option (FingerprintLookup σ) := none

/-- Keeps models. -/
structure ModelStore (σ : Type) where
  /-- The model under a path; none if nothing was saved there. -/
  load : Text → Job σ (Option PersistedModel)
  save : Text → RepoModel → RepoMetadata → Job σ Unit

/-- Fetches a snapshot, uses it and releases it, whether the use throws or not. -/
def ContentProvider.withSnapshot {σ α : Type} (p : ContentProvider σ) (repository ref : Text)
    (use : Snapshot σ → Job σ α) : Job σ α := do
  let snapshot ← p.fetch repository ref
  Job.ensuring (use snapshot) snapshot.release

end CallAtlas
