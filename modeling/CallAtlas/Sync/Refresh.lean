import CallAtlas.Host
import CallAtlas.Sync.Freshness

/-!
# Refreshing a model

The stored model is used again if it is up to date. Otherwise the content is fetched, the model is
generated and then saved. A model whose generation was cancelled is given back but not saved.
-/

namespace CallAtlas

/-- What is to be refreshed. -/
structure RefreshRequest where
  repository : Text
  ref : Text
  /-- Where the model is stored. -/
  outputPath : Text
  /-- Is the model generated even if the stored one is up to date? -/
  force : Bool := false

/-- With whose help a model is refreshed. -/
structure Collaborators (σ : Type) where
  provider : ContentProvider σ
  /-- Looks up fingerprints in the place of the provider. -/
  fingerprints : Option (FingerprintLookup σ) := none
  store : ModelStore σ
  generate : List SourceFile → Job σ Generated

/-- The result of a refresh. -/
inductive RefreshResult where
  /-- The stored model is up to date. -/
  | reused (stored : PersistedModel) (warnings : List Text)
  | regenerated (generated : Generated) (metadata : RepoMetadata) (warnings : List Text)

namespace RefreshResult

/-- The model, stored or new. -/
def model : RefreshResult → RepoModel
  | reused stored _ => stored.model
  | regenerated generated _ _ => generated.model

/-- The metadata of the model. -/
def metadata : RefreshResult → RepoMetadata
  | reused stored _ => stored.metadata
  | regenerated _ metadata _ => metadata

/-- The warnings. -/
def warnings : RefreshResult → List Text
  | reused _ warnings => warnings
  | regenerated _ _ warnings => warnings

end RefreshResult

namespace Refresh

variable {σ : Type}

/-- The stored model if it may be used again, and the warnings. -/
def reusable (c : Collaborators σ) (q : RefreshRequest) :
    Job σ (Option PersistedModel × List Text) :=
  match c.fingerprints.or c.provider.fingerprint with
  | none => return (none, [])
  | some fingerprints =>
    if q.force then return (none, [])
    else do
      let f ← Freshness.check c.store q.outputPath fingerprints q.repository q.ref
      let stored := f.stored.filter fun _ => f.current
      if stored.isSome then
        Job.note .info "Model is up to date"
          ([("repository", Json.str q.repository), ("ref", .str q.ref)]
            ++ Json.optional "fingerprint" Json.str f.fingerprint)
        Job.annotate [("callmap.regenerated", .bool false)]
      return (stored, f.warnings)

/-- Generates the model from the content of the repository. -/
def regenerate (c : Collaborators σ) (q : RefreshRequest) : Job σ (Generated × RepoMetadata) :=
  c.provider.withSnapshot q.repository q.ref fun snapshot => do
    let generated ← c.generate snapshot.files
    let metadata : RepoMetadata :=
      { repository := q.repository
        ref := snapshot.ref
        fingerprint := snapshot.fingerprint.filter fun f => !f.isEmpty
        generatedAt := (← Job.host).now
        toolVersion := Text.ofString version }
    return (generated, metadata)

/-- The warning of a cancelled generation. -/
def cancelledWarning : Text :=
  Text.ofString "Generation was cancelled; the partial model was not saved"

/-- Saves a model whose generation was not cancelled; the result is a warning otherwise. -/
def save (c : Collaborators σ) (q : RefreshRequest) (generated : Generated)
    (metadata : RepoMetadata) : Job σ (List Text) :=
  if generated.cancelled then return [cancelledWarning]
  else do
    c.store.save q.outputPath generated.model metadata
    return []

/-- Uses the stored model again or generates it. -/
def perform (c : Collaborators σ) (q : RefreshRequest) : Job σ RefreshResult := do
  match ← reusable c q with
  | (some stored, warnings) => return .reused stored warnings
  | (none, warnings) =>
    let (generated, metadata) ← regenerate c q
    let more ← save c q generated metadata
    Job.annotate
      [("callmap.regenerated", .bool true), ("callmap.cancelled", .bool generated.cancelled)]
    return .regenerated generated metadata (warnings ++ more)

end Refresh

/-- Refreshes the stored model of a repository. -/
def refresh {σ : Type} (c : Collaborators σ) (q : RefreshRequest) : Job σ RefreshResult :=
  Job.span "callmap.refresh" [("callmap.repository", .str q.repository), ("callmap.ref", .str q.ref)]
    (Refresh.perform c q)

end CallAtlas
