import CallAtlas.Sync.Basic

/-!
# Freshness

A stored model is up to date if it is of the same repository and its fingerprint is the present
one. All that is unknown counts as out of date: a model that cannot be read, a missing fingerprint,
and a fingerprint that cannot be looked up. Only where a lookup throws a value that has no text for
the warning does the check itself throw.
-/

namespace CallAtlas

/-- Is a stored model of the given metadata up to date? -/
def isUpToDate (stored : Option RepoMetadata) (fingerprint repository : Option Text) : Bool :=
  match stored, stored.bind RepoMetadata.fingerprint, fingerprint with
  | some metadata, some old, some new =>
    !old.isEmpty && old == new
      && (match repository with
          | some r => metadata.repository == r
          | none => true)
  | _, _, _ => false

/-- The stored model beside the present state of its repository. -/
structure Freshness where
  /-- Is the stored model up to date? -/
  current : Bool
  /-- The present fingerprint. -/
  fingerprint : Option Text
  stored : Option PersistedModel
  warnings : List Text

namespace Freshness

/-- The detail of the log that tells of what was thrown. -/
def thrownDetail : Thrown → LogDetail
  | .failure f => .failure f.message none
  | .value v => .value v

/-- Reports something that is unusable. -/
def warn {σ : Type} (message : String) (details : List (String × LogDetail)) : Job σ Unit :=
  Job.report
    [{ level := .warn
       message := Text.ofString message
       details := some (details.map fun d => (Text.ofString d.1, d.2)) }]

/-- Was a model thrown out as one that cannot be stored or loaded? -/
def isPersistenceFailure : Thrown → Bool
  | .failure f => f.kind == .persistence
  | .value _ => false

/-- The stored model, or a warning if it is unusable. -/
def loadStored {σ : Type} (store : ModelStore σ) (outputPath : Text) :
    Job σ (Option PersistedModel × List Text) := do
  match ← Job.attempt (store.load outputPath) with
  | .ok stored => return (stored, [])
  | .error thrown =>
    if isPersistenceFailure thrown then
      warn "Persisted model is unusable"
        [("outputPath", .value (.str outputPath)), ("error", thrownDetail thrown)]
      return (none,
        [Text.ofString "Persisted model is unusable, regenerating: " ++ thrown.message])
    else Job.throw thrown

/-- The present fingerprint, or a warning if there is none. -/
def lookUp {σ : Type} (fingerprints : FingerprintLookup σ) (repository ref : Text) :
    Job σ (Option Text × List Text) := do
  let place := [("repository", LogDetail.value (.str repository)), ("ref", .value (.str ref))]
  match ← Job.attempt (fingerprints repository ref) with
  | .ok (some fingerprint) => return (some fingerprint, [])
  | .ok none =>
    warn "Fingerprint unavailable" place
    return (none,
      [Text.ofString "Fingerprint unavailable for " ++ repository ++ Text.ofString " at " ++ ref
        ++ Text.ofString ", regenerating"])
  | .error thrown =>
    match thrown.text? with
    | some message =>
      warn "Fingerprint lookup failed" (place ++ [("error", thrownDetail thrown)])
      return (none, [Text.ofString "Fingerprint lookup failed, regenerating: " ++ message])
    | none => Job.throw .withoutText

/-- Loads the stored model and compares it with the present state of the repository. -/
def check {σ : Type} (store : ModelStore σ) (outputPath : Text)
    (fingerprints : FingerprintLookup σ) (repository ref : Text) : Job σ Freshness := do
  let (stored, loadWarnings) ← loadStored store outputPath
  let (fingerprint, lookupWarnings) ← lookUp fingerprints repository ref
  let metadata := stored.map PersistedModel.metadata
  let current := isUpToDate metadata fingerprint (some repository)
  Job.note .debug "Freshness check"
    ([("repository", Json.str repository), ("ref", .str ref), ("current", .bool current)]
      ++ Json.optional "persistedFingerprint" Json.str (metadata.bind RepoMetadata.fingerprint)
      ++ Json.optional "fingerprint" Json.str fingerprint)
  return { current, fingerprint, stored, warnings := loadWarnings ++ lookupWarnings }

end Freshness

end CallAtlas
