import CallAtlas.Proofs.Session.Reading
import CallAtlas.Sync.Refresh

/-!
# What a refresh has done

Where loading a stored model and looking up a fingerprint only read, so does the check that decides
whether the stored model is used again. Its outcome tells what a refresh did: a stored model that is
used again has the present fingerprint, and a new model was generated from what was fetched then.
-/

namespace CallAtlas

variable {σ : Type}

/-- A model that is up to date is of the repository and has the present fingerprint, which is not
empty. -/
lemma isUpToDate_eq_true {metadata : RepoMetadata} {present : Option Text} {repository : Text}
    (h : isUpToDate (some metadata) present (some repository) = true) :
    ∃ fingerprint, present = some fingerprint ∧ metadata.fingerprint = some fingerprint
      ∧ fingerprint ≠ [] ∧ metadata.repository = repository := by
  unfold isUpToDate at h
  split at h
  · rename_i m old new hstored hold
    obtain rfl := Option.some.inj hstored
    simp only [Bool.and_eq_true, Bool.not_eq_true', List.isEmpty_eq_false_iff, beq_iff_eq] at h
    obtain ⟨⟨hne, rfl⟩, hrepository⟩ := h
    exact ⟨old, rfl, hold, hne, hrepository⟩
  · cases h

/-! ## The check as a function -/

namespace Freshness

/-- The stored model that loading gives, and the warnings. -/
def storedOf : Outcome (Option PersistedModel) → Outcome (Option PersistedModel × List Text)
  | .ok stored => .ok (stored, [])
  | .error thrown =>
    if isPersistenceFailure thrown then
      .ok (none, [Text.ofString "Persisted model is unusable, regenerating: " ++ thrown.message])
    else .error thrown

/-- The fingerprint that a lookup gives, and the warnings. -/
def presentOf (repository ref : Text) :
    Outcome (Option Text) → Outcome (Option Text × List Text)
  | .ok (some fingerprint) => .ok (some fingerprint, [])
  | .ok none =>
    .ok (none,
      [Text.ofString "Fingerprint unavailable for " ++ repository ++ Text.ofString " at " ++ ref
        ++ Text.ofString ", regenerating"])
  | .error thrown =>
    match thrown.text? with
    | some message =>
      .ok (none, [Text.ofString "Fingerprint lookup failed, regenerating: " ++ message])
    | none => .error .withoutText

/-- The freshness of what was loaded beside what was looked up. -/
def compared (repository : Text) (stored : Option PersistedModel × List Text)
    (present : Option Text × List Text) : Freshness where
  current := isUpToDate (stored.1.map PersistedModel.metadata) present.1 (some repository)
  fingerprint := present.1
  stored := stored.1
  warnings := stored.2 ++ present.2

/-- What the check gives for what loading and looking up give. -/
def checked (repository ref : Text) (stored : Outcome (Option PersistedModel))
    (present : Outcome (Option Text)) : Outcome Freshness :=
  (storedOf stored).bind fun stored =>
    (presentOf repository ref present).bind fun present => .ok (compared repository stored present)

variable {store : ModelStore σ} {outputPath repository ref : Text}
  {fingerprints : FingerprintLookup σ}
  {loaded : Host → σ → Registry → Outcome (Option PersistedModel)}
  {present : Host → σ → Registry → Outcome (Option Text)}

lemma loadStored_reads (h : Job.Reads (store.load outputPath) loaded) :
    Job.Reads (loadStored store outputPath) fun host w r => storedOf (loaded host w r) := by
  refine h.attempt.bind (g := fun o _ _ _ => storedOf o) fun o => ?_
  cases o with
  | ok stored => exact .give _
  | error thrown =>
    simp only [storedOf]
    by_cases hfailure : isPersistenceFailure thrown
    · rw [if_pos hfailure, if_pos hfailure]
      exact .behind (.report _) (.give _)
    · rw [if_neg hfailure, if_neg hfailure]
      exact .throw _

lemma lookUp_reads (h : Job.Reads (fingerprints repository ref) present) :
    Job.Reads (lookUp fingerprints repository ref) fun host w r =>
      presentOf repository ref (present host w r) := by
  refine h.attempt.bind (g := fun o _ _ _ => presentOf repository ref o) fun o => ?_
  match o with
  | .ok (some fingerprint) => exact .give _
  | .ok none => exact .behind (.report _) (.give _)
  | .error thrown =>
    unfold presentOf
    cases htext : thrown.text? with
    | some message =>
      simp only [htext]
      exact .behind (.report _) (.give _)
    | none =>
      simp only [htext]
      exact .throw _

/-- A stored model that comes out of loading was loaded. -/
lemma eq_ok_of_storedOf_eq_ok {stored : Outcome (Option PersistedModel)} {m : PersistedModel}
    {warnings : List Text} (h : storedOf stored = .ok (some m, warnings)) :
    stored = .ok (some m) := by
  unfold storedOf at h
  split at h
  · obtain ⟨hm, -⟩ := Prod.mk.inj (Except.ok.inj h)
    rw [hm]
  · split at h <;> cases h

/-- A fingerprint that comes out of a lookup was found by it. -/
lemma eq_ok_of_presentOf_eq_ok {present : Outcome (Option Text)} {fingerprint : Text}
    {warnings : List Text}
    (h : presentOf repository ref present = .ok (some fingerprint, warnings)) :
    present = .ok (some fingerprint) := by
  unfold presentOf at h
  split at h
  · obtain ⟨hfingerprint, -⟩ := Prod.mk.inj (Except.ok.inj h)
    rw [hfingerprint]
  · cases h
  · split at h <;> cases h

/-- What is compared was loaded and looked up. -/
lemma of_checked_eq_ok {stored : Outcome (Option PersistedModel)} {present : Outcome (Option Text)}
    {f : Freshness} (h : checked repository ref stored present = .ok f) :
    ∃ loaded found, storedOf stored = .ok loaded ∧ presentOf repository ref present = .ok found
      ∧ f = compared repository loaded found := by
  obtain ⟨loaded, hloaded, h⟩ := Except.exists_of_bind_eq_ok h
  obtain ⟨found, hfound, h⟩ := Except.exists_of_bind_eq_ok h
  exact ⟨loaded, found, hloaded, hfound, (Except.ok.inj h).symm⟩

/-- The check changes nothing but the log. -/
theorem check_reads (hload : Job.Reads (store.load outputPath) loaded)
    (hlookUp : Job.Reads (fingerprints repository ref) present) :
    Job.Reads (check store outputPath fingerprints repository ref) fun host w r =>
      checked repository ref (loaded host w r) (present host w r) :=
  (loadStored_reads hload).bind fun _ => (lookUp_reads hlookUp).bind fun _ =>
    .behind (.note _ _ _) (.give _)

end Freshness

/-! ## The refresh -/

namespace Refresh

variable {c : Collaborators σ} {q : RefreshRequest} {s : Session σ}
  {fingerprints : FingerprintLookup σ}
  {loaded : Host → σ → Registry → Outcome (Option PersistedModel)}
  {present : Host → σ → Registry → Outcome (Option Text)}
  {content : Host → σ → Registry → Outcome (Snapshot σ)}

/-- The stored model that may be used again, of what was loaded beside what was looked up. -/
def reusableOf (q : RefreshRequest) (stored : Outcome (Option PersistedModel))
    (present : Outcome (Option Text)) : Outcome (Option PersistedModel × List Text) :=
  if q.force then .ok (none, [])
  else
    (Freshness.checked q.repository q.ref stored present).bind fun f =>
      .ok (f.stored.filter fun _ => f.current, f.warnings)

/-- Deciding whether the stored model is used again changes nothing but the log and the spans. -/
theorem reusable_reads (hlookup : c.fingerprints.or c.provider.fingerprint = some fingerprints)
    (hload : Job.Reads (c.store.load q.outputPath) loaded)
    (hpresent : Job.Reads (fingerprints q.repository q.ref) present) :
    Job.Reads (reusable c q) fun host w r =>
      reusableOf q (loaded host w r) (present host w r) := by
  unfold reusable reusableOf
  rw [hlookup]
  by_cases hforce : q.force
  · simp only [if_pos hforce]
    exact .give _
  · simp only [if_neg hforce]
    refine (Freshness.check_reads hload hpresent).bind
      (g := fun f _ _ _ => .ok (f.stored.filter fun _ => f.current, f.warnings)) fun f => ?_
    by_cases hsome : (f.stored.filter fun _ => f.current).isSome
    · rw [if_pos hsome]
      exact .behind (.note _ _ _) (.behind (.annotate _) (.give _))
    · rw [if_neg hsome]
      exact .give _

/-- Whether the stored model may be used again: it must be there, of the repository, and with the
present fingerprint, which is not empty. -/
lemma reusableOf_eq_some {stored : Outcome (Option PersistedModel)}
    {present : Outcome (Option Text)} {m : PersistedModel} {warnings : List Text}
    (h : reusableOf q stored present = .ok (some m, warnings)) :
    stored = .ok (some m) ∧ ∃ fingerprint, present = .ok (some fingerprint)
      ∧ m.metadata.fingerprint = some fingerprint ∧ fingerprint ≠ []
      ∧ m.metadata.repository = q.repository := by
  unfold reusableOf at h
  split at h
  · cases h
  · obtain ⟨f, hchecked, h⟩ := Except.exists_of_bind_eq_ok h
    obtain ⟨⟨loaded, _⟩, ⟨found, _⟩, hloaded, hfound, rfl⟩ := Freshness.of_checked_eq_ok hchecked
    obtain ⟨hfilter, -⟩ := Prod.mk.inj (Except.ok.inj h)
    obtain ⟨hm, hcurrent⟩ := Option.filter_eq_some_iff.mp hfilter
    obtain rfl : loaded = some m := hm
    obtain ⟨fingerprint, rfl, hstored⟩ := isUpToDate_eq_true hcurrent
    exact ⟨Freshness.eq_ok_of_storedOf_eq_ok hloaded, fingerprint,
      Freshness.eq_ok_of_presentOf_eq_ok hfound, hstored⟩

/-- A stored model is not used again where this is not wanted. -/
lemma force_eq_false_of_reusableOf {stored : Outcome (Option PersistedModel)}
    {present : Outcome (Option Text)} {m : PersistedModel} {warnings : List Text}
    (h : reusableOf q stored present = .ok (some m, warnings)) : q.force = false := by
  unfold reusableOf at h
  split at h
  · cases h
  · next hforce => exact Bool.eq_false_iff.mpr hforce

/-- A stored model of the repository with the present fingerprint may be used again. -/
lemma reusableOf_of_present (hforce : q.force = false) {m : PersistedModel} {fingerprint : Text}
    (hne : fingerprint ≠ []) (hfingerprint : m.metadata.fingerprint = some fingerprint)
    (hrepository : m.metadata.repository = q.repository) :
    reusableOf q (.ok (some m)) (.ok (some fingerprint)) = .ok (some m, []) := by
  have hcurrent : isUpToDate (some m.metadata) (some fingerprint) (some q.repository) = true := by
    unfold isUpToDate
    simp only [Option.bind_some, hfingerprint, hrepository, beq_self_eq_true, Bool.and_true,
      Bool.not_eq_true', List.isEmpty_eq_false_iff]
    exact hne
  have hchecked : Freshness.checked q.repository q.ref (.ok (some m)) (.ok (some fingerprint))
      = .ok ⟨true, some fingerprint, some m, []⟩ := by
    rw [← hcurrent]
    rfl
  rw [reusableOf, hforce, if_neg Bool.false_ne_true, hchecked]
  rfl

/-- The session in which a refresh decides and works: a span was entered. -/
def entered (q : RefreshRequest) (s : Session σ) : Session σ :=
  { s with
    tracing := s.tracing.enter (Text.ofString "callmap.refresh")
      (Job.attributes [("callmap.repository", .str q.repository), ("callmap.ref", .str q.ref)]) }

/-- A refresh with a result decided first, and then it used the stored model or went on. -/
lemma exists_run_reusable {result : RefreshResult}
    (h : ((refresh c q).run s).1 = .ok result) :
    ∃ (decided : Option PersistedModel × List Text) (u t : Session σ),
      (reusable c q).run (entered q s) = (.ok decided, u)
      ∧ (match decided with
          | (some stored, warnings) => (pure (.reused stored warnings) : Job σ RefreshResult)
          | (none, warnings) => do
            let (generated, metadata) ← regenerate c q
            let more ← save c q generated metadata
            Job.annotate [("callmap.regenerated", .bool true),
              ("callmap.cancelled", .bool generated.cancelled)]
            return .regenerated generated metadata (warnings ++ more)).run u = (.ok result, t) := by
  have hrun : (perform c q).run (entered q s)
      = (.ok result, ((perform c q).run (entered q s)).2) :=
    Prod.ext (Job.mapError_eq_ok_iff.mp h) rfl
  obtain ⟨decided, u, hdecided, hnext⟩ := Job.run_bind_eq_ok hrun
  exact ⟨decided, u, _, hdecided, hnext⟩

/-- A refresh uses the stored model again exactly if it may be used again. -/
theorem reused_iff (hlookup : c.fingerprints.or c.provider.fingerprint = some fingerprints)
    (hload : Job.Reads (c.store.load q.outputPath) loaded)
    (hpresent : Job.Reads (fingerprints q.repository q.ref) present)
    {m : PersistedModel} {warnings : List Text} :
    ((refresh c q).run s).1 = .ok (.reused m warnings)
      ↔ reusableOf q (loaded s.host s.world s.registry) (present s.host s.world s.registry)
        = .ok (some m, warnings) := by
  have hreusable := (reusable_reads hlookup hload hpresent).outcome (entered q s)
  constructor
  · intro h
    obtain ⟨⟨stored, warned⟩, u, t, hdecided, hnext⟩ := exists_run_reusable h
    rw [hdecided] at hreusable
    match stored with
    | some m' =>
      have hresult : RefreshResult.reused m' warned = .reused m warnings :=
        Except.ok.inj (congrArg Prod.fst hnext)
      obtain ⟨rfl, rfl⟩ := RefreshResult.reused.inj hresult
      exact hreusable.symm
    | none =>
      -- A refresh that goes on ends with a new model.
      obtain ⟨⟨g, metadata⟩, _, -, hsave⟩ := Job.run_bind_eq_ok hnext
      obtain ⟨more, _, -, hannotate⟩ := Job.run_bind_eq_ok hsave
      cases congrArg Prod.fst hannotate
  · intro h
    show ((perform c q).run (entered q s)).1.mapError Thrown.asked = _
    rw [perform, Job.run_bind]
    rcases hrun : (reusable c q).run (entered q s) with ⟨o, u⟩
    rw [hrun] at hreusable
    obtain rfl : o = .ok (some m, warnings) := hreusable.trans h
    rfl

/-- A refresh that used the stored model again had loaded it, and its fingerprint was the present
one. -/
theorem of_reused (hlookup : c.fingerprints.or c.provider.fingerprint = some fingerprints)
    (hload : Job.Reads (c.store.load q.outputPath) loaded)
    (hpresent : Job.Reads (fingerprints q.repository q.ref) present)
    {m : PersistedModel} {warnings : List Text}
    (h : ((refresh c q).run s).1 = .ok (.reused m warnings)) :
    loaded s.host s.world s.registry = .ok (some m)
    ∧ ∃ fingerprint, present s.host s.world s.registry = .ok (some fingerprint)
      ∧ m.metadata.fingerprint = some fingerprint ∧ fingerprint ≠ []
      ∧ m.metadata.repository = q.repository :=
  reusableOf_eq_some ((reused_iff hlookup hload hpresent).mp h)

/-- A refresh that generated a model had fetched the content, and the metadata have the fingerprint
of that content. -/
theorem of_regenerated (hlookup : c.fingerprints.or c.provider.fingerprint = some fingerprints)
    (hload : Job.Reads (c.store.load q.outputPath) loaded)
    (hpresent : Job.Reads (fingerprints q.repository q.ref) present)
    (hfetch : Job.Reads (c.provider.fetch q.repository q.ref) content)
    {g : Generated} {metadata : RepoMetadata} {warnings : List Text}
    (h : ((refresh c q).run s).1 = .ok (.regenerated g metadata warnings)) :
    ∃ snapshot u, content s.host s.world s.registry = .ok snapshot ∧ Session.Same s u
      ∧ ((c.generate snapshot.files).run u).1 = .ok g
      ∧ metadata.fingerprint = snapshot.fingerprint.filter fun f => !f.isEmpty := by
  obtain ⟨⟨stored, warned⟩, u, t, hdecided, hnext⟩ := exists_run_reusable h
  have hsame := (reusable_reads hlookup hload hpresent).same (entered q s)
  rw [hdecided] at hsame
  have hentered : Session.Same s u := ⟨hsame.host, hsame.world, hsame.registry⟩
  match stored with
  | some m' => cases congrArg Prod.fst hnext
  | none =>
    obtain ⟨⟨g', metadata'⟩, v, hregenerate, hsave⟩ := Job.run_bind_eq_ok hnext
    obtain ⟨more, _, -, hannotate⟩ := Job.run_bind_eq_ok hsave
    have hresult : RefreshResult.regenerated g' metadata' (warned ++ more)
        = .regenerated g metadata warnings := Except.ok.inj (congrArg Prod.fst hannotate)
    obtain ⟨rfl, rfl, -⟩ := RefreshResult.regenerated.inj hresult
    obtain ⟨snapshot, w, hsnapshot, hensuring⟩ := Job.run_bind_eq_ok hregenerate
    obtain ⟨x, huse⟩ := Job.run_ensuring_eq_ok hensuring
    obtain ⟨g'', y, hgenerate, hmetadata⟩ := Job.run_bind_eq_ok huse
    obtain ⟨rfl, rfl⟩ := Prod.mk.inj (Except.ok.inj (congrArg Prod.fst hmetadata))
    -- Deciding has only read, so what is fetched is the content of the first session.
    have hcontent := hfetch.outcome_eq_of_same hentered
    have hfetched := hfetch.same u
    rw [hsnapshot] at hcontent hfetched
    exact ⟨snapshot, w, hcontent.symm, hentered.trans hfetched, congrArg Prod.fst hgenerate, rfl⟩

end Refresh

end CallAtlas
