import CallAtlas.Proofs.Session.Reading
import CallAtlas.Sync.Refresh

/-!
# What a refresh leaves as it is

Where all but the store leave a part of the state as it is, a refresh changes it by saving alone: it
saves what it generated, or else saving has thrown, or nothing is changed.
-/

namespace CallAtlas

variable {σ τ : Type}

/-- Collaborators of which none but the store, and that only when it saves, changes a part of the
state. -/
structure Collaborators.Leave (get : σ → τ) (c : Collaborators σ) : Prop where
  load : ∀ path, Job.Leaves get (c.store.load path)
  lookUp : ∀ lookup, c.fingerprints.or c.provider.fingerprint = some lookup →
    ∀ repository ref, Job.Leaves get (lookup repository ref)
  fetch : ∀ repository ref, Job.Leaves get (c.provider.fetch repository ref)
  release : ∀ repository ref s snapshot t,
    (c.provider.fetch repository ref).run s = (.ok snapshot, t) → Job.Leaves get snapshot.release
  generate : ∀ files, Job.Leaves get (c.generate files)

namespace Refresh

open Job

variable {get : σ → τ} {c : Collaborators σ} {q : RefreshRequest}

lemma leaves_loadStored (h : c.Leave get) (path : Text) :
    Leaves get (Freshness.loadStored c.store path) := by
  refine (h.load path).attempt.bind fun s stored t _ => ?_
  split
  · exact .give _
  · split
    · exact .behind (.report _) (.give _)
    · exact .throw _

lemma leaves_lookUp {lookup : FingerprintLookup σ} {repository ref : Text}
    (h : Leaves get (lookup repository ref)) :
    Leaves get (Freshness.lookUp lookup repository ref) := by
  refine h.attempt.bind fun s present t _ => ?_
  split
  · exact .give _
  · exact .behind (.report _) (.give _)
  · split
    · exact .behind (.report _) (.give _)
    · exact .throw _

lemma leaves_reusable (h : c.Leave get) : Leaves get (reusable c q) := by
  unfold reusable
  split
  · exact .give _
  · next lookup hlookup =>
    split
    · exact .give _
    · have hcheck : Leaves get
          (Freshness.check c.store q.outputPath lookup q.repository q.ref) :=
        (leaves_loadStored h q.outputPath).bind fun _ _ _ _ =>
          (leaves_lookUp (h.lookUp lookup hlookup _ _)).bind fun _ _ _ _ =>
            .behind (.report _) (.give _)
      refine hcheck.bind fun s f t _ => ?_
      by_cases hsome : (f.stored.filter fun _ => f.current).isSome = true
      · simp only [if_pos hsome]
        exact .behind (.report _) (.behind (.annotate _) (.give _))
      · simp only [if_neg hsome]
        exact .give _

lemma leaves_regenerate (h : c.Leave get) : Leaves get (regenerate c q) :=
  (h.fetch _ _).bind fun s snapshot t hsnapshot =>
    ((h.generate _).bind fun _ _ _ _ => Leaves.host.bind fun _ _ _ _ => .give _).ensuring
      (h.release _ _ s snapshot t hsnapshot)

/-! ## Refreshes that do not save -/

/-- Does a refresh with some outcome save the model? -/
def hasSaved : Outcome RefreshResult → Bool
  | .ok (.regenerated g _ _) => !g.cancelled
  | _ => false

/-- A refresh that throws saves nothing, whatever it throws. -/
lemma hasSaved_mapError (o : Outcome RefreshResult) (f : Thrown → Thrown) :
    hasSaved (o.mapError f) = hasSaved o := by
  cases o <;> rfl

/-- What comes before the end of a refresh: nothing has changed, or saving has thrown. -/
def Unsaved (get : σ → τ) (c : Collaborators σ) (q : RefreshRequest) (s t : Session σ) : Prop :=
  Session.SamePart get s t
    ∨ ∃ u v model metadata thrown, Session.SamePart get s u
      ∧ (c.store.save q.outputPath model metadata).run u = (.error thrown, v)
      ∧ Session.SamePart get v t

/-- The end of a refresh that does not save a model: nothing is changed, or saving throws. -/
lemma unsaved_of_finish (g : Generated) (metadata : RepoMetadata) (warnings : List Text)
    (s : Session σ) {finish : Job σ RefreshResult}
    (hfinish : finish = do
      let more ← save c q g metadata
      Job.annotate
        [("callmap.regenerated", .bool true), ("callmap.cancelled", .bool g.cancelled)]
      return .regenerated g metadata (warnings ++ more))
    (hunsaved : hasSaved (finish.run s).1 = false) : Unsaved get c q s (finish.run s).2 := by
  subst hfinish
  by_cases hcancelled : g.cancelled = true
  · refine .inl (Leaves.bind ?_ (fun _ _ _ _ => .behind (.annotate _) (.give _)) s)
    rw [save, if_pos hcancelled]
    exact .give _
  · rw [save, if_neg hcancelled, run_bind, run_bind] at hunsaved ⊢
    rcases hsave : (c.store.save q.outputPath g.model metadata).run s with ⟨thrown | u, v⟩
    · exact .inr ⟨s, v, g.model, metadata, thrown, .refl get s, hsave, .refl get v⟩
    · rw [hsave] at hunsaved
      have hsaved : (!g.cancelled) = false := hunsaved
      rw [Bool.not_eq_false'] at hsaved
      exact absurd hsaved hcancelled

lemma Unsaved.of_samePart {s t u : Session σ} (h : Session.SamePart get s t)
    (h' : Unsaved get c q t u) : Unsaved get c q s u := by
  rcases h' with h' | ⟨v, w, model, metadata, thrown, hbefore, hsave, hafter⟩
  · exact .inl (h.trans h')
  · exact .inr ⟨v, w, model, metadata, thrown, h.trans hbefore, hsave, hafter⟩

lemma unsaved_of_perform (h : c.Leave get) (s : Session σ)
    (hunsaved : hasSaved ((perform c q).run s).1 = false) :
    Unsaved get c q s ((perform c q).run s).2 := by
  have hdecide := leaves_reusable (q := q) h s
  rw [perform, run_bind] at hunsaved ⊢
  rcases hreusable : (reusable c q).run s with ⟨thrown | ⟨stored, warnings⟩, u⟩
  · rw [hreusable] at hdecide
    exact .inl hdecide
  rw [hreusable] at hdecide hunsaved
  cases stored with
  | some stored => exact .inl hdecide
  | none =>
    have hwork := leaves_regenerate (q := q) h u
    simp only at hunsaved ⊢
    rw [run_bind] at hunsaved ⊢
    rcases hregenerate : (regenerate c q).run u with ⟨thrown | ⟨g, metadata⟩, v⟩
    · rw [hregenerate] at hwork
      exact .inl (hdecide.trans hwork)
    · rw [hregenerate] at hwork hunsaved
      exact .of_samePart (hdecide.trans hwork)
        (unsaved_of_finish g metadata warnings v rfl hunsaved)

/-- A refresh that does not save a model has changed nothing, or saving has thrown. -/
theorem unsaved_of_refresh (h : c.Leave get) (s : Session σ)
    (hunsaved : hasSaved ((refresh c q).run s).1 = false) :
    Unsaved get c q s ((refresh c q).run s).2 := by
  have hperform := unsaved_of_perform (q := q) h (s.entering "callmap.refresh"
    [("callmap.repository", .str q.repository), ("callmap.ref", .str q.ref)])
    ((hasSaved_mapError _ _).symm.trans hunsaved)
  rcases hperform with hsame | ⟨u, v, model, metadata, thrown, hbefore, hsave, hafter⟩
  · exact .inl ⟨hsame.host, hsame.part⟩
  · exact .inr ⟨u, v, model, metadata, thrown, ⟨hbefore.host, hbefore.part⟩, hsave,
      ⟨hafter.host, hafter.part⟩⟩

/-- A refresh that uses the stored model again has changed nothing. -/
lemma samePart_of_reused (h : c.Leave get) {s t : Session σ} {m : PersistedModel}
    {warnings : List Text} (hrun : (refresh c q).run s = (.ok (.reused m warnings), t)) :
    Session.SamePart get s t := by
  obtain ⟨v, hperform, rfl⟩ := exists_of_run_span_eq_ok hrun
  obtain ⟨⟨stored, warned⟩, u, hdecided, hnext⟩ := run_bind_eq_ok hperform
  have hdecide := leaves_reusable (q := q) h (s.entering "callmap.refresh"
    [("callmap.repository", .str q.repository), ("callmap.ref", .str q.ref)])
  rw [hdecided] at hdecide
  cases stored with
  | some stored =>
    obtain rfl : u = v := congrArg Prod.snd hnext
    exact ⟨hdecide.host, hdecide.part⟩
  | none =>
    -- A refresh that goes on ends with a new model.
    obtain ⟨⟨g, metadata⟩, _, -, hsave⟩ := run_bind_eq_ok hnext
    obtain ⟨more, _, -, hannotate⟩ := run_bind_eq_ok hsave
    cases congrArg Prod.fst hannotate

/-! ## Refreshes that save -/

/-- A model that was generated is of the repository. -/
lemma repository_of_regenerate {s t : Session σ} {g : Generated} {metadata : RepoMetadata}
    (h : (regenerate c q).run s = (.ok (g, metadata), t)) :
    metadata.repository = q.repository := by
  obtain ⟨snapshot, u, -, hensuring⟩ := run_bind_eq_ok h
  obtain ⟨v, huse⟩ := run_ensuring_eq_ok hensuring
  obtain ⟨g', w, -, hmetadata⟩ := run_bind_eq_ok huse
  obtain ⟨-, rfl⟩ := Prod.mk.inj (Except.ok.inj (congrArg Prod.fst hmetadata))
  rfl

lemma exists_save_of_perform (h : c.Leave get) {s t : Session σ} {g : Generated}
    {metadata : RepoMetadata} {warnings : List Text}
    (hrun : (perform c q).run s = (.ok (.regenerated g metadata warnings), t))
    (hcancelled : g.cancelled = false) :
    metadata.repository = q.repository ∧ ∃ u v, Session.SamePart get s u
      ∧ (c.store.save q.outputPath g.model metadata).run u = (.ok (), v)
      ∧ Session.SamePart get v t := by
  obtain ⟨⟨stored, warned⟩, u, hdecided, hnext⟩ := run_bind_eq_ok hrun
  have hdecide := leaves_reusable (q := q) h s
  rw [hdecided] at hdecide
  cases stored with
  | some stored => cases hnext
  | none =>
    obtain ⟨⟨g', metadata'⟩, v, hregenerate, hnext⟩ := run_bind_eq_ok hnext
    obtain ⟨more, w, hsave, hnext⟩ := run_bind_eq_ok hnext
    have hresult : RefreshResult.regenerated g' metadata' (warned ++ more)
        = .regenerated g metadata warnings := Except.ok.inj (congrArg Prod.fst hnext)
    obtain ⟨rfl, rfl, -⟩ := RefreshResult.regenerated.inj hresult
    have hwork := leaves_regenerate (q := q) h u
    rw [hregenerate] at hwork
    rw [save, hcancelled, if_neg Bool.false_ne_true] at hsave
    obtain ⟨⟨⟩, x, hsaved, hgive⟩ := run_bind_eq_ok hsave
    refine ⟨repository_of_regenerate hregenerate, v, x, hdecide.trans hwork, hsaved, ?_⟩
    cases hgive
    obtain rfl : _ = t := congrArg Prod.snd hnext
    exact ⟨rfl, rfl⟩

/-- A refresh that generated a model, and was not cancelled, has saved it and changed nothing
else. -/
theorem exists_save_of_refresh (h : c.Leave get) {s t : Session σ} {g : Generated}
    {metadata : RepoMetadata} {warnings : List Text}
    (hrun : (refresh c q).run s = (.ok (.regenerated g metadata warnings), t))
    (hcancelled : g.cancelled = false) :
    metadata.repository = q.repository ∧ ∃ u v, Session.SamePart get s u
      ∧ (c.store.save q.outputPath g.model metadata).run u = (.ok (), v)
      ∧ Session.SamePart get v t := by
  obtain ⟨t, hperform, rfl⟩ := exists_of_run_span_eq_ok hrun
  obtain ⟨hrepository, u, v, hbefore, hsave, hafter⟩ :=
    exists_save_of_perform h hperform hcancelled
  exact ⟨hrepository, u, v, ⟨hbefore.host, hbefore.part⟩, hsave, ⟨hafter.host, hafter.part⟩⟩

end Refresh

end CallAtlas
