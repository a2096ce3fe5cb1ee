import CallAtlas.Proofs.Sync.Calls
import Mathlib.Tactic.IntervalCases

/-!
# What a refresh does, whatever its collaborators do

Each collaborator may give any result or throw at any call. The calls of a refresh take one of a few
courses: it uses the stored model again, it fails on the way, it ends with a partial model, or it
saves.
-/

namespace CallAtlas

open Job

variable {σ : Type} {c : Collaborators σ} {q : RefreshRequest}

/-! ## The parts of a refresh -/

namespace Freshness

variable {outputPath repository ref : Text}

lemma observes_loadStored :
    Observes (loadStored c.observed.store outputPath) (loadStored c.store outputPath)
      fun _ calls o => ∃ stored, calls = [.load stored] ∧ o = storedOf stored := by
  refine ((Observes.recorded Refresh.Call.load (c.store.load outputPath)).attempt.bind
    (R := fun stored _ calls o => calls = [] ∧ o = storedOf stored) fun stored => ?_).mono ?_
  · cases stored with
    | ok stored => exact .give _
    | error thrown =>
      unfold storedOf
      by_cases hfailure : isPersistenceFailure thrown
      · simp only [if_pos hfailure]
        exact .behind (.report _) (.give _)
      · simp only [if_neg hfailure]
        exact .throw _
  · rintro n calls o (⟨thrown, -, outcome, h, -⟩
      | ⟨stored, first, second, rfl, ⟨outcome, h, rfl⟩, rfl, rfl⟩)
    · cases h
    · obtain rfl := Except.ok.inj h
      exact ⟨stored, rfl, rfl⟩

lemma observes_lookUp (lookup : FingerprintLookup σ) :
    Observes (lookUp (Refresh.observedLookup lookup) repository ref)
      (lookUp lookup repository ref)
      fun _ calls o => ∃ present, calls = [.lookUp present]
        ∧ o = presentOf repository ref present := by
  refine ((Observes.recorded Refresh.Call.lookUp (lookup repository ref)).attempt.bind
    (R := fun present _ calls o => calls = [] ∧ o = presentOf repository ref present)
    fun present => ?_).mono ?_
  · match present with
    | .ok (some fingerprint) => exact .give _
    | .ok none => exact .behind (.report _) (.give _)
    | .error thrown =>
      unfold presentOf
      cases htext : thrown.text? with
      | some message =>
        simp only [htext]
        exact .behind (.report _) (.give _)
      | none =>
        simp only [htext]
        exact .throw _
  · rintro n calls o (⟨thrown, -, outcome, h, -⟩
      | ⟨present, first, second, rfl, ⟨outcome, h, rfl⟩, rfl, rfl⟩)
    · cases h
    · obtain rfl := Except.ok.inj h
      exact ⟨present, rfl, rfl⟩

/-- The check loads and then looks up, unless loading throws what no store does by itself. What a
lookup throws may be thrown on. -/
lemma observes_check (lookup : FingerprintLookup σ) :
    Observes
      (check c.observed.store outputPath (Refresh.observedLookup lookup) repository ref)
      (check c.store outputPath lookup repository ref)
      fun _ calls o => ∃ stored, (∃ thrown, calls = [.load stored] ∧ o = .error thrown)
        ∨ ∃ present, calls = [.load stored, .lookUp present]
          ∧ o = checked repository ref stored present := by
  refine (observes_loadStored.bind
    (R := fun stored _ calls o => ∃ present, calls = [.lookUp present]
      ∧ o = (presentOf repository ref present).bind fun p => .ok (compared repository stored p))
    fun stored => ?_).mono ?_
  · refine ((observes_lookUp lookup).bind
      (R := fun present _ calls o => calls = [] ∧ o = .ok (compared repository stored present))
      fun present => .behind (.report _) (.give _)).mono ?_
    rintro n calls o (⟨thrown, rfl, present, rfl, h⟩
      | ⟨present, first, second, rfl, ⟨p, rfl, h⟩, rfl, rfl⟩)
    · exact ⟨present, rfl, by rw [← h]; rfl⟩
    · exact ⟨p, rfl, by rw [← h]; rfl⟩
  · rintro n calls o (⟨thrown, rfl, stored, rfl, -⟩
      | ⟨a, first, second, rfl, ⟨stored, rfl, h⟩, present, rfl, rfl⟩)
    · exact ⟨stored, .inl ⟨thrown, rfl, rfl⟩⟩
    · refine ⟨stored, .inr ⟨present, rfl, ?_⟩⟩
      rw [checked, ← h]
      rfl

end Freshness

namespace Refresh

/-- Deciding calls nothing, or it loads and looks up. -/
lemma observes_reusable :
    Observes (reusable c.observed q) (reusable c q) fun _ calls o =>
      (calls = [] ∧ o = .ok (none, []))
      ∨ q.force = false ∧ ∃ stored, (∃ thrown, calls = [.load stored] ∧ o = .error thrown)
        ∨ ∃ present, calls = [.load stored, .lookUp present]
          ∧ o = reusableOf q stored present := by
  have hlookups : c.observed.fingerprints.or c.observed.provider.fingerprint
      = (c.fingerprints.or c.provider.fingerprint).map observedLookup := by
    unfold Collaborators.observed ContentProvider.observed
    cases c.fingerprints <;> rfl
  unfold reusable
  rw [hlookups]
  cases c.fingerprints.or c.provider.fingerprint with
  | none => exact (Observes.give _).mono fun _ _ _ h => .inl h
  | some lookup =>
    simp only [Option.map_some]
    by_cases hforce : q.force = true
    · simp only [if_pos hforce]
      exact (Observes.give _).mono fun _ _ _ h => .inl h
    · simp only [if_neg hforce]
      refine ((Freshness.observes_check lookup).bind
        (R := fun f _ calls o => calls = []
          ∧ o = .ok (f.stored.filter fun _ => f.current, f.warnings)) fun f => ?_).mono ?_
      · by_cases hsome : (f.stored.filter fun _ => f.current).isSome = true
        · simp only [if_pos hsome]
          exact .behind (.report _) (.behind (.annotate _) (.give _))
        · simp only [if_neg hsome]
          exact .give _
      · rintro n calls o (⟨thrown, rfl, stored, ⟨thrown', rfl, -⟩ | ⟨present, rfl, h⟩⟩
          | ⟨f, first, second, rfl, ⟨stored, ⟨thrown', -, h⟩ | ⟨present, rfl, h⟩⟩, rfl, rfl⟩)
        · exact .inr ⟨Bool.eq_false_iff.mpr hforce, stored, .inl ⟨thrown, rfl, rfl⟩⟩
        · refine .inr ⟨Bool.eq_false_iff.mpr hforce, stored, .inr ⟨present, rfl, ?_⟩⟩
          rw [reusableOf, if_neg hforce, ← h]
          rfl
        · cases h
        · refine .inr ⟨Bool.eq_false_iff.mpr hforce, stored, .inr ⟨present, rfl, ?_⟩⟩
          rw [reusableOf, if_neg hforce, ← h]
          rfl

/-- Generating fetches a snapshot, generates from its files and releases it, whether generating
throws or not. -/
lemma observes_regenerate :
    Observes (regenerate c.observed q) (regenerate c q) fun n calls o =>
      (∃ thrown, calls = [.fetch (.error thrown)] ∧ o = .error thrown)
      ∨ ∃ generated released, calls = [.fetch (.ok ()), .generate generated, .release n released]
        ∧ ∀ g metadata, o = .ok (g, metadata) → generated = .ok g ∧ released = .ok () := by
  refine (observes_withSnapshot (R := fun calls o => ∃ generated, calls = [.generate generated]
    ∧ ∀ g metadata, o = .ok (g, metadata) → generated = .ok g) fun place snapshot => ?_).mono ?_
  · refine ((Observes.recorded Call.generate (c.generate snapshot.files)).bind fun g =>
      Observes.host.bind fun host => .give _).mono ?_
    rintro n calls o (⟨thrown, rfl, rfl⟩
      | ⟨g, first, second, rfl, rfl, ⟨thrown, rfl, rfl⟩
        | ⟨host, third, fourth, rfl, rfl, rfl, rfl⟩⟩)
    · exact ⟨_, rfl, fun g metadata h => nomatch h⟩
    · exact ⟨_, rfl, fun g metadata h => nomatch h⟩
    · refine ⟨_, rfl, fun g' metadata h => ?_⟩
      rw [(Prod.mk.inj (Except.ok.inj h)).1]
  · rintro n calls o (h | ⟨middle, used, released, rfl, ⟨generated, rfl, hused⟩, rfl⟩)
    · exact .inl h
    · refine .inr ⟨generated, released, rfl, fun g metadata h => ?_⟩
      cases released with
      | error thrown => cases h
      | ok u => exact ⟨hused g metadata h, rfl⟩

/-- A model is saved unless its generation was cancelled. -/
lemma observes_save (g : Generated) (metadata : RepoMetadata) :
    Observes (save c.observed q g metadata) (save c q g metadata) fun _ calls o =>
      (g.cancelled = true ∧ calls = [] ∧ ∃ warnings, o = .ok warnings)
      ∨ g.cancelled = false ∧ ∃ saved, calls = [.save q.outputPath g.model metadata saved]
        ∧ o = saved.map fun _ => [] := by
  unfold save
  by_cases hcancelled : g.cancelled = true
  · simp only [if_pos hcancelled]
    exact (Observes.give _).mono fun _ _ _ h => .inl ⟨hcancelled, h.1, _, h.2⟩
  · simp only [if_neg hcancelled]
    refine ((Observes.recorded (Call.save q.outputPath g.model metadata)
      (c.store.save q.outputPath g.model metadata)).bind fun _ => .give _).mono ?_
    rintro n calls o (⟨thrown, rfl, rfl⟩ | ⟨u, first, second, rfl, rfl, rfl, rfl⟩)
    · exact .inr ⟨Bool.eq_false_iff.mpr hcancelled, _, rfl, rfl⟩
    · exact .inr ⟨Bool.eq_false_iff.mpr hcancelled, _, rfl, rfl⟩

/-! ## The courses -/

/-- The calls before a snapshot is fetched. -/
inductive Prelude (q : RefreshRequest) : List Call → Prop where
  | none : Prelude q []
  | checked (hforce : q.force = false) (stored : Outcome (Option PersistedModel))
      (present : Outcome (Option Text)) : Prelude q [.load stored, .lookUp present]

/-- The calls where a snapshot was fetched, used and released, with the number of calls made before
them. -/
def used (n : ℕ) (first : List Call) (generated : Outcome Generated) (released : Outcome Unit) :
    List Call :=
  first ++ [.fetch (.ok ()), .generate generated, .release (n + first.length) released]

/-- The courses that a refresh takes, with the number of calls made before it. -/
inductive Course (q : RefreshRequest) (n : ℕ) : List Call → Outcome RefreshResult → Prop where
  /-- Loading throws what no store throws by itself. -/
  | unloaded (stored : Outcome (Option PersistedModel)) (thrown : Thrown) :
      Course q n [.load stored] (.error thrown)
  /-- What a lookup throws is thrown on. -/
  | unchecked (stored : Outcome (Option PersistedModel)) (present : Outcome (Option Text))
      (thrown : Thrown) : Course q n [.load stored, .lookUp present] (.error thrown)
  /-- The stored model is used again. -/
  | reused (hforce : q.force = false) {stored : PersistedModel} {fingerprint : Text}
      (hrepository : stored.metadata.repository = q.repository) (hne : fingerprint ≠ [])
      (hstored : stored.metadata.fingerprint = some fingerprint) (warnings : List Text) :
      Course q n [.load (.ok (some stored)), .lookUp (.ok (some fingerprint))]
        (.ok (.reused stored warnings))
  /-- Fetching throws. -/
  | unfetched {first : List Call} (hfirst : Prelude q first) (thrown : Thrown) :
      Course q n (first ++ [.fetch (.error thrown)]) (.error thrown)
  /-- Generating or releasing throws. -/
  | ungenerated {first : List Call} (hfirst : Prelude q first) (generated : Outcome Generated)
      (released : Outcome Unit) (thrown : Thrown) :
      Course q n (used n first generated released) (.error thrown)
  /-- The generation was cancelled. -/
  | cancelled {first : List Call} (hfirst : Prelude q first) {g : Generated}
      (hcancelled : g.cancelled = true) (metadata : RepoMetadata) (warnings : List Text) :
      Course q n (used n first (.ok g) (.ok ())) (.ok (.regenerated g metadata warnings))
  /-- The new model is saved, or saving throws. -/
  | saved {first : List Call} (hfirst : Prelude q first) {g : Generated}
      (hcancelled : g.cancelled = false) (metadata : RepoMetadata) (warnings : List Text)
      (saved : Outcome Unit) :
      Course q n (used n first (.ok g) (.ok ()) ++ [.save q.outputPath g.model metadata saved])
        (saved.map fun _ => .regenerated g metadata warnings)

/-- Going on without the stored model takes one of the courses. -/
lemma observes_rest (warnings : List Text) :
    Observes
      (do
        let (generated, metadata) ← regenerate c.observed q
        let more ← save c.observed q generated metadata
        Job.annotate
          [("callmap.regenerated", .bool true), ("callmap.cancelled", .bool generated.cancelled)]
        return RefreshResult.regenerated generated metadata (warnings ++ more))
      (do
        let (generated, metadata) ← regenerate c q
        let more ← save c q generated metadata
        Job.annotate
          [("callmap.regenerated", .bool true), ("callmap.cancelled", .bool generated.cancelled)]
        return RefreshResult.regenerated generated metadata (warnings ++ more))
      fun n calls o => ∀ m first, Prelude q first → n = m + first.length →
        Course q m (first ++ calls) o := by
  refine (observes_regenerate.bind fun p => (observes_save p.1 p.2).bind fun more =>
    .behind (.annotate _) (.give _)).mono ?_
  -- Whatever throws, the calls until then make up one of the courses.
  rintro n calls o (⟨thrown, rfl, ⟨_, rfl, hthrown⟩ | ⟨generated, released, rfl, -⟩⟩
    | ⟨⟨g, metadata⟩, regenerating, _, rfl, ⟨_, -, hout⟩ | ⟨generated, released, rfl, hout⟩, hsave⟩)
    m before hfirst rfl
  · rw [Except.error.inj hthrown]
    exact .unfetched hfirst _
  · exact .ungenerated hfirst generated released thrown
  · cases hout
  · obtain ⟨rfl, rfl⟩ := hout g metadata rfl
    rcases hsave with ⟨thrown, rfl, ⟨-, -, _, h⟩ | ⟨hcancelled, saved, rfl, hsaved⟩⟩
      | ⟨more, saving, _, rfl, ⟨hcancelled, rfl, -⟩ | ⟨hcancelled, saved, rfl, hsaved⟩, rfl, rfl⟩
    · cases h
    · cases saved with
      | ok u => cases hsaved
      | error thrown' =>
        obtain rfl := Except.error.inj hsaved
        rw [← List.append_assoc]
        exact .saved hfirst hcancelled metadata [] (.error thrown)
    · exact .cancelled hfirst hcancelled metadata _
    · cases saved with
      | ok u =>
        rw [List.append_nil, ← List.append_assoc]
        exact .saved hfirst hcancelled metadata _ (.ok u)
      | error thrown => cases hsaved

/-- What the calls are and what comes out once it is decided whether a stored model is used. -/
def Decided (q : RefreshRequest) :
    Option PersistedModel × List Text → ℕ → List Call → Outcome RefreshResult → Prop
  | (some stored, warnings), _, calls, o => calls = [] ∧ o = .ok (.reused stored warnings)
  | (none, _), n, calls, o => ∀ m first, Prelude q first → n = m + first.length →
      Course q m (first ++ calls) o

/-- What a refresh does inside its span takes one of the courses. -/
theorem observes_perform : Observes (perform c.observed q) (perform c q) (Course q) := by
  refine (observes_reusable.bind (R := Decided q) fun decided => ?_).mono ?_
  · obtain ⟨_ | stored, warnings⟩ := decided
    · exact observes_rest warnings
    · exact .give _
  · rintro n calls o (⟨thrown, rfl, ⟨-, h⟩
        | ⟨hforce, stored, ⟨thrown', rfl, -⟩ | ⟨present, rfl, -⟩⟩⟩
      | ⟨⟨decided, warnings⟩, first, second, rfl, hdecided, hrest⟩)
    · cases h
    · exact .unloaded stored thrown
    · exact .unchecked stored present thrown
    · rcases hdecided with ⟨rfl, h⟩
        | ⟨hforce, stored, ⟨thrown, -, h⟩ | ⟨present, rfl, hreusable⟩⟩
      · obtain ⟨rfl, rfl⟩ := Prod.mk.inj (Except.ok.inj h)
        exact hrest n [] .none rfl
      · cases h
      · cases decided with
        | none => exact hrest n _ (.checked hforce stored present) rfl
        | some m =>
          obtain ⟨rfl, rfl⟩ := hrest
          obtain ⟨rfl, fingerprint, rfl, hfingerprint, hne, hrepository⟩ :=
            reusableOf_eq_some hreusable.symm
          exact .reused hforce hrepository hne hfingerprint warnings

/-- A refresh takes one of the courses, and its span hands on what comes out of it. -/
theorem observes_refresh : Observes (refresh c.observed q) (refresh c q) fun n calls o =>
    ∃ inner, Course q n calls inner ∧ o = inner.mapError Thrown.asked :=
  observes_perform.span _ _

/-! ## What all courses have in common -/

/-- Is a model saved by a call? -/
def Call.isSave : Call → Bool
  | .save .. => true
  | _ => false

/-- Is a snapshot fetched by a call, or is that tried? -/
def Call.isFetch : Call → Bool
  | .fetch _ => true
  | _ => false

/-- Is the snapshot released that was fetched by the call at a place? -/
def Call.releases (place : ℕ) : Call → Bool
  | .release n _ => n == place
  | _ => false

/-- Why a refresh may use a stored model again: it is of the repository, and its fingerprint is the
present one and not empty. Nothing is fetched or saved then. -/
structure MayReuse (q : RefreshRequest) (calls : List Call) (stored : PersistedModel) : Prop where
  force_eq : q.force = false
  repository_eq : stored.metadata.repository = q.repository
  fingerprint : ∃ fingerprint, fingerprint ≠ [] ∧ stored.metadata.fingerprint = some fingerprint
    ∧ .load (.ok (some stored)) ∈ calls ∧ .lookUp (.ok (some fingerprint)) ∈ calls
  calls_eq : ∀ call ∈ calls, call.isFetch = false ∧ call.isSave = false

/-- What a refresh with some outcome may have called. -/
structure Conduct (q : RefreshRequest) (calls : List Call) (o : Outcome RefreshResult) : Prop where
  countP_save : calls.countP Call.isSave ≤ 1
  /-- What is saved was generated without being cancelled, and its snapshot was released. -/
  of_save : ∀ before call after, calls = before ++ call :: after → call.isSave →
    ∃ g place metadata saved, call = .save q.outputPath g.model metadata saved
      ∧ g.cancelled = false ∧ .generate (.ok g) ∈ before ∧ .release place (.ok ()) ∈ before
  /-- A snapshot is released once if it was fetched. -/
  countP_release_of_fetched : ∀ place, calls[place]? = some (.fetch (.ok ())) →
    calls.countP (Call.releases place) = 1
  countP_release : ∀ place, calls[place]? ≠ some (.fetch (.ok ())) →
    calls.countP (Call.releases place) = 0
  of_reused : ∀ stored warnings, o = .ok (.reused stored warnings) → MayReuse q calls stored

lemma mem_of_eq_append {calls before after : List Call} {call : Call}
    (h : calls = before ++ call :: after) : call ∈ calls := by
  rw [h]
  exact List.mem_append_right _ List.mem_cons_self

/-- The only save of a list that ends in one comes behind all other calls. -/
lemma eq_of_append_save {front before after : List Call} {last call : Call}
    (hfront : ∀ c ∈ front, c.isSave = false) (hcall : call.isSave = true)
    (h : front ++ [last] = before ++ call :: after) : before = front ∧ call = last := by
  rcases List.eq_nil_or_concat after with rfl | ⟨rest, final, rfl⟩
  · obtain ⟨hbefore, hlast⟩ := List.append_inj' h rfl
    exact ⟨hbefore.symm, (List.cons.inj hlast).1.symm⟩
  · rw [List.concat_eq_append, ← List.cons_append, ← List.append_assoc] at h
    have hmem := mem_of_eq_append (List.append_inj' h rfl).1
    rw [hfront call hmem] at hcall
    cases hcall

section Used

variable {first : List Call} (hfirst : Prelude q first) (generated : Outcome Generated)
  (released : Outcome Unit)

include hfirst

lemma isSave_of_mem_used : ∀ call ∈ used 0 first generated released, call.isSave = false := by
  unfold used
  cases hfirst <;> simp [Call.isSave]

variable {rest : List Call} (hrest : ∀ call ∈ rest, call.isSave = true) (place : ℕ)

include hrest

/-- The snapshot was fetched by the call behind the prelude. -/
lemma getElem?_used :
    (used 0 first generated released ++ rest)[place]? = some (.fetch (.ok ()))
      ↔ place = first.length := by
  have hlength : (used 0 first generated released).length = first.length + 3 := by
    rw [used, List.length_append]
    rfl
  rw [List.getElem?_append]
  split
  · next hlt =>
    rw [hlength] at hlt
    -- The prelude has two calls at most, so the places are looked at one by one.
    unfold used
    cases hfirst with
    | none =>
      rw [List.length_nil] at hlt
      interval_cases place <;> simp
    | checked hforce stored present =>
      rw [List.length_cons, List.length_singleton] at hlt
      interval_cases place <;> simp
  · constructor
    · intro hfetch
      have hsave := hrest _ (List.mem_of_getElem? hfetch)
      cases hsave
    · rintro rfl
      omega

/-- The snapshot is released once, whatever is saved then. -/
lemma countP_releases_used :
    (used 0 first generated released ++ rest).countP (Call.releases place)
      = if place = first.length then 1 else 0 := by
  have hbefore : first.countP (Call.releases place) = 0 := by
    cases hfirst <;> simp [Call.releases]
  have hafter : rest.countP (Call.releases place) = 0 := by
    rw [List.countP_eq_zero]
    intro call hcall hrelease
    have hsave := hrest call hcall
    cases call with
    | save => cases hrelease
    | _ => cases hsave
  rw [List.countP_append, hafter, used, List.countP_append, hbefore]
  by_cases hplace : place = first.length
  · simp [Call.releases, hplace]
  · simp [Call.releases, hplace, Ne.symm hplace]

end Used

/-- A refresh that fetches does no more than it may do. -/
lemma conduct_used {first : List Call} (hfirst : Prelude q first) (generated : Outcome Generated)
    (released : Outcome Unit) {rest : List Call} {o : Outcome RefreshResult}
    (hrest : rest = [] ∨ ∃ g metadata saved, g.cancelled = false ∧ generated = .ok g
      ∧ released = .ok () ∧ rest = [.save q.outputPath g.model metadata saved])
    (ho : ∀ stored warnings, o ≠ .ok (.reused stored warnings)) :
    Conduct q (used 0 first generated released ++ rest) o := by
  -- Nothing is saved before the snapshot is released, and nothing but saving comes after that.
  have hfront := isSave_of_mem_used hfirst generated released
  have hsaves : ∀ call ∈ rest, call.isSave = true := by
    rcases hrest with rfl | ⟨g, metadata, saved, -, -, -, rfl⟩
    · exact fun call hcall => nomatch hcall
    · exact List.forall_mem_singleton.mpr rfl
  refine ⟨?_, ?_, ?_, ?_, ?_⟩
  · have hnone : (used 0 first generated released).countP Call.isSave = 0 := by
      rw [List.countP_eq_zero]
      intro call hcall hsave
      rw [hfront call hcall] at hsave
      cases hsave
    rw [List.countP_append, hnone, Nat.zero_add]
    rcases hrest with rfl | ⟨g, metadata, saved, -, -, -, rfl⟩
    · exact Nat.zero_le 1
    · exact le_rfl
  · intro before call after hcalls hsave
    rcases hrest with rfl | ⟨g, metadata, saved, hcancelled, rfl, rfl, rfl⟩
    · rw [List.append_nil] at hcalls
      rw [hfront call (mem_of_eq_append hcalls)] at hsave
      cases hsave
    · obtain ⟨rfl, rfl⟩ := eq_of_append_save hfront hsave hcalls
      refine ⟨g, first.length, metadata, saved, rfl, hcancelled, ?_, ?_⟩ <;> simp [used]
  · intro place hfetched
    rw [countP_releases_used hfirst _ _ hsaves,
      if_pos ((getElem?_used hfirst _ _ hsaves place).mp hfetched)]
  · intro place hfetched
    rw [countP_releases_used hfirst _ _ hsaves,
      if_neg fun h => hfetched ((getElem?_used hfirst _ _ hsaves place).mpr h)]
  · exact fun stored warnings h => absurd h (ho stored warnings)

/-- A refresh that has no snapshot and saves nothing does no more than it may do, if it uses the
stored model again with good reason. -/
lemma conduct_of_unused {calls : List Call} {o : Outcome RefreshResult}
    (hsave : ∀ call ∈ calls, call.isSave = false) (hfetch : .fetch (.ok ()) ∉ calls)
    (hrelease : ∀ place, ∀ call ∈ calls, call.releases place = false)
    (hreused : ∀ stored warnings, o = .ok (.reused stored warnings) → MayReuse q calls stored) :
    Conduct q calls o := by
  refine ⟨?_, ?_, ?_, ?_, hreused⟩
  · rw [List.countP_eq_zero.mpr fun call hcall h => by rw [hsave call hcall] at h; cases h]
    exact Nat.zero_le 1
  · intro before call after hcalls h
    rw [hsave call (mem_of_eq_append hcalls)] at h
    cases h
  · exact fun place h => absurd (List.mem_of_getElem? h) hfetch
  · intro place _
    rw [List.countP_eq_zero]
    intro call hcall h
    rw [hrelease place call hcall] at h
    cases h

/-- The span around a refresh does not matter for what it may do. -/
lemma Conduct.mapError {calls : List Call} {o : Outcome RefreshResult} (h : Conduct q calls o)
    (f : Thrown → Thrown) : Conduct q calls (o.mapError f) :=
  { h with of_reused := fun stored warnings ho =>
      h.of_reused stored warnings (mapError_eq_ok_iff.mp ho) }

/-- Whatever course a refresh takes, it does no more than it may do. -/
theorem Course.conduct {calls : List Call} {o : Outcome RefreshResult} (h : Course q 0 calls o) :
    Conduct q calls o := by
  cases h with
  | unloaded stored thrown =>
    exact conduct_of_unused (by simp [Call.isSave]) (by simp) (by simp [Call.releases])
      fun stored warnings h => nomatch h
  | unchecked stored present thrown =>
    exact conduct_of_unused (by simp [Call.isSave]) (by simp) (by simp [Call.releases])
      fun stored warnings h => nomatch h
  | @reused hforce stored fingerprint hrepository hne hstored warnings =>
    refine conduct_of_unused (by simp [Call.isSave]) (by simp) (by simp [Call.releases]) ?_
    intro stored' warnings' h
    obtain ⟨rfl, -⟩ := RefreshResult.reused.inj (Except.ok.inj h)
    exact ⟨hforce, hrepository, ⟨fingerprint, hne, hstored, by simp, by simp⟩,
      by simp [Call.isFetch, Call.isSave]⟩
  | unfetched hfirst thrown =>
    cases hfirst <;>
      exact conduct_of_unused (by simp [Call.isSave]) (by simp) (by simp [Call.releases])
        fun stored warnings h => nomatch h
  | ungenerated hfirst generated released thrown =>
    rw [← List.append_nil (used _ _ _ _)]
    exact conduct_used hfirst generated released (.inl rfl) fun stored warnings h => nomatch h
  | cancelled hfirst hcancelled metadata warnings =>
    rw [← List.append_nil (used _ _ _ _)]
    exact conduct_used hfirst _ _ (.inl rfl) fun stored warnings h => nomatch h
  | @saved first hfirst g hcancelled metadata warnings saved =>
    refine conduct_used hfirst _ _ (.inr ⟨g, metadata, saved, hcancelled, rfl, rfl, rfl⟩) ?_
    intro stored warnings' h
    cases saved with
    | ok u => cases h
    | error thrown => cases h

end Refresh

end CallAtlas
