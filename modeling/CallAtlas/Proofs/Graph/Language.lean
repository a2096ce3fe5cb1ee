import CallAtlas.Proofs.Generation.Storable
import CallAtlas.Proofs.Graph.Bounds
import CallAtlas.Proofs.Graph.Locate
import CallAtlas.Proofs.Text.Order

/-!
# Calls within a language

Calls lead to definitions in files of the language of the caller. Where each definition says which
file it is in, a call stack thus stays within the language it starts in, and the files of other
languages make no difference to it: models with the same files of a language have the same call
stacks there.
-/

namespace CallAtlas

namespace RepoModel

variable {m m' : RepoModel} {language : Text}

/-- The files of a language. -/
def filesOf (m : RepoModel) (language : Text) : List (Text × FileModel) :=
  m.files.filter fun f => f.2.language = language

/-- What holds of a model in which each path leads to one file, and each definition says which file
it is in. -/
structure IsPlaced (m : RepoModel) : Prop where
  nodup : (m.files.map Prod.fst).Nodup
  filePath_eq : ∀ f ∈ m.files, ∀ d ∈ f.2.definitions, d.filePath = f.1

/-- Is a definition in the file that it says it is in, and the file in a language? -/
def Defines (m : RepoModel) (language : Text) (d : Definition) : Prop :=
  ∃ f, m.file? d.filePath = some f ∧ f.language = language ∧ d ∈ f.definitions

lemma mem_filesOf {f : Text × FileModel} :
    f ∈ m.filesOf language ↔ f ∈ m.files ∧ f.2.language = language := by
  rw [filesOf, List.mem_filter, decide_eq_true_eq]

lemma IsPlaced.defines (h : m.IsPlaced) {f : Text × FileModel} (hf : f ∈ m.filesOf language)
    {d : Definition} (hd : d ∈ f.2.definitions) : m.Defines language d := by
  obtain ⟨hmem, hlanguage⟩ := mem_filesOf.mp hf
  refine ⟨f.2, ?_, hlanguage, hd⟩
  rw [h.filePath_eq f hmem d hd]
  exact (lookup_eq_some_iff_mem h.nodup).mpr hmem

/-- What a name is resolved to within a language is in a file of that language. -/
lemma IsPlaced.defines_of_mem_resolve (h : m.IsPlaced) {name : Text} {d : Definition}
    (hd : d ∈ (SymbolIndex.build m).resolve name (some language)) : m.Defines language d := by
  rw [SymbolIndex.resolve_build_of_language, List.mem_flatMap] at hd
  obtain ⟨f, hf, hd⟩ := hd
  obtain ⟨hmem, hlanguage⟩ := List.mem_filter.mp hf
  rw [filesByPath, List.mem_mergeSort] at hmem
  exact h.defines (List.mem_filter.mpr ⟨hmem, hlanguage⟩) (List.mem_of_mem_filter hd)

/-- In a model that was generated each definition says which file it is in. -/
theorem isPlaced_of_generate {σ : Type} {options : GenerateOptions} {files : List SourceFile}
    {s : Session σ}
    (hworkers : ∀ script, options.workers = some script → script = WorkerScript.indexing)
    {g : Generated} (h : ((generate options files).run s).1 = .ok g) : g.model.IsPlaced where
  nodup := (Generation.inOrder_of_generate hworkers h).nodup
  filePath_eq := by
    intro f hf d hd
    obtain ⟨file, -, -, adapter, outline, -, -, hentry⟩ :=
      Generation.exists_outline_of_mem_files hworkers h hf
    rw [hentry] at hd
    exact Assembly.filePath_of_mem_definitions hd

/-! ## The same files of a language -/

/-- What holds of two models with the same files of a language. -/
structure Agree (m m' : RepoModel) (language : Text) : Prop where
  nodup : (m.files.map Prod.fst).Nodup
  nodup' : (m'.files.map Prod.fst).Nodup
  perm : (m.filesOf language).Perm (m'.filesOf language)

namespace Agree

variable (h : m.Agree m' language)
include h

lemma file?_eq {path : Text} {f : FileModel} (hf : m.file? path = some f)
    (hlanguage : f.language = language) : m'.file? path = some f := by
  have hmem : (path, f) ∈ m.filesOf language :=
    mem_filesOf.mpr ⟨mem_of_lookup_eq_some hf, hlanguage⟩
  have hmem' : (path, f) ∈ m'.filesOf language := h.perm.mem_iff.mp hmem
  exact (lookup_eq_some_iff_mem h.nodup').mpr (mem_filesOf.mp hmem').1

lemma defines {d : Definition} (hd : m.Defines language d) : m'.Defines language d := by
  obtain ⟨f, hf, hlanguage, hmem⟩ := hd
  exact ⟨f, h.file?_eq hf hlanguage, hlanguage, hmem⟩

/-- The files of the language come in the same order. -/
lemma filter_filesByPath :
    (m.filesByPath.filter fun f => f.2.language = language)
      = m'.filesByPath.filter fun f => f.2.language = language := by
  have hperm : ∀ m : RepoModel,
      (m.filesByPath.filter fun f => f.2.language = language).Perm (m.filesOf language) :=
    fun m => (List.mergeSort_perm m.files _).filter _
  have hsorted : ∀ m : RepoModel,
      (m.filesByPath.filter fun f => f.2.language = language).Pairwise fun f g => f.1 ≤ g.1 :=
    fun m => (Text.pairwise_mergeSort_key Prod.fst m.files).filter _
  apply Text.eq_of_perm_of_pairwise_key Prod.fst _ ((hperm m).trans (h.perm.trans (hperm m').symm))
    (hsorted m) (hsorted m')
  rw [((hperm m).map Prod.fst).nodup_iff]
  exact (List.filter_sublist.map Prod.fst).nodup h.nodup

/-- A name is resolved to the same definitions within the language. -/
theorem resolve_eq (name : Text) :
    (SymbolIndex.build m).resolve name (some language)
      = (SymbolIndex.build m').resolve name (some language) := by
  rw [SymbolIndex.resolve_build_of_language, SymbolIndex.resolve_build_of_language,
    h.filter_filesByPath]

/-- The same definition encloses a line of a file of the language. -/
lemma enclosing?_eq {path : Text} {line : Number} {d : Definition} {f : FileModel}
    (hd : m.enclosing? path line = some d) (hf : m.file? (Path.normalize path) = some f)
    (hlanguage : f.language = language) : m'.enclosing? path line = some d := by
  rw [enclosing?, hf] at hd
  rw [enclosing?, h.file?_eq hf hlanguage]
  exact hd

end Agree

end RepoModel

namespace CallStack

variable {m m' : RepoModel} {language : Text} {depth : ℕ} {root : Definition}

/-! ## One call -/

/-- Is the definition of a frame, if it has one, in a file of the language? -/
def Frame.StaysIn (m : RepoModel) (language : Text) (f : Frame) : Prop :=
  ∀ d, f.entry.definition = some d → m.Defines language d

lemma languageOf?_eq {d : Definition} (hd : m.Defines language d) :
    (Scope.of m depth).languageOf? d = some language := by
  obtain ⟨f, hf, rfl, -⟩ := hd
  exact congrArg (Option.map FileModel.language) hf

/-- The callees of a frame stay in its language. -/
lemma defines_of_mem_calleesOf (hm : m.IsPlaced) {f : Frame} (hf : f.StaysIn m language)
    {c : Callee} (hc : c ∈ (Scope.of m depth).calleesOf f) {d : Definition}
    (hd : c.definition = some d) : m.Defines language d := by
  obtain ⟨caller, hcaller, hc⟩ := Scope.exists_definition_of_mem_calleesOf hc
  obtain ⟨site, -, hc⟩ := Scope.exists_site_of_mem_callees hc
  rw [languageOf?_eq (hf caller hcaller), Scope.calleesAt] at hc
  split at hc
  · rw [List.mem_singleton.mp hc] at hd
    cases hd
  · obtain ⟨candidate, hcandidate, rfl⟩ := List.mem_map.mp hc
    obtain rfl := Option.some.inj hd
    exact hm.defines_of_mem_resolve hcandidate

lemma staysIn_frameOf (hm : m.IsPlaced) {caller : Frame} (hcaller : caller.StaysIn m language)
    {c : Callee} (hc : c ∈ (Scope.of m depth).calleesOf caller) (id : ℕ) :
    ((Scope.of m depth).frameOf caller id c).StaysIn m language :=
  fun _ hd => defines_of_mem_calleesOf hm hcaller hc hd

/-- No frame of a call stack leaves the language of the root. -/
theorem staysIn_of_mem_frames (hm : m.IsPlaced) (hroot : m.Defines language root) {f : Frame}
    (hf : f ∈ (Scope.of m depth).frames root) : f.StaysIn m language := by
  refine Scope.induction_frames ?_ ?_ hf
  · intro d hd
    rwa [← Option.some.inj hd]
  · intro f _ caller _ _ _ c hc hframe hcaller
    rw [hframe]
    exact staysIn_frameOf hm hcaller hc _

/-- A frame has the same callees in models with the same files of its language. -/
lemma calleesOf_eq_of_agree (h : m.Agree m' language) {f : Frame} (hf : f.StaysIn m language) :
    (Scope.of m depth).calleesOf f = (Scope.of m' depth).calleesOf f := by
  unfold Scope.calleesOf
  split
  · rfl
  · next d hd =>
    have hsites : (Scope.of m depth).calleesAt (some language)
        = (Scope.of m' depth).calleesAt (some language) := by
      funext site
      have hresolve : (Scope.of m depth).index.resolve site.callee (some language)
          = (Scope.of m' depth).index.resolve site.callee (some language) := h.resolve_eq _
      rw [Scope.calleesAt, Scope.calleesAt, hresolve]
    rw [Scope.callees, Scope.callees, languageOf?_eq (hf d hd),
      languageOf?_eq (h.defines (hf d hd)), hsites]

/-! ## All calls -/

lemma framesBelow_eq_of_agree (h : m.Agree m' language) {fs : List Frame}
    (hfs : ∀ f ∈ fs, f.StaysIn m language) (next : ℕ) :
    (Scope.of m depth).framesBelow next fs = (Scope.of m' depth).framesBelow next fs := by
  have hcalls : (Scope.of m depth).callsFrom fs = (Scope.of m' depth).callsFrom fs := by
    apply List.flatMap_congr
    intro f hf
    rw [calleesOf_eq_of_agree h (hfs f hf)]
  rw [Scope.framesBelow, Scope.framesBelow, hcalls]
  rfl

lemma framesFrom_eq_of_agree (hm : m.IsPlaced) (h : m.Agree m' language) (levels : ℕ) {next : ℕ}
    {fs : List Frame} (hfs : ∀ f ∈ fs, f.StaysIn m language) :
    (Scope.of m depth).framesFrom levels next fs
      = (Scope.of m' depth).framesFrom levels next fs := by
  induction levels generalizing next fs with
  | zero => rfl
  | succ levels ih =>
    have hbelow : ∀ f ∈ (Scope.of m depth).framesBelow next fs, f.StaysIn m language := by
      intro f hf
      obtain ⟨caller, hcaller, -, c, hc, hframe⟩ :=
        (Scope.of m depth).exists_caller_of_mem_framesBelow hf
      rw [hframe]
      exact staysIn_frameOf hm (hfs caller hcaller) hc _
    rw [Scope.framesFrom, Scope.framesFrom, ← framesBelow_eq_of_agree h hfs, ih hbelow]

/-- A definition has the same call stacks in models with the same files of its language. -/
theorem expand_eq_of_agree (hm : m.IsPlaced) (h : m.Agree m' language)
    (hroot : m.Defines language root) {maxNodes : ℕ} (hpos : 1 ≤ maxNodes) :
    (Scope.of m depth).expand maxNodes root = (Scope.of m' depth).expand maxNodes root := by
  have hframes : (Scope.of m depth).frames root = (Scope.of m' depth).frames root := by
    apply congrArg ((Scope.of m depth).rootFrame root :: ·)
    apply framesFrom_eq_of_agree hm h
    intro f hf d hd
    rw [List.mem_singleton.mp hf] at hd
    rwa [← Option.some.inj hd]
  rw [Scope.expand_eq _ hpos, Scope.expand_eq _ hpos, Scope.cutOf, Scope.cutOf, hframes]
  rfl

/-! ## Requests -/

/-- Where each definition says which file it is in, a call stack stays within the language of the
file that it starts in, and it is the same in every model with the same files of that language. -/
theorem resolveJob_within_language {σ : Type} {m : RepoModel} (hm : m.IsPlaced) (filePath : Text)
    (line maxDepth maxNodes : Number) (session : Session σ) {s : CallStack}
    (h : ((resolveJob m filePath line maxDepth maxNodes).run session).1 = .ok (.ok s)) :
    ∃ root language, m.enclosing? (Path.normalize filePath) line = some root
      ∧ m.Defines language root
      ∧ (s.entries.head?.bind CallStackEntry.definition) = some root
      ∧ (∀ e ∈ s.entries, ∀ d, e.definition = some d → m.Defines language d)
      ∧ ∀ (m' : RepoModel) (session' : Session σ), (m'.files.map Prod.fst).Nodup →
        (m'.filesOf language).Perm (m.filesOf language) →
        ((resolveJob m' filePath line maxDepth maxNodes).run session').1 = .ok (.ok s) := by
  obtain ⟨depth, nodes, rfl, rfl, hdepth, hpos, root, hroot, rfl⟩ := exists_of_resolveJob_eq_ok h
  obtain ⟨f, hf, hmem⟩ := RepoModel.exists_file_of_enclosing? hroot
  have hdefines : m.Defines f.language root :=
    hm.defines (RepoModel.mem_filesOf.mpr ⟨mem_of_lookup_eq_some hf, rfl⟩) hmem
  refine ⟨root, f.language, hroot, hdefines, ?_, ?_, ?_⟩
  · obtain ⟨room, rfl⟩ : ∃ room, nodes = room + 1 := ⟨nodes - 1, by omega⟩
    rw [Scope.expand_eq _ hpos, Scope.frames, List.take_succ_cons]
    exact definition_markCut _ _
  · intro e he d hd
    obtain ⟨g, hg, -, rfl⟩ := (Scope.mem_entries_expand hpos).mp he
    rw [definition_markCut] at hd
    exact staysIn_of_mem_frames hm hdefines hg d hd
  · intro m' session' hnodup hperm
    have hagree : m.Agree m' f.language := ⟨hm.nodup, hnodup, hperm.symm⟩
    rw [outcome_resolveJob m' filePath line hdepth hpos, resolveWithin,
      hagree.enclosing?_eq hroot hf rfl, expand_eq_of_agree hm hagree hdefines hpos]

/-- `pingPong` with a file of another language before it, in which the names that are called are
defined too. -/
def bilingual : RepoModel where
  files :=
    let function (name : String) (line : Number) : Definition :=
      { kind := .declared .function, name, qualifiedName := name, filePath := "A.go"
        startLine := line, endLine := line }
    ("A.go",
      { language := "go", lineCount := 2
        definitions := [function "pong" 1, function "log" 2] }) :: pingPong.files

/-- In both models the calls of `ping` are those of the file it is in. -/
theorem resolveJob_within_language_pingPong : ∃ s : CallStack,
    ((resolveJob pingPong "./a.py" 1 (3 : ℕ) (4 : ℕ)).run
      { host := default, world := () }).1 = .ok (.ok s)
    ∧ ((resolveJob bilingual "./a.py" 1 (3 : ℕ) (4 : ℕ)).run
      { host := default, world := () }).1 = .ok (.ok s)
    ∧ s.entries.map CallStackEntry.status = [.expanded, .expanded, .unresolved, .cyclic]
    ∧ ∀ e ∈ s.entries, ∀ d, e.definition = some d → pingPong.Defines "python" d := by
  have htest : (resolveWithin pingPong (Path.normalize "./a.py") 1 3 4).toOption.any fun s =>
      s.entries.map CallStackEntry.status == [.expanded, .expanded, .unresolved, .cyclic] := by
    decide +kernel
  obtain ⟨s, hs, hstatus⟩ := exists_of_any_resolveWithin (by decide) (by decide) htest
    { host := default, world := () }
  obtain ⟨root, language, -, ⟨f, hf, hlanguage, -⟩, -, hentries, hsame⟩ :=
    resolveJob_within_language ⟨by decide, by decide⟩ "./a.py" 1 (3 : ℕ) (4 : ℕ)
      { host := default, world := () } hs
  -- The only file of the model is in one language.
  have hpython : ∀ f ∈ pingPong.files, f.2.language = "python" := by decide
  obtain rfl : language = "python" :=
    hlanguage.symm.trans (hpython _ (mem_of_lookup_eq_some hf))
  have hfiles : bilingual.filesOf "python" = pingPong.filesOf "python" := by decide +kernel
  exact ⟨s, hs, hsame bilingual _ (by decide) (.of_eq hfiles), beq_iff_eq.mp hstatus, hentries⟩

end CallStack

end CallAtlas
