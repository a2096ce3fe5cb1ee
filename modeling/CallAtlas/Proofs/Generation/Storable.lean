import CallAtlas.Proofs.Generation.Model
import CallAtlas.Proofs.Model.Nesting
import CallAtlas.Proofs.Workspace.Store

/-!
# Generated models are stored and loaded

What an adapter says of a file is proper if it names everything that it declares and if its lines and
columns are whole numbers. The entry of such a file is storable whatever lines were declared, as
they are brought into the file. So a model of such files is loaded as it was saved, also one of a
generation that was cancelled.
-/

namespace CallAtlas

/-! ## Proper outlines -/

/-- A declaration with a name and whole lines. -/
structure Declaration.IsProper (d : Declaration) : Prop where
  name : d.name ≠ []
  startLine : Number.isInteger d.startLine = true
  endLine : Number.isInteger d.endLine = true

/-- An outline whose declarations have names and whole lines, and whose calls stand at places that
the number format holds. -/
structure Outline.IsProper (o : Outline) : Prop where
  declarations : ∀ d ∈ o.declarations, d.IsProper
  calls : ∀ c ∈ o.calls, c.IsStorable

/-! ## Numbers of lines -/

/-- The number of units that no text reaches. -/
def Text.maxLength : ℕ := 10 ^ 15

lemma Number.isWhole_of_lt {n : Number} (hinteger : n.isInteger = true) (hnonneg : 0 ≤ n)
    (hlt : n < Text.maxLength) : n.IsWhole := by
  obtain ⟨k, rfl⟩ := exists_eq_natCast hinteger hnonneg
  exact ⟨k, rfl, .inl (by exact_mod_cast hlt)⟩

namespace Assembly

/-! ## Definitions -/

/-- What becomes a definition is proper. -/
lemma isProper_of_mem_settle {lineCount : Number} (hcount : lineCount.isInteger = true)
    {ds : List Declaration} (hds : ∀ d ∈ ds, d.IsProper) {d : Declaration}
    (h : d ∈ settle lineCount ds) : d.IsProper := by
  obtain ⟨hstart, hend⟩ :=
    isInteger_of_mem_settle hcount (fun d hd => ⟨(hds d hd).startLine, (hds d hd).endLine⟩) h
  obtain ⟨e, he, rfl⟩ := exists_of_mem_settle h
  exact ⟨(hds e he).name, hstart, hend⟩

lemma qualify_ne_nil (className : Option Text) {name : Text} (h : name ≠ []) :
    Outline.qualify className name ≠ [] := by
  cases className with
  | none => exact h
  | some c => exact List.append_ne_nil_of_right_ne_nil _ (List.cons_ne_nil _ _)

/-- The calls of a definition are among those of the outline. -/
lemma mem_of_mem_callsOf {kept : List Declaration} {calls : List CallSite} {number : Option ℕ}
    {c : CallSite} (h : c ∈ callsOf kept calls number) : c ∈ calls := by
  rw [callsOf, orderCalls, List.mem_mergeSort] at h
  exact (List.mem_filter.mp h).1

section

variable {lineCount : Number} (hcount : lineCount.isInteger = true)
  (hlength : lineCount < Text.maxLength)

include hlength in
/-- The number of a line of a file is a number of the format. -/
lemma isWhole_of_le_lastLine {n : Number} (hinteger : n.isInteger = true) (hlow : 1 ≤ n)
    (hhigh : n ≤ lastLine lineCount) : n.IsWhole := by
  have hlast : lastLine lineCount < Text.maxLength := by
    rw [lastLine_eq_max]
    exact max_lt (by exact_mod_cast (by decide : 1 < Text.maxLength)) hlength
  exact Number.isWhole_of_lt hinteger (zero_le_one.trans hlow) (hhigh.trans_lt hlast)

include hcount hlength in
/-- The definitions of a proper outline are storable. -/
theorem isStorable_of_mem_definitions {filePath : Text}
    {declarations : List Declaration} (hdeclarations : ∀ d ∈ declarations, d.IsProper)
    {calls : List CallSite} (hcalls : ∀ c ∈ calls, c.IsStorable) {d : Definition}
    (h : d ∈ definitions filePath lineCount declarations calls) : d.IsStorable := by
  have hone : (1 : Number) ≤ lastLine lineCount := by
    rw [lastLine_eq_max]
    exact le_max_left 1 lineCount
  rw [definitions_eq, List.mem_append] at h
  rcases h with h | h
  · -- The definition of the module has a fixed name and all lines of the file.
    rw [moduleDefinitions] at h
    split at h
    · cases h
    · obtain rfl := List.mem_singleton.mp h
      exact {
        name := (by decide : moduleName ≠ [])
        qualifiedName := (by decide : moduleName ≠ [])
        startLine := isWhole_of_le_lastLine hlength rfl le_rfl hone
        one_le_startLine := le_rfl
        endLine := isWhole_of_le_lastLine hlength (isInteger_lastLine hcount) hone le_rfl
        one_le_endLine := hone
        calls := fun c hc => hcalls c (mem_of_mem_callsOf hc) }
  · -- A declaration was brought into the lines of the file.
    obtain ⟨⟨declaration, i⟩, hmem, rfl⟩ := List.mem_map.mp h
    have hsettled : declaration ∈ settle lineCount declarations :=
      List.fst_mem_of_mem_zipIdx hmem
    have hproper := isProper_of_mem_settle hcount hdeclarations hsettled
    obtain ⟨hfirst, horder, hend⟩ := within_settle hsettled
    rw [← lastLine_eq_max] at hend
    exact {
      name := hproper.name
      qualifiedName := qualify_ne_nil _ hproper.name
      startLine := isWhole_of_le_lastLine hlength hproper.startLine hfirst (horder.trans hend)
      one_le_startLine := hfirst
      endLine := isWhole_of_le_lastLine hlength hproper.endLine (hfirst.trans horder) hend
      one_le_endLine := hfirst.trans horder
      calls := fun c hc => hcalls c (mem_of_mem_callsOf hc) }

end

end Assembly

namespace Index

/-! ## Files -/

/-- The entry of a file with a proper outline is storable. -/
theorem isStorable_entryOf {adapter : Adapter} {path content : Text} {outline : Outline}
    (hlanguage : adapter.languageId ≠ []) (hproper : outline.IsProper)
    (hlength : content.length < Text.maxLength) :
    (entryOf adapter path content outline).IsStorable := by
  have hlines : countLines content < Text.maxLength :=
    Nat.lt_of_le_of_lt (countLines_le content) hlength
  have hlt : (((countLines content : ℕ) : Int) : Rat) < (Text.maxLength : ℕ) := by
    exact_mod_cast hlines
  exact {
    language := hlanguage
    lineCount := ⟨countLines content, rfl, .inl hlines⟩
    definitions := fun d hd =>
      Assembly.isStorable_of_mem_definitions rfl hlt hproper.declarations hproper.calls hd }

/-- What the adapter of a file says of it is proper, if there is an adapter: it names its language,
and the outline of the file is proper. -/
def IsProperIn (v : RegistryView) (file : SourceFile) : Prop :=
  ∀ adapter, v.forFile file (Path.normalize file.path) = .adapter adapter →
    adapter.languageId ≠ []
      ∧ ∀ outline, adapter.outline file.content (Path.normalize file.path) = .ok outline →
          outline.IsProper

/-- Adapters that name their languages and give proper outlines say proper things of every file. -/
lemma isProperIn_of_forall {v : RegistryView}
    (h : ∀ e ∈ v, ∀ adapter, e.2.2 = .adapter adapter → adapter.languageId ≠ []
      ∧ ∀ content path outline, adapter.outline content path = .ok outline → outline.IsProper)
    (file : SourceFile) : IsProperIn v file := by
  intro adapter hadapter
  obtain ⟨e, he, hoffers⟩ := v.exists_mem_of_forFile hadapter
  obtain ⟨hlanguage, houtline⟩ := h e he adapter hoffers
  exact ⟨hlanguage, houtline _ _⟩

/-- A file of which proper things are said is storable if it is in the model. -/
lemma isStorable_of_outcomeIn {v : RegistryView} {maxFileBytes : Number} {file : SourceFile}
    (hproper : IsProperIn v file) (hlength : file.content.length < Text.maxLength) {path : Text}
    {m : FileModel} (h : outcomeIn v maxFileBytes file = .ok (.indexed path m)) :
    m.IsStorable := by
  obtain ⟨rfl, adapter, outline, hadapter, houtline, rfl⟩ :=
    exists_outline_of_outcomeIn_eq_indexed h
  obtain ⟨hlanguage, houtlines⟩ := hproper adapter hadapter
  exact isStorable_entryOf hlanguage (houtlines outline houtline) hlength

end Index

namespace Generation

/-! ## Models -/

/-- What the adapters of a generation are: those of the registry, or the built-in ones if workers
index the files. -/
def viewOf (options : GenerateOptions) (registry : Registry) : RegistryView :=
  if options.workers.isSome then Registry.initial.view else registry.view

/-- What a file in the model was made of. -/
lemma outcomeIn_of_outcome {options : GenerateOptions} {registry : Registry}
    {files : List SourceFile} {f : QueuedFile} (hf : f ∈ queueOf files) {path : Text}
    {m : FileModel} (h : (indexingOf options registry files).outcome options.maxFileBytes f
      = .ok (.indexed path m)) :
    Index.outcomeIn (viewOf options registry) options.maxFileBytes f.file
      = .ok (.indexed path m) := by
  have hqueue : (queueOf files).isEmpty = false := by
    rw [List.isEmpty_eq_false_iff]
    exact List.ne_nil_of_mem hf
  have hfilter : (options.workers.filter fun _ => !(queueOf files).isEmpty) = options.workers := by
    rw [hqueue]
    cases options.workers <;> rfl
  unfold indexingOf indexingIn at h
  unfold viewOf
  rw [hfilter] at h
  split at h
  · next hworkers =>
    rw [if_pos hworkers, ← (Index.indexFile_spec _ _ _).2]
    exact Runner.resultOf_index_eq_ok_iff.mp h
  · next hworkers =>
    rw [if_neg hworkers, ← (Index.indexFile_spec _ _ _).2]
    exact h

variable {options : GenerateOptions} {files : List SourceFile}

/-- A file in the model was made of one of the files that were given. -/
lemma exists_outcomeIn_of_mem_files {σ : Type} {s : Session σ}
    (hworkers : ∀ script, options.workers = some script → script = WorkerScript.indexing)
    {g : Generated} (h : ((generate options files).run s).1 = .ok g) {path : Text} {m : FileModel}
    (hm : (path, m) ∈ g.model.files) :
    ∃ file ∈ files, Index.outcomeIn (viewOf options s.registry) options.maxFileBytes file
      = .ok (.indexed path m) := by
  rw [run_generate options files s hworkers] at h
  obtain ⟨taken, done, hb, hover⟩ := exists_books (indexingOf options s.registry files) options
    (concurrencyOf options s.host files) files
  rw [outcomeOf] at h
  split at h
  · cases h
  · next hfault =>
    obtain rfl := Except.ok.inj h
    have hfree : ∀ f ∈ done, Run.faultIn
        ((indexingOf options s.registry files).outcome options.maxFileBytes f) = none := by
      have hlast := hb.fault
      rw [hfault, eq_comm, List.getLast?_eq_none_iff, List.filterMap_eq_nil_iff] at hlast
      exact hlast
    have haccounts := accounts_of_books hb hover hfree (by
      intro f hf path m hout
      obtain ⟨file, -, rfl⟩ := List.mem_map.mp hf
      exact (indexingOf options s.registry files).path_of_outcome hout)
    obtain ⟨f, hf, -, hout⟩ := (haccounts.mem_files_iff path m).mp hm
    have hqueue := List.mem_of_mem_take hf
    have hindexed := outcomeIn_of_outcome hqueue hout
    obtain ⟨file, hfile, rfl⟩ := List.mem_map.mp hqueue
    exact ⟨file, (freshBy_append_staleBy_perm normalPath [] files).mem_iff.mp
      (List.mem_append_left _ hfile), hindexed⟩

/-- A file in the model is made of what the adapter of a given file says of its text. -/
lemma exists_outline_of_mem_files {σ : Type} {s : Session σ}
    (hworkers : ∀ script, options.workers = some script → script = WorkerScript.indexing)
    {g : Generated} (h : ((generate options files).run s).1 = .ok g) {f : Text × FileModel}
    (hf : f ∈ g.model.files) :
    ∃ file ∈ files, f.1 = Path.normalize file.path ∧ ∃ adapter outline,
      (viewOf options s.registry).forFile file f.1 = .adapter adapter
        ∧ adapter.outline file.content f.1 = .ok outline
        ∧ f.2 = Index.entryOf adapter f.1 file.content outline := by
  obtain ⟨file, hfile, hindexed⟩ := exists_outcomeIn_of_mem_files hworkers h hf
  exact ⟨file, hfile, Index.exists_outline_of_outcomeIn_eq_indexed hindexed⟩

/-- The files of a model that was generated are in order. -/
lemma inOrder_of_generate {σ : Type} {s : Session σ}
    (hworkers : ∀ script, options.workers = some script → script = WorkerScript.indexing)
    {g : Generated} (h : ((generate options files).run s).1 = .ok g) :
    Json.InOrder g.model.files := by
  rw [run_generate options files s hworkers, outcomeOf] at h
  split at h
  · cases h
  · obtain rfl := Except.ok.inj h
    exact Json.inOrder_orderMembers _

/-- The model of files of which proper things are said is storable. -/
theorem isStorable_of_generate {σ : Type} {s : Session σ}
    (hworkers : ∀ script, options.workers = some script → script = WorkerScript.indexing)
    (hproper : ∀ file ∈ files, Index.IsProperIn (viewOf options s.registry) file)
    (hlength : ∀ file ∈ files, file.content.length < Text.maxLength) {g : Generated}
    (h : ((generate options files).run s).1 = .ok g)
    (hproto : Text.ofString "__proto__" ∉ g.model.files.map Prod.fst) : g.model.IsStorable := by
  refine ⟨inOrder_of_generate hworkers h, hproto, ?_⟩
  rintro ⟨path, m⟩ hm
  obtain ⟨file, hfile, hindexed⟩ := exists_outcomeIn_of_mem_files hworkers h hm
  exact Index.isStorable_of_outcomeIn (hproper file hfile) (hlength file hfile) hindexed

end Generation

namespace ModelFile

open Generation

/-! ## Saving and loading -/

/-- A generated model is loaded as it was saved, with its metadata: the files in the same order, and
in each of them the definitions, the calls and the imports. -/
theorem load_saved_generated {σ : Type} (options : GenerateOptions) (files : List SourceFile)
    (s : Session σ)
    (hworkers : ∀ script, options.workers = some script → script = WorkerScript.indexing)
    (hproper : ∀ file ∈ files, Index.IsProperIn (viewOf options s.registry) file)
    (hlength : ∀ file ∈ files, file.content.length < Text.maxLength) {g : Generated}
    (h : ((generate options files).run s).1 = .ok g)
    (hproto : Text.ofString "__proto__" ∉ g.model.files.map Prod.fst) (metadata : RepoMetadata)
    (path : Text) {s' t : Session Workspace}
    (hsave : (store.save path g.model metadata).run s' = (.ok (), t)) :
    ((store.load path).run t).1 = .ok (some ⟨metadata, g.model⟩) := by
  have hstorable := isStorable_of_generate hworkers hproper hlength h hproto
  exact ((load_reads path).outcome t).trans (loaded_of_saved hstorable hsave)

/-- A registry with an adapter for files without an extension. -/
def registryOf (adapter : Adapter) : Registry where
  entries := [([], { languageId := adapter.languageId, factory := .ok adapter, builtin := false })]

/-- An empty directory. -/
def emptyWorkspace : Workspace where
  directory := "/r"
  files := ⟨[("/r", .directory)]⟩

/-- A session in an empty directory. -/
def emptySession (registry : Registry) : Session Workspace where
  host := default
  world := emptyWorkspace
  registry

/-- A model can be saved in a file of an empty directory. -/
lemma isWritable_emptyWorkspace :
    IsWritable emptyWorkspace "m" (temporary "m" (default : Host).process) where
  directory := by decide
  zero_notMem := by decide
  blocked?_eq := by decide
  noSlash := by decide
  noDirectory := by decide

/-- An adapter that takes a text for the name of a function on lines that no text has, and for the
name of a call. -/
def namingAdapter : Adapter where
  languageId := "plain"
  outline := fun t _ => .ok
    { declarations := [⟨.function, t, some t, 7, -2⟩], calls := [⟨t, t, 3, 0⟩], imports := [t] }

/-- A file whose path is a number and whose text holds a quote, a control character and surrogates
that stand alone. -/
def oddFile : SourceFile := ⟨"10", [0xDC00, 0x22, 0x01, 0xD800], none⟩

/-- The metadata of a model whose repository has a name with a surrogate that stands alone. -/
def oddMetadata : RepoMetadata where
  repository := [0xD800, 0x22]
  ref := "HEAD"
  generatedAt := []
  toolVersion := []

lemma exists_of_any_toOption {o : Outcome Generated} {p : Generated → Bool}
    (h : o.toOption.any p = true) : ∃ g, o = .ok g ∧ p g = true := by
  cases o with
  | error thrown => cases h
  | ok g => exact ⟨g, rfl, h⟩

/-- A text with surrogates that stand alone, under a path that is a number, is loaded as it was
saved. -/
theorem load_saved_generated_oddFile : ∃ g t,
    ((generate {} [oddFile]).run (emptySession (registryOf namingAdapter))).1 = .ok g
      ∧ g.model.files.map Prod.fst = [oddFile.path] ∧ g.model.countDefinitions = 2
      ∧ (store.save "m" g.model oddMetadata).run (emptySession (registryOf namingAdapter))
          = (.ok (), t)
      ∧ ((store.load "m").run t).1 = .ok (some ⟨oddMetadata, g.model⟩) := by
  have hmodel : ((generate {} [oddFile]).run
      (emptySession (registryOf namingAdapter))).1.toOption.any (fun g =>
        g.model.files.map Prod.fst = [oddFile.path] && g.model.countDefinitions = 2) = true := by
    decide +kernel
  obtain ⟨g, hg, hmodel⟩ := exists_of_any_toOption hmodel
  rw [Bool.and_eq_true, decide_eq_true_eq, decide_eq_true_eq] at hmodel
  obtain ⟨hpath, hcount⟩ := hmodel
  obtain ⟨t, hsave⟩ := exists_save (s := emptySession (registryOf namingAdapter))
    isWritable_emptyWorkspace g.model oddMetadata
  refine ⟨g, t, hg, hpath, hcount, hsave, load_saved_generated {} [oddFile] _ (by simp) ?_
    (by decide) hg (by rw [hpath]; decide) oddMetadata "m" hsave⟩
  intro file hfile adapter hadapter
  obtain rfl := List.mem_singleton.mp hfile
  obtain rfl : namingAdapter = adapter := Offer.adapter.inj hadapter
  refine ⟨by decide, ?_⟩
  intro outline houtline
  obtain rfl := Except.ok.inj houtline
  constructor
  · intro d hd
    obtain rfl := List.mem_singleton.mp hd
    exact ⟨by decide, rfl, rfl⟩
  · intro c hc
    obtain rfl := List.mem_singleton.mp hc
    exact ⟨⟨3, rfl, .inl (by decide)⟩, (by decide : (1 : Rat) ≤ 3), ⟨0, rfl, .inl (by decide)⟩⟩

/-- An outline with a function on a line and a half. -/
def halvingOutline : Outline where
  declarations := [⟨.function, "f", none, 3 / 2, 2⟩]

/-- An adapter that declares a function on half a line. -/
def halvingAdapter : Adapter where
  languageId := "plain"
  outline := fun _ _ => .ok halvingOutline

/-- An adapter of a language without a name. -/
def namelessAdapter : Adapter where
  languageId := []
  outline := fun _ _ => .ok {}

/-- The file that these adapters see. -/
def twoLines : List SourceFile := [⟨"a", "f\ng\n", none⟩]

/-- Is the document of a generated model refused? -/
def refuses (adapter : Adapter) : Bool :=
  ((generate {} twoLines).run (emptySession (registryOf adapter))).1.toOption.any fun g =>
    !(decode (RepoModel.documentText (g.model.toDocument oddMetadata))).isOk

lemma of_refuses {adapter : Adapter} (h : refuses adapter = true) : ∃ g t thrown,
    ((generate {} twoLines).run (emptySession (registryOf adapter))).1 = .ok g
      ∧ (store.save "m" g.model oddMetadata).run (emptySession (registryOf adapter)) = (.ok (), t)
      ∧ ((store.load "m").run t).1 = .error thrown := by
  obtain ⟨g, hg, hrefused⟩ := exists_of_any_toOption h
  obtain ⟨t, hsave⟩ := exists_save (s := emptySession (registryOf adapter))
    isWritable_emptyWorkspace g.model oddMetadata
  cases hout : decode (RepoModel.documentText (g.model.toDocument oddMetadata)) with
  | ok m =>
    rw [hout] at hrefused
    cases hrefused
  | error thrown =>
    refine ⟨g, t, thrown, hg, hsave, ((load_reads "m").outcome t).trans ?_⟩
    rw [loaded_eq_decode hsave, hout]
    rfl

/-- A generated model with half a line, or with a language without a name, is saved but not loaded,
though whatever its adapter declares has a name and there are no calls. -/
theorem load_refuses_saved_generated :
    (∀ d ∈ halvingOutline.declarations, d.name ≠ []) ∧ halvingOutline.calls = []
      ∧ (∃ g t thrown,
        ((generate {} twoLines).run (emptySession (registryOf halvingAdapter))).1 = .ok g
          ∧ (store.save "m" g.model oddMetadata).run (emptySession (registryOf halvingAdapter))
              = (.ok (), t)
          ∧ ((store.load "m").run t).1 = .error thrown)
      ∧ ∃ g t thrown,
        ((generate {} twoLines).run (emptySession (registryOf namelessAdapter))).1 = .ok g
          ∧ (store.save "m" g.model oddMetadata).run (emptySession (registryOf namelessAdapter))
              = (.ok (), t)
          ∧ ((store.load "m").run t).1 = .error thrown :=
  ⟨by decide, rfl, of_refuses (by decide +kernel), of_refuses (by decide +kernel)⟩

end ModelFile

end CallAtlas
