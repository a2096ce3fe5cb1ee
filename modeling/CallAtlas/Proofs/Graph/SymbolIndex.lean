import CallAtlas.Graph.SymbolIndex
import CallAtlas.Proofs.Keys
import CallAtlas.Proofs.Text.Order

/-!
# What the symbol index holds

The buckets of the index together hold the definitions of the model once each. Resolving a name
gives the definitions that carry it, in the order of `RepoModel.symbols`: file by file, the files by
their paths. The names of the index share the definitions out among them, and in which order the
files of the model are listed does not matter (`isIndexOf_build`).
-/

namespace CallAtlas

namespace SymbolIndex

/-- The bucket of a name; empty where there is none. -/
def bucket (buckets : List (Text × List IndexedDefinition)) (name : Text) :
    List IndexedDefinition :=
  (buckets.lookup name).getD []

lemma bucket_cons (b : Text × List IndexedDefinition)
    (buckets : List (Text × List IndexedDefinition)) (name : Text) :
    bucket (b :: buckets) name = if name = b.1 then b.2 else bucket buckets name := by
  rw [bucket, List.lookup_cons]
  by_cases h : name = b.1
  · simp [h]
  · simp [bucket, h, beq_eq_false_iff_ne.mpr h]

/-- A definition is put at the end of the bucket of its name, and no other bucket changes. -/
lemma bucket_insert (e : IndexedDefinition) (buckets : List (Text × List IndexedDefinition))
    (name : Text) :
    bucket (insert e buckets) name
      = bucket buckets name ++ if e.definition.name = name then [e] else [] := by
  induction buckets with
  | nil =>
    rw [insert, bucket_cons]
    by_cases h : name = e.definition.name
    · simp [bucket, h]
    · simp [bucket, h, Ne.symm h]
  | cons b buckets ih =>
    rw [insert]
    split
    · next hb =>
      rw [bucket_cons, bucket_cons]
      by_cases h : name = b.1
      · simp [h, hb]
      · simp [h, ← hb, Ne.symm h]
    · next hb =>
      rw [bucket_cons, bucket_cons, ih]
      by_cases h : name = b.1
      · simp [h, Ne.symm hb]
      · simp [h]

lemma bucket_foldl_insert (es : List IndexedDefinition)
    (buckets : List (Text × List IndexedDefinition)) (name : Text) :
    bucket (es.foldl (fun bs e => insert e bs) buckets) name
      = bucket buckets name ++ es.filter fun e => e.definition.name = name := by
  induction es generalizing buckets with
  | nil => simp
  | cons e es ih =>
    rw [List.foldl_cons, ih, bucket_insert, List.filter_cons, List.append_assoc]
    by_cases h : e.definition.name = name <;> simp [h]

/-- Does a definition of the index belong to a language, if one is given? -/
def isOf (language : Option Text) (e : IndexedDefinition) : Bool :=
  match language with
  | none => true
  | some l => e.language = l

lemma isOf_iff {language : Option Text} {e : IndexedDefinition} :
    isOf language e = true ↔ ∀ l ∈ language, e.language = l := by
  cases language <;> simp [isOf]

/-- A name is resolved to the definitions that carry it, in the order of the symbols. -/
theorem resolve_build (m : RepoModel) (name : Text) (language : Option Text) :
    (build m).resolve name language
      = (m.symbols.filter fun e => e.definition.name = name && isOf language e).map
          IndexedDefinition.definition := by
  have hbucket : ((build m).buckets.lookup name).getD []
      = m.symbols.filter fun e => e.definition.name = name := bucket_foldl_insert m.symbols [] name
  unfold resolve
  rw [hbucket]
  cases language with
  | none => simp [isOf]
  | some l =>
    simp only [isOf, List.filter_filter]
    congr 1
    apply List.filter_congr
    intro e _
    rw [Bool.and_comm]

/-- A name is resolved to the definitions that carry it, file by file, within a language to those in
the files of that language. -/
theorem resolve_build_eq_flatMap (m : RepoModel) (name : Text) (language : Option Text) :
    (build m).resolve name language
      = (m.filesByPath.filter fun f => ∀ l ∈ language, f.2.language = l).flatMap fun f =>
          f.2.definitions.filter fun d => !d.isModule && d.name = name := by
  rw [resolve_build, RepoModel.symbols]
  induction m.filesByPath with
  | nil => rfl
  | cons f files ih =>
    rw [List.flatMap_cons, List.filter_append, List.map_append, ih, List.filter_map, List.map_map,
      List.filter_filter]
    by_cases hf : ∀ l ∈ language, f.2.language = l
    · have hof : ∀ d, isOf language ⟨f.2.language, d⟩ = true := fun _ => isOf_iff.mpr hf
      rw [List.filter_cons_of_pos (by simpa using hf), List.flatMap_cons]
      congr 1
      simp [Function.comp_def, hof, Bool.and_comm]
    · have hof : ∀ d, isOf language ⟨f.2.language, d⟩ = false := fun _ =>
        Bool.eq_false_iff.mpr (mt isOf_iff.mp hf)
      rw [List.filter_cons_of_neg (by simpa using hf)]
      simp [Function.comp_def, hof]

/-- Within a language a name is resolved to the definitions that carry it in the files of that
language, file by file. -/
theorem resolve_build_of_language (m : RepoModel) (name language : Text) :
    (build m).resolve name (some language)
      = (m.filesByPath.filter fun f => f.2.language = language).flatMap fun f =>
          f.2.definitions.filter fun d => !d.isModule && d.name = name := by
  simp [resolve_build_eq_flatMap]

/-! ## The names of the buckets -/

/-- A definition whose name has no bucket gets one behind the others. -/
lemma map_fst_insert (e : IndexedDefinition) (buckets : List (Text × List IndexedDefinition)) :
    (insert e buckets).map Prod.fst
      = if e.definition.name ∈ buckets.map Prod.fst then buckets.map Prod.fst
        else buckets.map Prod.fst ++ [e.definition.name] := by
  induction buckets with
  | nil => rfl
  | cons b buckets ih =>
    rw [insert]
    by_cases hb : b.1 = e.definition.name
    · simp [hb]
    · rw [if_neg hb, List.map_cons, List.map_cons, ih]
      by_cases hmem : e.definition.name ∈ buckets.map Prod.fst
      · rw [if_pos hmem, if_pos (List.mem_cons_of_mem b.1 hmem)]
      · rw [if_neg hmem, if_neg (by simpa [Ne.symm hb] using hmem), List.cons_append]

/-- The buckets have the names that occur, and no two of them have the same one. -/
lemma names_foldl_insert (es : List IndexedDefinition)
    {buckets : List (Text × List IndexedDefinition)} (h : (buckets.map Prod.fst).Nodup) :
    ((es.foldl (fun bs e => insert e bs) buckets).map Prod.fst).Nodup
      ∧ ∀ name, name ∈ (es.foldl (fun bs e => insert e bs) buckets).map Prod.fst
        ↔ name ∈ buckets.map Prod.fst ∨ ∃ e ∈ es, e.definition.name = name := by
  induction es generalizing buckets with
  | nil => simpa using h
  | cons e es ih =>
    have hkeys := map_fst_insert e buckets
    have hnodup : ((insert e buckets).map Prod.fst).Nodup := by
      rw [hkeys]
      split
      · exact h
      · next hnew => exact List.nodup_append_comm.mp (List.nodup_cons.mpr ⟨hnew, h⟩)
    have hmem : ∀ name, name ∈ (insert e buckets).map Prod.fst
        ↔ name ∈ buckets.map Prod.fst ∨ e.definition.name = name := by
      intro name
      rw [hkeys]
      split
      · next hold => exact ⟨.inl, fun hname => hname.elim id fun heq => heq ▸ hold⟩
      · rw [List.mem_append, List.mem_singleton, eq_comm (a := name)]
    obtain ⟨hnodup', hmem'⟩ := ih hnodup
    refine ⟨hnodup', fun name => ?_⟩
    rw [List.foldl_cons, hmem' name, hmem name]
    simp [or_assoc]

lemma mem_names_build {m : RepoModel} {name : Text} :
    name ∈ (build m).names ↔ ∃ e ∈ m.symbols, e.definition.name = name := by
  have hnone : (List.map Prod.fst ([] : List (Text × List IndexedDefinition))).Nodup := .nil
  have hnames := (names_foldl_insert m.symbols hnone).2 name
  rw [names, (Text.sort_perm _).mem_iff, build, hnames]
  simp

/-- The names come in order, and each of them once. -/
theorem pairwise_names_build (m : RepoModel) : (build m).names.Pairwise (· < ·) := by
  have hnone : (List.map Prod.fst ([] : List (Text × List IndexedDefinition))).Nodup := .nil
  refine @Text.pairwise_lt_of_nodup Text id _ (Text.pairwise_sort _) ?_
  rw [List.map_id, names, (Text.sort_perm _).nodup_iff]
  exact (names_foldl_insert m.symbols hnone).1

lemma length_insert (e : IndexedDefinition) (buckets : List (Text × List IndexedDefinition)) :
    (insert e buckets).foldr (fun b n => b.2.length + n) 0
      = buckets.foldr (fun b n => b.2.length + n) 0 + 1 := by
  induction buckets with
  | nil => rfl
  | cons b buckets ih =>
    obtain ⟨name, bucket⟩ := b
    rw [insert]
    split
    · simp only [List.foldr_cons, List.length_append, List.length_singleton]
      omega
    · rw [List.foldr_cons, List.foldr_cons, ih]
      omega

/-- The index holds as many definitions as the model has symbols. -/
theorem size_build (m : RepoModel) : (build m).size = m.symbols.length := by
  have hfold : ∀ (es : List IndexedDefinition) (buckets : List (Text × List IndexedDefinition)),
      (es.foldl (fun bs e => insert e bs) buckets).foldr (fun b n => b.2.length + n) 0
        = buckets.foldr (fun b n => b.2.length + n) 0 + es.length := by
    intro es
    induction es with
    | nil => exact fun _ => rfl
    | cons e es ih =>
      intro buckets
      rw [List.foldl_cons, ih, length_insert, List.length_cons]
      omega
  rw [size, build, hfold, List.foldr_nil, Nat.zero_add]

end SymbolIndex

/-! ## All definitions -/

/-- The definitions that do not stand for a module. -/
def RepoModel.declared (m : RepoModel) : List Definition :=
  m.definitions.filter fun d => !d.isModule

/-- The symbols of a model are its definitions but for those that stand for modules. -/
lemma RepoModel.map_definition_symbols_perm (m : RepoModel) :
    (m.symbols.map IndexedDefinition.definition).Perm m.declared := by
  have hsymbols : m.symbols.map IndexedDefinition.definition
      = m.filesByPath.flatMap fun f => f.2.definitions.filter fun d => !d.isModule := by
    rw [symbols, List.map_flatMap]
    simp only [List.map_map, Function.comp_def, List.map_id']
  rw [hsymbols, declared, definitions, List.filter_flatMap]
  exact (List.mergeSort_perm m.files _).flatMap_right _

/-- The symbols of a model are definitions of it. -/
lemma RepoModel.definition_mem_of_mem_symbols {m : RepoModel} {e : IndexedDefinition}
    (he : e ∈ m.symbols) : e.definition ∈ m.definitions := by
  rw [symbols, List.mem_flatMap] at he
  obtain ⟨f, hf, he⟩ := he
  rw [List.mem_map] at he
  obtain ⟨d, hd, rfl⟩ := he
  rw [filesByPath, List.mem_mergeSort] at hf
  exact List.mem_flatMap.mpr ⟨f, hf, (List.mem_filter.mp hd).1⟩

/-- What a name is resolved to is in the model. -/
lemma SymbolIndex.mem_definitions_of_mem_resolve {m : RepoModel} {name : Text}
    {language : Option Text} {d : Definition} (hd : d ∈ (build m).resolve name language) :
    d ∈ m.definitions := by
  rw [resolve_build, List.mem_map] at hd
  obtain ⟨e, he, rfl⟩ := hd
  exact RepoModel.definition_mem_of_mem_symbols (List.mem_filter.mp he).1

namespace SymbolIndex

/-- The names share the definitions out among them. -/
lemma flatMap_resolve_names_perm (m : RepoModel) :
    ((build m).names.flatMap fun name => (build m).resolve name).Perm m.declared := by
  have hnodup : (build m).names.Nodup := by
    apply (pairwise_names_build m).imp
    rintro a b hlt rfl
    exact List.lt_irrefl a hlt
  have hshared : ((build m).names.flatMap fun name =>
      m.symbols.filter fun e => e.definition.name == name).Perm m.symbols :=
    perm_flatMap_filter hnodup fun e he => mem_names_build.mpr ⟨e, he, rfl⟩
  have hresolve : ∀ name, (build m).resolve name
      = (m.symbols.filter fun e => e.definition.name == name).map IndexedDefinition.definition := by
    intro name
    rw [resolve_build]
    congr 1
    apply List.filter_congr
    intro e _
    rw [isOf, Bool.and_true, Bool.eq_iff_iff, decide_eq_true_eq, beq_iff_eq]
  simp only [hresolve, ← List.map_flatMap]
  exact (hshared.map _).trans m.map_definition_symbols_perm

/-- The index of a model with the same files is the same. -/
lemma build_eq_of_perm {m m' : RepoModel} (hpaths : (m.files.map Prod.fst).Nodup)
    (h : m'.files.Perm m.files) : build m' = build m := by
  have hfiles : m'.filesByPath = m.filesByPath := by
    rw [RepoModel.filesByPath, RepoModel.filesByPath]
    exact (Text.mergeSort_key_eq_of_perm Prod.fst hpaths h.symm).symm
  rw [build, build, RepoModel.symbols, RepoModel.symbols, hfiles]

/-- What an index answers for a model. -/
structure IsIndexOf (m : RepoModel) (index : SymbolIndex) : Prop where
  /-- A name is resolved to the definitions that carry it, in the files of a language if one is
  given: by the paths of the files, and in the order of each file. -/
  resolve_eq : ∃ files : List (Text × FileModel), files.Perm m.files
    ∧ (files.Pairwise fun a b => a.1 < b.1)
    ∧ ∀ name language, index.resolve name language
      = (files.filter fun f => ∀ l ∈ language, f.2.language = l).flatMap fun f =>
          f.2.definitions.filter fun d => !d.isModule && d.name = name
  /-- The names come in strict order, so none of them is there twice. -/
  names_pairwise : index.names.Pairwise (· < ·)
  mem_names_iff : ∀ name, name ∈ index.names ↔ ∃ d ∈ m.declared, d.name = name
  size_eq : index.size = m.declared.length
  /-- The names share the definitions out among them. -/
  flatMap_resolve_perm : (index.names.flatMap fun name => index.resolve name).Perm m.declared

/-- The index of a model, whose paths are all different, answers for its definitions, and it does
not depend on the order in which the files are listed. -/
theorem isIndexOf_build {m : RepoModel} (hpaths : (m.files.map Prod.fst).Nodup) :
    IsIndexOf m (build m) ∧ ∀ m' : RepoModel, m'.files.Perm m.files → build m' = build m := by
  have hfiles : m.filesByPath.Perm m.files := List.mergeSort_perm m.files _
  refine ⟨?_, fun m' h => build_eq_of_perm hpaths h⟩
  exact
    { resolve_eq := by
        refine ⟨m.filesByPath, hfiles, ?_, resolve_build_eq_flatMap m⟩
        apply Text.pairwise_lt_of_nodup (Text.pairwise_mergeSort_key Prod.fst m.files)
        exact (hfiles.map Prod.fst).nodup_iff.mpr hpaths
      names_pairwise := pairwise_names_build m
      mem_names_iff := by
        intro name
        rw [mem_names_build]
        simp [← m.map_definition_symbols_perm.mem_iff]
      size_eq := by
        rw [size_build, ← m.map_definition_symbols_perm.length_eq, List.length_map]
      flatMap_resolve_perm := flatMap_resolve_names_perm m }

/-- Two files with functions of one name. In code units the path with a surrogate pair comes first,
in code points it would come last. -/
def namesakes : RepoModel where
  files :=
    let function (name path : String) : Definition :=
      { kind := .declared .function, name, qualifiedName := name, filePath := path
        startLine := 1, endLine := 2 }
    let module (path : String) : Definition :=
      { function "<module>" path with kind := .module }
    [("～.py",
      { language := "python", lineCount := 2
        definitions := [function "run" "～.py"] }),
      ("🚀.ts",
      { language := "typescript", lineCount := 2
        definitions := [module "🚀.ts", function "run" "🚀.ts", function "stop" "🚀.ts"] })]

/-- The index of the two files is the same in the other order. -/
theorem isIndexOf_build_namesakes : (namesakes.files.map Prod.fst).Nodup
    ∧ IsIndexOf namesakes (build namesakes) ∧ (build namesakes).size = 3
    ∧ build ⟨namesakes.files.reverse⟩ = build namesakes := by
  have hpaths : (namesakes.files.map Prod.fst).Nodup := by decide
  obtain ⟨hindex, hsame⟩ := isIndexOf_build hpaths
  have hcount : namesakes.declared.length = 3 := by decide
  exact ⟨hpaths, hindex, hindex.size_eq.trans hcount, hsame _ (List.reverse_perm _)⟩

end SymbolIndex

end CallAtlas
