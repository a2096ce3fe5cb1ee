import CallAtlas.Proofs.Generation.Storable
import CallAtlas.Proofs.Graph.Language
import CallAtlas.Proofs.Graph.Paths
import CallAtlas.Proofs.Graph.Truncation
import CallAtlas.Proofs.Number.Whole

/-!
# What the keys of definitions tell apart

A key is put together from a path, a name and two lines. Names without colons and lines that are
decimals from one on can be read off its end, so definitions with one key are in one file and have
one qualified name and one range. The assembly of a file allows this to definitions of different
kinds. In a model without such twins the keys are different, and a call stack follows exactly the
definitions that it should.
-/

namespace CallAtlas

/-! ## Keys -/

/-- What stands behind the last separator of a text is known. -/
lemma append_cons_inj {u : CodeUnit} {a a' b b' : Text} (hb : u ∉ b) (hb' : u ∉ b')
    (h : a ++ u :: b = a' ++ u :: b') : a = a' ∧ b = b' := by
  induction a generalizing a' with
  | nil =>
    cases a' with
    | nil => exact ⟨rfl, (List.cons.inj h).2⟩
    | cons c a' =>
      obtain ⟨-, rfl⟩ := List.cons.inj h
      exact absurd (List.mem_append_right a' List.mem_cons_self) hb
  | cons c a ih =>
    cases a' with
    | nil =>
      obtain ⟨-, rfl⟩ := List.cons.inj h
      exact absurd (List.mem_append_right a List.mem_cons_self) hb'
    | cons c' a' =>
      obtain ⟨hc, hrest⟩ := List.cons.inj h
      obtain ⟨ha, hb⟩ := ih hrest
      exact ⟨by rw [hc, ha], hb⟩

/-- A line that a text of its own stands for. -/
structure Number.IsLine (n : Number) : Prop where
  one_le : 1 ≤ n
  isDecimal : n.IsDecimal

/-- The text of a line holds no colon and no hyphen. -/
lemma Number.IsLine.notMem_toText {n : Number} (h : n.IsLine) :
    Text.unit ':' ∉ n.toText ∧ Text.unit '-' ∉ n.toText := by
  constructor <;> intro hmem <;>
    rcases Number.mem_toText h.one_le h.isDecimal hmem with hdigit | hother
  · exact absurd hdigit (by decide)
  · exact absurd hother (by decide)
  · exact absurd hdigit (by decide)
  · exact absurd hother (by decide)

namespace Definition

/-- A definition with a key that can be taken apart, and with calls of names without colons. -/
structure IsPlain (d : Definition) : Prop where
  qualifiedName : Text.unit ':' ∉ d.qualifiedName
  startLine : d.startLine.IsLine
  endLine : d.endLine.IsLine
  calls : ∀ c ∈ d.calls, Text.unit ':' ∉ c.callee

/-- Definitions that differ in their kind, but not in what their keys are made of. -/
structure Twins (d e : Definition) : Prop where
  filePath : d.filePath = e.filePath
  qualifiedName : d.qualifiedName = e.qualifiedName
  range : d.range = e.range
  kind : d.kind ≠ e.kind

/-- Definitions have one key if they agree in what it is made of. -/
lemma key_eq_key_iff {d e : Definition} (hd : d.IsPlain) (he : e.IsPlain) :
    d.key = e.key
      ↔ d.filePath = e.filePath ∧ d.qualifiedName = e.qualifiedName ∧ d.range = e.range := by
  constructor
  · intro h
    obtain ⟨h, hend⟩ := append_cons_inj hd.endLine.notMem_toText.2 he.endLine.notMem_toText.2 h
    obtain ⟨h, hstart⟩ :=
      append_cons_inj hd.startLine.notMem_toText.1 he.startLine.notMem_toText.1 h
    obtain ⟨hpath, hname⟩ := append_cons_inj hd.qualifiedName he.qualifiedName h
    refine ⟨hpath, hname, ?_⟩
    rw [range, range,
      Number.toText_inj hd.startLine.one_le hd.startLine.isDecimal he.startLine.one_le
        he.startLine.isDecimal hstart,
      Number.toText_inj hd.endLine.one_le hd.endLine.isDecimal he.endLine.one_le
        he.endLine.isDecimal hend]
  · rintro ⟨hpath, hname, hrange⟩
    have hstart : d.startLine = e.startLine := congrArg LineRange.first hrange
    have hend : d.endLine = e.endLine := congrArg LineRange.last hrange
    rw [key, hpath, hname, hstart, hend, key]

end Definition

namespace Assembly

/-! ## The definitions of a file -/

/-- No two definitions of a file agree in their kind, their qualified name and their range. -/
lemma definitions_pairwise_kind (filePath : Text) (lineCount : Number)
    (declarations : List Declaration) (calls : List CallSite) :
    (definitions filePath lineCount declarations calls).Pairwise fun d e =>
      d.qualifiedName = e.qualifiedName → d.range = e.range → d.kind ≠ e.kind := by
  have hkept : (settle lineCount declarations).Pairwise fun a b => identity a ≠ identity b :=
    List.pairwise_map.mp (nodup_map_identity_settle lineCount declarations)
  have hdeclared : (declaredDefinitions filePath (settle lineCount declarations) calls).Pairwise
      fun d e => d.qualifiedName = e.qualifiedName → d.range = e.range → d.kind ≠ e.kind := by
    rw [declaredDefinitions, List.pairwise_map]
    rw [← List.zipIdx_map_fst 0 (settle lineCount declarations), List.pairwise_map] at hkept
    apply hkept.imp
    intro p q hne hname hrange hkind
    apply hne
    rw [identity, identity, DefinitionKind.declared.inj hkind, Prod.mk.injEq, Prod.mk.injEq]
    exact ⟨rfl, hname, hrange⟩
  rw [definitions_eq, List.pairwise_append]
  refine ⟨?_, hdeclared, ?_⟩
  · unfold moduleDefinitions
    split
    · exact .nil
    · exact List.pairwise_singleton _ _
  · -- The module is of a kind of its own.
    intro d hd e he _ _ hkind
    obtain ⟨p, -, rfl⟩ := List.mem_map.mp he
    rw [moduleDefinitions] at hd
    split at hd
    · cases hd
    · rw [List.mem_singleton.mp hd] at hkind
      cases hkind

end Assembly

/-! ## Plain outlines -/

/-- A declaration whose names hold no colon and whose lines are decimals, in the file or not. -/
structure Declaration.IsPlain (d : Declaration) : Prop where
  name : Text.unit ':' ∉ d.name
  className : ∀ c ∈ d.className, Text.unit ':' ∉ c
  startLine : d.startLine.IsDecimal
  endLine : d.endLine.IsDecimal

/-- An outline of plain declarations, with calls of names without colons. -/
structure Outline.IsPlain (o : Outline) : Prop where
  declarations : ∀ d ∈ o.declarations, d.IsPlain
  calls : ∀ c ∈ o.calls, Text.unit ':' ∉ c.callee

lemma Declaration.IsPlain.notMem_qualifiedName {d : Declaration} (h : d.IsPlain) :
    Text.unit ':' ∉ d.qualifiedName := by
  intro hmem
  unfold Declaration.qualifiedName Outline.qualify at hmem
  split at hmem
  · next c hc =>
    rcases List.mem_append.mp hmem with hclass | hrest
    · exact h.className c (Option.filter_eq_some_iff.mp hc).1 hclass
    · rcases List.mem_cons.mp hrest with hdot | hname
      · exact absurd hdot (by decide)
      · exact h.name hname
  · exact h.name hmem

namespace Assembly

variable {lineCount : Number} {ds : List Declaration} {d : Declaration}

/-- A clamped number is the number or one of its bounds. -/
lemma isDecimal_clamp {n low high : Number} (hn : n.IsDecimal) (hlow : low.IsDecimal)
    (hhigh : high.IsDecimal) : (clamp n low high).IsDecimal := by
  rw [clamp, Number.atMost, Number.atLeast]
  split <;> split <;> assumption

lemma isDecimal_lastLine (h : lineCount.IsDecimal) : (lastLine lineCount).IsDecimal := by
  rw [lastLine, Number.atLeast]
  split
  · exact Number.isDecimal_of_den_eq_one rfl
  · exact h

lemma isPlain_of_mem_settle (hcount : lineCount.IsDecimal) (hds : ∀ d ∈ ds, d.IsPlain)
    (h : d ∈ settle lineCount ds) : d.IsPlain := by
  obtain ⟨e, he, rfl⟩ := exists_of_mem_settle h
  have hplain := hds e he
  have hlast := isDecimal_lastLine hcount
  have hfirst : (clamp e.startLine 1 (lastLine lineCount)).IsDecimal :=
    isDecimal_clamp hplain.startLine (Number.isDecimal_of_den_eq_one rfl) hlast
  exact ⟨hplain.name, hplain.className, hfirst, isDecimal_clamp hplain.endLine hfirst hlast⟩

/-- The definitions of a plain outline are plain. -/
theorem isPlain_of_mem_definitions {filePath : Text} (hcount : lineCount.IsDecimal)
    (hds : ∀ d ∈ ds, d.IsPlain) {calls : List CallSite}
    (hcalls : ∀ c ∈ calls, Text.unit ':' ∉ c.callee) {d : Definition}
    (h : d ∈ definitions filePath lineCount ds calls) : d.IsPlain := by
  have hheld : ∀ c ∈ d.calls, Text.unit ':' ∉ c.callee := by
    intro c hc
    obtain ⟨number, heq⟩ := exists_calls_eq_callsOf h
    exact hcalls c (mem_callsOf.mp (heq ▸ hc)).1
  cases hmodule : d.isModule with
  | true =>
    obtain ⟨-, rfl⟩ := (mem_definitions_module_iff hmodule).mp h
    have hlast : 1 ≤ lastLine lineCount := by
      rw [lastLine_eq_max]
      exact le_max_left 1 lineCount
    exact {
      qualifiedName := (by decide : Text.unit ':' ∉ moduleName)
      startLine := ⟨le_rfl, Number.isDecimal_of_den_eq_one rfl⟩
      endLine := ⟨hlast, isDecimal_lastLine hcount⟩
      calls := hheld }
  | false =>
    obtain ⟨k, x, hx, rfl⟩ := (mem_definitions_iff hmodule).mp h
    have hmem := List.mem_of_getElem? hx
    have hplain := isPlain_of_mem_settle hcount hds hmem
    obtain ⟨hfirst, hlast, -⟩ := within_settle hmem
    exact {
      qualifiedName := hplain.notMem_qualifiedName
      startLine := ⟨hfirst, hplain.startLine⟩
      endLine := ⟨hfirst.trans hlast, hplain.endLine⟩
      calls := hheld }

end Assembly

/-- What the adapter of a file says of it is plain, if there is an adapter. -/
def Index.IsPlainIn (v : RegistryView) (file : SourceFile) : Prop :=
  ∀ adapter, v.forFile file (Path.normalize file.path) = .adapter adapter →
    ∀ outline, adapter.outline file.content (Path.normalize file.path) = .ok outline →
      outline.IsPlain

namespace RepoModel

/-! ## Models -/

variable {m : RepoModel}

/-- The definitions of a model are plain, and no two of a file agree in their kind, their qualified
name and their range. -/
structure IsPlain (m : RepoModel) : Prop extends IsPlaced m where
  definitions : ∀ d ∈ m.definitions, d.IsPlain
  kinds : ∀ f ∈ m.files, f.2.definitions.Pairwise fun d e =>
    d.qualifiedName = e.qualifiedName → d.range = e.range → d.kind ≠ e.kind

/-- Models of plain outlines are plain. -/
theorem isPlain_of_generate {σ : Type} {options : GenerateOptions} {files : List SourceFile}
    {s : Session σ}
    (hworkers : ∀ script, options.workers = some script → script = WorkerScript.indexing)
    (hplain : ∀ file ∈ files, Index.IsPlainIn (Generation.viewOf options s.registry) file)
    {g : Generated} (h : ((generate options files).run s).1 = .ok g) : g.model.IsPlain := by
  have hentries : ∀ f ∈ g.model.files, ∃ adapter path content, ∃ outline : Outline,
      outline.IsPlain ∧ f.2 = Index.entryOf adapter path content outline := by
    intro f hf
    obtain ⟨file, hfile, hpath, adapter, outline, hadapter, houtline, hentry⟩ :=
      Generation.exists_outline_of_mem_files hworkers h hf
    rw [hpath] at hadapter houtline
    exact ⟨adapter, _, _, outline, hplain file hfile adapter hadapter outline houtline, hentry⟩
  refine ⟨isPlaced_of_generate hworkers h, ?_, ?_⟩
  · intro d hd
    obtain ⟨f, hf, hd⟩ := List.mem_flatMap.mp hd
    obtain ⟨adapter, path, content, outline, houtline, hentry⟩ := hentries f hf
    rw [hentry] at hd
    exact Assembly.isPlain_of_mem_definitions (Number.isDecimal_of_den_eq_one rfl)
      houtline.declarations houtline.calls hd
  · intro f hf
    obtain ⟨adapter, path, content, outline, -, hentry⟩ := hentries f hf
    rw [hentry]
    exact Assembly.definitions_pairwise_kind _ _ _ _

/-- Only twins have one key. -/
theorem IsPlain.key_eq_key_iff_twins (h : m.IsPlain) :
    m.definitions.Pairwise fun d e => d.key = e.key ↔ d.Twins e := by
  rw [RepoModel.definitions, List.pairwise_flatMap]
  constructor
  · intro f hf
    apply (h.kinds f hf).imp_of_mem
    intro d e hd he hkind
    have hd' : d.IsPlain := h.definitions d (List.mem_flatMap.mpr ⟨f, hf, hd⟩)
    have he' : e.IsPlain := h.definitions e (List.mem_flatMap.mpr ⟨f, hf, he⟩)
    rw [Definition.key_eq_key_iff hd' he']
    constructor
    · rintro ⟨hpath, hname, hrange⟩
      exact ⟨hpath, hname, hrange, hkind hname hrange⟩
    · exact fun htwins => ⟨htwins.filePath, htwins.qualifiedName, htwins.range⟩
  · -- Definitions of different files are in different files.
    have hpaths : m.files.Pairwise fun f f' => f.1 ≠ f'.1 := List.pairwise_map.mp h.nodup
    apply hpaths.imp_of_mem
    intro f f' hf hf' hne d hd e he
    have hfile : d.filePath ≠ e.filePath := by
      rw [h.filePath_eq f hf d hd, h.filePath_eq f' hf' e he]
      exact hne
    rw [Definition.key_eq_key_iff (h.definitions d (List.mem_flatMap.mpr ⟨f, hf, hd⟩))
      (h.definitions e (List.mem_flatMap.mpr ⟨f', hf', he⟩))]
    exact iff_of_false (fun heq => hfile heq.1) fun htwins => hfile htwins.filePath

/-- Without twins the keys are different. -/
lemma IsPlain.nodup_keys (h : m.IsPlain) (htwins : m.definitions.Pairwise fun d e => ¬d.Twins e) :
    (m.definitions.map Definition.key).Nodup := by
  rw [List.Nodup, List.pairwise_map]
  exact (h.key_eq_key_iff_twins.and htwins).imp fun hboth heq => hboth.2 (hboth.1.mp heq)

/-- Definitions of a model with one key are one definition. -/
lemma eq_of_key_eq (h : (m.definitions.map Definition.key).Nodup) {d e : Definition}
    (hd : d ∈ m.definitions) (he : e ∈ m.definitions) (hkey : d.key = e.key) : d = e :=
  List.inj_on_of_nodup_map h hd he hkey

/-- What a name is resolved to are different definitions. -/
lemma nodup_map_key_resolve (h : (m.definitions.map Definition.key).Nodup) (name : Text)
    (language : Option Text) :
    (((SymbolIndex.build m).resolve name language).map Definition.key).Nodup := by
  have hsymbols : ((m.symbols.map IndexedDefinition.definition).map Definition.key).Nodup := by
    have hperm : (m.filesByPath.flatMap fun f => f.2.definitions).Perm m.definitions :=
      (List.mergeSort_perm _ _).flatMap_right _
    have hsub : (m.symbols.map IndexedDefinition.definition).Sublist
        (m.filesByPath.flatMap fun f => f.2.definitions) := by
      rw [symbols, List.map_flatMap]
      apply List.Sublist.flatMap_right
      intro f _
      rw [List.map_map]
      change (List.map id _).Sublist _
      rw [List.map_id]
      exact List.filter_sublist
    exact ((hperm.map Definition.key).nodup_iff.mpr h).sublist (hsub.map _)
  rw [SymbolIndex.resolve_build]
  exact hsymbols.sublist ((List.filter_sublist.map _).map _)

end RepoModel

namespace CallStack

variable {m : RepoModel} {maxDepth : ℕ} {d : Definition} {language : Option Text} {c c' : Callee}

/-! ## The callees of one caller -/

/-- A callee of a call site has the name that is called. -/
lemma of_mem_calleesAt {site : CallSite}
    (hc : c ∈ (Scope.of m maxDepth).calleesAt language site) :
    c.site = site ∧ ∀ e, c.definition = some e → e.name = site.callee := by
  unfold Scope.calleesAt at hc
  split at hc
  · rw [List.mem_singleton.mp hc]
    exact ⟨rfl, fun e he => nomatch he⟩
  · obtain ⟨e, he, rfl⟩ := List.mem_map.mp hc
    refine ⟨rfl, fun e' he' => ?_⟩
    obtain rfl := Option.some.inj he'
    have hresolve : e ∈ (SymbolIndex.build m).resolve site.callee language := he
    rw [SymbolIndex.resolve_build] at hresolve
    obtain ⟨s, hs, rfl⟩ := List.mem_map.mp hresolve
    have htest := (List.mem_filter.mp hs).2
    rw [Bool.and_eq_true, decide_eq_true_eq] at htest
    exact htest.1

/-- The mark of a name without colons is no key. -/
lemma mark_ne_key {name : Text} (hname : Text.unit ':' ∉ name) (e : Definition) :
    Text.ofString "unresolved" ++ 0 :: name ≠ e.key := by
  intro h
  have hcolon : Text.unit ':' ∈ e.key := by
    rw [Definition.key]
    simp
  rw [← h, List.mem_append, List.mem_cons] at hcolon
  rcases hcolon with hword | hzero | hcolon
  · exact absurd hword (by decide)
  · exact absurd hzero (by decide)
  · exact hname hcolon

/-- The name that was called is told by the mark of the callee. -/
lemma callee_eq_of_mark_eq (hkeys : (m.definitions.map Definition.key).Nodup)
    (hcalls : ∀ c ∈ d.calls, Text.unit ':' ∉ c.callee)
    (hc : c ∈ d.calls.flatMap ((Scope.of m maxDepth).calleesAt language))
    (hc' : c' ∈ d.calls.flatMap ((Scope.of m maxDepth).calleesAt language))
    (h : c.mark = c'.mark) : c.site.callee = c'.site.callee := by
  obtain ⟨site, hsite, hc⟩ := List.mem_flatMap.mp hc
  obtain ⟨site', hsite', hc'⟩ := List.mem_flatMap.mp hc'
  obtain ⟨rfl, hname⟩ := of_mem_calleesAt hc
  obtain ⟨rfl, hname'⟩ := of_mem_calleesAt hc'
  unfold Callee.mark at h
  cases hdef : c.definition with
  | none =>
    cases hdef' : c'.definition with
    | none =>
      rw [hdef, hdef'] at h
      exact (List.cons.inj (List.append_cancel_left h)).2
    | some e' =>
      -- The mark of a mere name is no key, as the name has no colon.
      rw [hdef, hdef'] at h
      exact absurd h (mark_ne_key (hcalls _ hsite) e')
  | some e =>
    cases hdef' : c'.definition with
    | none =>
      rw [hdef, hdef'] at h
      exact absurd h.symm (mark_ne_key (hcalls _ hsite') e)
    | some e' =>
      rw [hdef, hdef'] at h
      have heq : e = e' := RepoModel.eq_of_key_eq hkeys
        (mem_definitions_of_mem_calleesAt hc hdef) (mem_definitions_of_mem_calleesAt hc' hdef') h
      rw [← hname e hdef, heq, hname' e' hdef']

/-- What a called name may stand for, with the number of possibilities. -/
def candidatesOf (m : RepoModel) (language : Option Text) (name : Text) :
    List (Option Definition × ℕ) :=
  let candidates := (SymbolIndex.build m).resolve name language
  candidates.map fun e => (some e, candidates.length)

/-- A call of a name that is defined has a callee for each definition. -/
lemma calleesAt_eq {site : CallSite}
    (h : (SymbolIndex.build m).resolve site.callee language ≠ []) :
    (Scope.of m maxDepth).calleesAt language site
      = (candidatesOf m language site.callee).map fun p => ⟨site, p.1, p.2⟩ := by
  rw [candidatesOf, List.map_map, Scope.calleesAt]
  split
  · next hnil => exact absurd hnil h
  · rfl

/-- The marks of the callees of a call tell them apart, and depend on the name only. -/
lemma map_mark_calleesAt {site : CallSite}
    (h : (SymbolIndex.build m).resolve site.callee language ≠ []) :
    ((Scope.of m maxDepth).calleesAt language site).map Callee.mark
      = ((SymbolIndex.build m).resolve site.callee language).map Definition.key := by
  rw [calleesAt_eq h, candidatesOf, List.map_map, List.map_map]
  rfl

/-- The callees of one name come from the calls of that name. -/
lemma filter_flatMap_calleesAt (name : Text) (sites : List CallSite) :
    (sites.flatMap ((Scope.of m maxDepth).calleesAt language)).filter
        (fun c => c.site.callee = name)
      = (sites.filter fun x => x.callee = name).flatMap
          ((Scope.of m maxDepth).calleesAt language) := by
  induction sites with
  | nil => rfl
  | cons x sites ih =>
    rw [List.flatMap_cons, List.filter_append, ih]
    by_cases hx : x.callee = name
    · rw [List.filter_cons_of_pos (by simpa using hx), List.flatMap_cons, List.filter_eq_self.mpr]
      intro c hc
      rw [(of_mem_calleesAt hc).1]
      exact decide_eq_true hx
    · rw [List.filter_cons_of_neg (by simpa using hx), List.filter_eq_nil_iff.mpr,
        List.nil_append]
      intro c hc
      rw [(of_mem_calleesAt hc).1]
      simpa using hx

/-- All that a called name stands for are callees, each once. -/
lemma filter_callees (hkeys : (m.definitions.map Definition.key).Nodup)
    (hcalls : ∀ c ∈ d.calls, Text.unit ':' ∉ c.callee) {site : CallSite} (hsite : site ∈ d.calls)
    (hsome : (SymbolIndex.build m).resolve site.callee ((Scope.of m maxDepth).languageOf? d) ≠ []) :
    (((Scope.of m maxDepth).callees d).filter fun c => c.site.callee = site.callee).map
        (fun c => (c.definition, c.candidateCount))
      = candidatesOf m ((Scope.of m maxDepth).languageOf? d) site.callee := by
  rw [Scope.callees, distinctCallees_eq, filter_freshBy, filter_flatMap_calleesAt]
  · have hmem : site ∈ d.calls.filter fun x => x.callee = site.callee :=
      List.mem_filter.mpr ⟨hsite, decide_eq_true rfl⟩
    cases hsites : d.calls.filter fun x => x.callee = site.callee with
    | nil =>
      rw [hsites] at hmem
      cases hmem
    | cons x sites =>
      have hnames : ∀ y ∈ x :: sites, y.callee = site.callee := by
        intro y hy
        rw [← hsites] at hy
        exact of_decide_eq_true (List.mem_filter.mp hy).2
      have hx := hnames x List.mem_cons_self
      rw [← hx] at hsome ⊢
      -- Later calls of the name only repeat the callees of the first one.
      rw [List.flatMap_cons, freshBy_append_of_forall_mem]
      · have hnodup := RepoModel.nodup_map_key_resolve hkeys x.callee
          ((Scope.of m maxDepth).languageOf? d)
        rw [← map_mark_calleesAt hsome] at hnodup
        have hfirsts : freshBy Callee.mark [] _ = _ := firstsBy_of_nodup hnodup
        rw [hfirsts, calleesAt_eq hsome, List.map_map]
        exact List.map_id _
      · intro c hc
        obtain ⟨y, hy, hc⟩ := List.mem_flatMap.mp hc
        have hy := (hnames y (List.mem_cons_of_mem x hy)).trans hx.symm
        right
        rw [map_mark_calleesAt hsome, ← hy, ← map_mark_calleesAt (by rwa [hy])]
        exact List.mem_map_of_mem hc
  · intro c hc c' hc' hmark
    rw [callee_eq_of_mark_eq hkeys hcalls hc hc' hmark]

/-! ## The callees of an entry -/

section

variable {s : Scope} {root : Definition} {maxNodes : ℕ}

/-- The calls that lead out of one of some frames. -/
lemma filter_callsFrom {fs : List Frame} (hfs : fs.Pairwise fun f g => f.entry.id < g.entry.id)
    {f : Frame} (hf : f ∈ fs) (hopen : f.isOpen) :
    (s.callsFrom fs).filter (fun c => c.1.entry.id = f.entry.id)
      = (s.calleesOf f).map fun c => (f, c) := by
  have hnodup : (fs.map fun g => g.entry.id).Nodup := by
    apply List.pairwise_map.mpr
    exact hfs.imp Nat.ne_of_lt
  have hself : (if f.isOpen then (s.calleesOf f).map fun c => (f, c) else [])
      = (s.calleesOf f).map fun c => (f, c) := if_pos hopen
  rw [Scope.callsFrom, ← hself]
  -- A call that leads out of a frame is told by the number of the frame.
  have hfrom : ∀ g, ∀ c ∈ (if g.isOpen then (s.calleesOf g).map fun c => (g, c) else []),
      c.1 = g := by
    intro g c hc
    split at hc
    · obtain ⟨callee, -, rfl⟩ := List.mem_map.mp hc
      rfl
    · cases hc
  apply filter_flatMap_eq (List.Nodup.of_map _ hnodup) hf
  · intro c hc
    rw [hfrom f c hc]
    exact decide_eq_true rfl
  · intro g hg hne c hc
    rw [hfrom g c hc]
    exact decide_eq_false fun hid => hne (List.inj_on_of_nodup_map hnodup hg hf hid)

/-- What an entry says of the callee that it stands for. -/
def calleeOf (e : CallStackEntry) : Text × Option Definition × ℕ :=
  (e.calleeName, e.definition, e.candidateCount)

/-- The children of an entry that is followed are its callees. -/
lemma map_calleeOf_childrenOf (hpos : 1 ≤ maxNodes) (h : (s.expand maxNodes root).truncated = false) {f : Frame}
    (hf : f ∈ s.frames root) (hopen : f.isOpen) :
    (childrenOf (s.expand maxNodes root).entries f.entry.id).map calleeOf
      = (s.calleesOf f).map fun c => (c.site.callee, c.definition, c.candidateCount) := by
  have hentries : (s.expand maxNodes root).entries = (s.frames root).map Frame.entry :=
    Scope.entries_expand_of_not_truncated hpos h
  have hroot : (s.rootFrame root).entry.parentId ≠ some f.entry.id := nofun
  -- A frame is named after the call that leads to it, whatever its number.
  have hbelow : ((s.framesBelow 1 (s.frames root)).filter
        (fun g => g.entry.parentId = some f.entry.id)).map (fun g => calleeOf g.entry)
      = ((((s.callsFrom (s.frames root)).zipIdx 1).map Prod.fst).filter
          fun c => c.1.entry.id = f.entry.id).map
            fun c => (c.2.site.callee, c.2.definition, c.2.candidateCount) := by
    rw [Scope.framesBelow, List.filter_map, List.filter_map, List.map_map, List.map_map]
    simp only [Function.comp_def, Scope.frameOf, Callee.entry, Option.some.injEq, calleeOf]
  rw [hentries, childrenOf_map (fun _ => rfl), s.frames_eq root,
    List.filter_cons_of_neg (by simpa using hroot), List.map_map]
  refine hbelow.trans ?_
  rw [List.zipIdx_map_fst, filter_callsFrom Scope.pairwise_id_frames hf hopen, List.map_map]
  rfl

end

/-! ## What a call stack tells apart -/

/-- A call stack in which no definition is taken for another one. -/
structure TellsApart (m : RepoModel) (s : CallStack) : Prop where
  /-- An entry is cyclic just if its definition is that of an entry above it. -/
  cyclic_iff : ∀ {above e}, s.PathTo above e → (e.status = .cyclic ↔
    ∃ d, e.definition = some d ∧ some d ∈ above.map CallStackEntry.definition)
  /-- Each definition that a called name stands for has an entry among the callees, and only one. -/
  siblings : s.truncated = false → ∀ e ∈ s.entries, e.status = .expanded →
    ∀ d, e.definition = some d → ∀ site ∈ d.calls,
      let candidates :=
        (SymbolIndex.build m).resolve site.callee ((m.file? d.filePath).map FileModel.language)
      candidates ≠ [] →
        ((childrenOf s.entries e.id).filter fun x => x.calleeName = site.callee).map
            (fun x => (x.definition, x.candidateCount))
          = candidates.map fun d => (some d, candidates.length)

variable {root : Definition} {maxNodes : ℕ}

/-- The definitions of entries are in the model. -/
lemma mem_definitions_of_mem_entries (hroot : root ∈ m.definitions) (hpos : 1 ≤ maxNodes)
    {e : CallStackEntry} (he : e ∈ ((Scope.of m maxDepth).expand maxNodes root).entries)
    (hd : e.definition = some d) : d ∈ m.definitions := by
  obtain ⟨f, hf, -, rfl⟩ := (Scope.mem_entries_expand hpos).mp he
  rw [definition_markCut] at hd
  rcases Scope.eq_root_or_exists_caller hf with rfl | ⟨caller, -, -, c, hc, hframe⟩
  · obtain rfl : root = d := Option.some.inj hd
    exact hroot
  · rw [hframe] at hd
    exact mem_definitions_of_mem_calleesOf hc hd

/-- Where the keys are different, just the definitions on the way from the root are cyclic. -/
lemma cyclic_iff_of_nodup_keys (hkeys : (m.definitions.map Definition.key).Nodup)
    (hroot : root ∈ m.definitions) (hpos : 1 ≤ maxNodes) {above : List CallStackEntry}
    {e : CallStackEntry} (h : ((Scope.of m maxDepth).expand maxNodes root).PathTo above e) :
    e.status = .cyclic
      ↔ ∃ d, e.definition = some d ∧ some d ∈ above.map CallStackEntry.definition := by
  constructor
  · intro hstatus
    obtain ⟨-, k, hkey, hmem⟩ := h.repeats hroot hpos hstatus
    obtain ⟨d, hd, rfl⟩ := Option.map_eq_some_iff.mp hkey
    obtain ⟨x, hx, hkey'⟩ := List.mem_filterMap.mp hmem
    obtain ⟨d', hd', hsame⟩ := Option.map_eq_some_iff.mp hkey'
    obtain rfl := RepoModel.eq_of_key_eq hkeys
      (mem_definitions_of_mem_entries hroot hpos (h.mem_of_mem_above hx) hd')
      (mem_definitions_of_mem_entries hroot hpos h.mem hd) hsame
    exact ⟨d', hd, List.mem_map.mpr ⟨x, hx, hd'⟩⟩
  · rintro ⟨d, hd, habove⟩
    obtain ⟨x, hx, hd'⟩ := List.mem_map.mp habove
    by_contra hstatus
    -- The frame of an entry that is not cyclic carries its own key apart from those above it.
    obtain ⟨f, hf, rfl, hpath, -, -⟩ := h.spec hpos
    rw [status_markCut (by decide) (by decide)] at hstatus
    have hnodup := (traced_of_mem_frames hroot hf).nodup hstatus
    have hkey : (markCut ((Scope.of m maxDepth).cutOf maxNodes root) f.entry).key? = some d.key :=
      congrArg (Option.map Definition.key) hd
    have hkey' : x.key? = some d.key := congrArg (Option.map Definition.key) hd'
    rw [← hpath, List.filterMap_cons_some hkey] at hnodup
    exact (List.nodup_cons.mp hnodup).1 (List.mem_filterMap.mpr ⟨x, hx, hkey'⟩)

/-- Where the keys are different, a call stack tells all definitions apart. -/
theorem tellsApart_expand (hkeys : (m.definitions.map Definition.key).Nodup)
    (hcalls : ∀ d ∈ m.definitions, ∀ c ∈ d.calls, Text.unit ':' ∉ c.callee)
    (hroot : root ∈ m.definitions) (hpos : 1 ≤ maxNodes) :
    ((Scope.of m maxDepth).expand maxNodes root).TellsApart m where
  cyclic_iff := cyclic_iff_of_nodup_keys hkeys hroot hpos
  siblings := by
    intro hwhole e he hstatus d hd site hsite candidates hsome
    have hcut : (Scope.of m maxDepth).cutOf maxNodes root = none := by
      rw [Scope.expand_eq _ hpos] at hwhole
      exact Option.isNone_iff_eq_none.mp (Option.isSome_eq_false_iff.mp hwhole)
    have hmem := mem_definitions_of_mem_entries hroot hpos he hd
    obtain ⟨f, hf, -, rfl⟩ := (Scope.mem_entries_expand hpos).mp he
    rw [hcut] at hstatus hd ⊢
    change f.entry.definition = some d at hd
    have hcallees : (Scope.of m maxDepth).calleesOf f = (Scope.of m maxDepth).callees d := by
      rw [Scope.calleesOf, hd]
    have hchildren := map_calleeOf_childrenOf hpos hwhole hf (beq_iff_eq.mpr hstatus)
    rw [hcallees] at hchildren
    have hnamed := congrArg
      (fun cs => (cs.filter fun c => c.1 = site.callee).map Prod.snd) hchildren
    rw [List.filter_map, List.filter_map, List.map_map, List.map_map] at hnamed
    exact hnamed.trans (filter_callees hkeys (hcalls d hmem) hsite hsome)

/-! ## Models of a file of three lines -/

open ModelFile

/-- An adapter that finds the same in every text. -/
def scripted (outline : Outline) : Adapter where
  languageId := "plain"
  outline := fun _ _ => .ok outline

/-- A file of three lines. -/
def threeLines : SourceFile := ⟨"a:b", "1\n2\n3", none⟩

/-- The outcome of a generation in which the file is found to have an outline. -/
def generatedFrom (outline : Outline) : Outcome Generated :=
  ((generate {} [threeLines]).run (emptySession (registryOf (scripted outline)))).1

/-- A model of the file. -/
def modelOf (definitions : List Definition) : RepoModel :=
  ⟨[("a:b", { language := "plain", lineCount := 3, definitions })]⟩

/-- The model has the definitions that the outline is made into. -/
lemma exists_generatedFrom {o : Outline} (himports : o.imports = [])
    (h : (generatedFrom o).toOption.any (fun g =>
      g.model.files.map Prod.fst = [threeLines.path]) = true) :
    ∃ g, generatedFrom o = .ok g
      ∧ g.model = modelOf (Assembly.definitions "a:b" 3 o.declarations o.calls) := by
  obtain ⟨g, hg, hpaths⟩ := exists_of_any_toOption h
  obtain ⟨f, hfiles, hpath⟩ := List.map_eq_singleton_iff.mp (of_decide_eq_true hpaths)
  obtain ⟨file, hfile, -, adapter, outline, hadapter, houtline, hentry⟩ :=
    Generation.exists_outline_of_mem_files (by simp) hg
      (hfiles ▸ List.mem_singleton_self f : f ∈ g.model.files)
  obtain rfl := List.mem_singleton.mp hfile
  rw [hpath] at hadapter houtline hentry
  obtain rfl : scripted o = adapter := Offer.adapter.inj hadapter
  obtain rfl := Except.ok.inj houtline
  have hmodel : g.model = ⟨[(f.1, f.2)]⟩ := congrArg RepoModel.mk hfiles
  rw [hpath, hentry, Index.entryOf, himports] at hmodel
  exact ⟨g, hg, hmodel⟩

/-- A definition of the file on one line. -/
def onLine (kind : DeclarationKind) (name : Text) (line : Number) (calls : List CallSite) :
    Definition :=
  { kind := .declared kind, name, qualifiedName := name, filePath := "a:b", startLine := line
    endLine := line, calls }

/-- Two functions of one name, the first of which calls the name, and one that calls it twice. -/
def namesakes : Outline where
  declarations :=
    [⟨.function, "f", none, 1, 1⟩, ⟨.function, "f", none, 2, 2⟩, ⟨.function, "main", none, 3, 3⟩]
  calls := [⟨"f", "f", 1, 0⟩, ⟨"f", "f", 3, 0⟩, ⟨"f", "f", 3, 4⟩]

lemma definitions_namesakes :
    Assembly.definitions "a:b" 3 namesakes.declarations namesakes.calls
      = [onLine .function "f" 1 [⟨"f", "f", 1, 0⟩], onLine .function "f" 2 [],
        onLine .function "main" 3 [⟨"f", "f", 3, 0⟩, ⟨"f", "f", 3, 4⟩]] := by
  rw [Assembly.definitions, Assembly.settle_of_pairwise (by decide)]
  simp only [Assembly.callsOf_of_pairwise (by decide : namesakes.calls.Pairwise _)]
  decide

/-- A function and a class of one name on one line, and a function that calls the name. -/
def twins : Outline where
  declarations :=
    [⟨.function, "f", none, 1, 1⟩, ⟨.class, "f", none, 1, 1⟩, ⟨.function, "main", none, 3, 3⟩]
  calls := [⟨"f", "f", 3, 0⟩]

lemma definitions_twins :
    Assembly.definitions "a:b" 3 twins.declarations twins.calls
      = [onLine .function "f" 1 [], onLine .class "f" 1 [],
        onLine .function "main" 3 [⟨"f", "f", 3, 0⟩]] := by
  rw [Assembly.definitions, Assembly.settle_of_pairwise (by decide)]
  simp only [Assembly.callsOf_of_pairwise (by decide : twins.calls.Pairwise _)]
  decide

/-- Whole lines and names without colons are plain. -/
lemma isPlain_of_whole {o : Outline}
    (hdeclarations : ∀ d ∈ o.declarations, Text.unit ':' ∉ d.name ∧ d.className = none
      ∧ d.startLine.den = 1 ∧ d.endLine.den = 1)
    (hcalls : ∀ c ∈ o.calls, Text.unit ':' ∉ c.callee) : o.IsPlain where
  calls := hcalls
  declarations := by
    intro d hd
    obtain ⟨hname, hclass, hstart, hend⟩ := hdeclarations d hd
    refine ⟨hname, ?_, Number.isDecimal_of_den_eq_one hstart, Number.isDecimal_of_den_eq_one hend⟩
    rw [hclass]
    exact fun c hc => nomatch hc

/-! ## Generated models -/

/-- In a model of plain outlines two definitions have one key just if they are twins. If there are
no twins, every call stack tells all definitions apart. -/
theorem toldApart_of_generate {σ τ : Type} (options : GenerateOptions) (files : List SourceFile)
    (s : Session σ)
    (hworkers : ∀ script, options.workers = some script → script = WorkerScript.indexing)
    (hplain : ∀ file ∈ files, Index.IsPlainIn (Generation.viewOf options s.registry) file)
    {g : Generated} (h : ((generate options files).run s).1 = .ok g) :
    (g.model.definitions.Pairwise fun d e => d.key = e.key ↔ d.Twins e)
      ∧ ((g.model.definitions.Pairwise fun d e => ¬d.Twins e) →
        ∀ (filePath : Text) (line maxDepth maxNodes : Number) (session : Session τ)
          (stack : CallStack),
          ((resolveJob g.model filePath line maxDepth maxNodes).run session).1 = .ok (.ok stack) →
            stack.TellsApart g.model) := by
  have hmodel := RepoModel.isPlain_of_generate hworkers hplain h
  refine ⟨hmodel.key_eq_key_iff_twins, ?_⟩
  intro htwins filePath line maxDepth maxNodes session stack hstack
  obtain ⟨depth, nodes, -, -, -, hpos, root, hroot, rfl⟩ := exists_of_resolveJob_eq_ok hstack
  exact tellsApart_expand (hmodel.nodup_keys htwins) (fun d hd => (hmodel.definitions d hd).calls)
    (RepoModel.mem_definitions_of_enclosing? hroot) hpos

/-- Each of two functions of one name is a callee, once, and below the first one only that one is
cyclic. -/
theorem toldApart_of_generate_namesakes : ∃ g stack,
    generatedFrom namesakes = .ok g
      ∧ ((resolveJob g.model "a:b" 3 (5 : ℕ) (64 : ℕ)).run
        { host := default, world := () }).1 = .ok (.ok stack)
      ∧ stack.truncated = false
      ∧ stack.entries.map (fun e => (e.parentId, e.definition.map Definition.startLine, e.status))
        = [(none, some 3, .expanded), (some 0, some 1, .expanded), (some 0, some 2, .expanded),
          (some 1, some 1, .cyclic), (some 1, some 2, .expanded)]
      ∧ (g.model.definitions.Pairwise fun d e => d.key ≠ e.key) ∧ stack.TellsApart g.model := by
  obtain ⟨g, hg, hmodel⟩ :=
    exists_generatedFrom (rfl : namesakes.imports = []) (by decide +kernel)
  rw [definitions_namesakes] at hmodel
  have hplain : ∀ file ∈ [threeLines],
      Index.IsPlainIn (Generation.viewOf {} (registryOf (scripted namesakes))) file := by
    intro file hfile adapter hadapter outline houtline
    obtain rfl := List.mem_singleton.mp hfile
    obtain rfl : scripted namesakes = adapter := Offer.adapter.inj hadapter
    obtain rfl := Except.ok.inj houtline
    exact isPlain_of_whole (by decide) (by decide)
  obtain ⟨hkeys, htold⟩ := toldApart_of_generate {} [threeLines]
    (emptySession (registryOf (scripted namesakes))) (by simp) hplain hg
  have hranges : g.model.definitions.Pairwise fun d e => d.range ≠ e.range := by
    rw [hmodel]
    decide
  have htwins : g.model.definitions.Pairwise fun d e => ¬d.Twins e :=
    hranges.imp fun hne h => hne h.range
  have hstack : (resolveWithin g.model (Path.normalize "a:b") 3 5 64).toOption.any fun s =>
      !s.truncated && s.entries.map
          (fun e => (e.parentId, e.definition.map Definition.startLine, e.status))
        = [(none, some 3, .expanded), (some 0, some 1, .expanded), (some 0, some 2, .expanded),
          (some 1, some 1, .cyclic), (some 1, some 2, .expanded)] := by
    rw [hmodel]
    decide +kernel
  obtain ⟨stack, hs, hentries⟩ := exists_of_any_resolveWithin (by decide) (by decide) hstack
    { host := default, world := () }
  rw [Bool.and_eq_true, Bool.not_eq_true', decide_eq_true_eq] at hentries
  refine ⟨g, stack, hg, hs, hentries.1, hentries.2, ?_, htold htwins _ _ _ _ _ _ hs⟩
  exact (hkeys.and htwins).imp fun hboth h => hboth.2 (hboth.1.mp h)

/-- A function and a class of one name on one line have one key, though no name holds a colon. The
call of the name counts both, and just one of them is a callee. -/
theorem one_key_of_twins : twins.IsPlain ∧ ∃ g stack, generatedFrom twins = .ok g
    ∧ (g.model.definitions.Pairwise fun d e => d ≠ e)
    ∧ ¬(g.model.definitions.Pairwise fun d e => d.key ≠ e.key)
    ∧ ((resolveJob g.model "a:b" 3 (5 : ℕ) (64 : ℕ)).run
        { host := default, world := () }).1 = .ok (.ok stack)
    ∧ stack.truncated = false
    ∧ (childrenOf stack.entries 0).map (fun e => (e.calleeName, e.candidateCount))
      = [(Text.ofString "f", 2)] := by
  obtain ⟨g, hg, hmodel⟩ :=
    exists_generatedFrom (rfl : twins.imports = []) (by decide +kernel)
  rw [definitions_twins] at hmodel
  have hstack : (resolveWithin g.model (Path.normalize "a:b") 3 5 64).toOption.any fun s =>
      !s.truncated && (childrenOf s.entries 0).map (fun e => (e.calleeName, e.candidateCount))
        = [(Text.ofString "f", 2)] := by
    rw [hmodel]
    decide +kernel
  obtain ⟨stack, hs, hentries⟩ := exists_of_any_resolveWithin (by decide) (by decide) hstack
    { host := default, world := () }
  rw [Bool.and_eq_true, Bool.not_eq_true', decide_eq_true_eq] at hentries
  refine ⟨isPlain_of_whole (by decide) (by decide), g, stack, hg, ?_, ?_, hs, hentries⟩
  · rw [hmodel]
    decide
  · rw [hmodel]
    decide

end CallStack

end CallAtlas
