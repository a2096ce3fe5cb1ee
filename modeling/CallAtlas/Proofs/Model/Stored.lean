import CallAtlas.Model.Stored
import CallAtlas.Proofs.Json.Decoding
import CallAtlas.Proofs.Json.RoundTrip

/-!
# Models in documents

A model is storable if its numbers are natural numbers of the number format, its lines are counted
from one, its names are not empty and its files are in order. The document of a storable model is
decoded as the model and the metadata that it was made of, whatever texts they hold.
-/

namespace CallAtlas

/-! ## Storable models -/

/-- A call site whose place a document keeps. -/
structure CallSite.IsStorable (c : CallSite) : Prop where
  line : Number.IsWhole c.line
  one_le_line : 1 ≤ c.line
  column : Number.IsWhole c.column

/-- A definition that has a name and whose lines a document keeps, with its calls. -/
structure Definition.IsStorable (d : Definition) : Prop where
  name : d.name ≠ []
  qualifiedName : d.qualifiedName ≠ []
  startLine : Number.IsWhole d.startLine
  one_le_startLine : 1 ≤ d.startLine
  endLine : Number.IsWhole d.endLine
  one_le_endLine : 1 ≤ d.endLine
  calls : ∀ c ∈ d.calls, c.IsStorable

/-- A file whose language has a name, with all its definitions. -/
structure FileModel.IsStorable (f : FileModel) : Prop where
  language : f.language ≠ []
  lineCount : Number.IsWhole f.lineCount
  definitions : ∀ d ∈ f.definitions, d.IsStorable

/-- A model whose files a document keeps, in their order. -/
structure RepoModel.IsStorable (m : RepoModel) : Prop where
  inOrder : Json.InOrder m.files
  no_proto : Text.ofString "__proto__" ∉ m.files.map Prod.fst
  files : ∀ f ∈ m.files, f.2.IsStorable

lemma Number.IsWhole.den {n : Number} (h : n.IsWhole) : n.den = 1 := by
  obtain ⟨k, rfl, -⟩ := h
  exact Rat.den_natCast k

lemma Number.IsWhole.nonneg {n : Number} (h : n.IsWhole) : 0 ≤ n := by
  obtain ⟨k, rfl, -⟩ := h
  rw [← Rat.num_nonneg, Rat.num_natCast]
  omega

/-! ## What documents keep -/

namespace Json

/-- An object is kept if its names are in order and its values are kept. -/
lemma isKept_object (names : List String) {members : List (String × Json)}
    (hnames : members.map Prod.fst = names) (horder : (names.map Text.ofString).Pairwise Precedes)
    (h : ∀ m ∈ members, IsKept m.2) : IsKept (object members) := by
  apply IsKept.obj
  · rw [← hnames, List.map_map] at horder
    rw [InOrder, List.map_map]
    exact horder
  · intro m hm
    obtain ⟨p, hp, rfl⟩ := List.mem_map.mp hm
    exact h p hp

end Json

open Json in
lemma CallSite.IsStorable.isKept {c : CallSite} (h : c.IsStorable) : IsKept c.toJson := by
  apply isKept_object ["callee", "expression", "line", "column"] rfl (by decide +kernel)
  simp only [List.forall_mem_cons]
  exact ⟨.str _, .str _, .num h.line, .num h.column, List.forall_mem_nil _⟩

open Json in
lemma Definition.IsStorable.isKept {d : Definition} (h : d.IsStorable) : IsKept d.toJson := by
  have hcalls : IsKept (.arr (d.calls.map CallSite.toJson)) := by
    apply IsKept.arr
    intro j hj
    obtain ⟨c, hc, rfl⟩ := List.mem_map.mp hj
    exact (h.calls c hc).isKept
  rw [Definition.toJson, headMembers]
  cases d.className with
  | none =>
    apply isKept_object ["kind", "name", "qualifiedName", "filePath", "startLine", "endLine",
      "calls"] rfl (by decide +kernel)
    simp only [Json.optional, List.cons_append, List.nil_append, List.forall_mem_cons]
    exact ⟨.str _, .str _, .str _, .str _, .num h.startLine, .num h.endLine, hcalls,
      List.forall_mem_nil _⟩
  | some name =>
    apply isKept_object ["kind", "name", "qualifiedName", "className", "filePath", "startLine",
      "endLine", "calls"] rfl (by decide +kernel)
    simp only [Json.optional, List.cons_append, List.nil_append, List.forall_mem_cons]
    exact ⟨.str _, .str _, .str _, .str _, .str _, .num h.startLine, .num h.endLine, hcalls,
      List.forall_mem_nil _⟩

open Json in
lemma FileModel.IsStorable.isKept {f : FileModel} (h : f.IsStorable) : IsKept f.toJson := by
  have hdefinitions : IsKept (.arr (f.definitions.map Definition.toJson)) := by
    apply IsKept.arr
    intro j hj
    obtain ⟨d, hd, rfl⟩ := List.mem_map.mp hj
    exact (h.definitions d hd).isKept
  have himports : IsKept (.arr (f.imports.map Json.str)) := by
    apply IsKept.arr
    intro j hj
    obtain ⟨t, -, rfl⟩ := List.mem_map.mp hj
    exact .str t
  apply isKept_object ["language", "lineCount", "definitions", "imports"] rfl (by decide +kernel)
  simp only [List.forall_mem_cons]
  exact ⟨.str _, .num h.lineCount, hdefinitions, himports, List.forall_mem_nil _⟩

open Json in
lemma RepoMetadata.isKept (m : RepoMetadata) : IsKept m.toJson := by
  rw [RepoMetadata.toJson]
  cases m.fingerprint with
  | none =>
    apply isKept_object ["repository", "ref", "generatedAt", "toolVersion"] rfl
      (by decide +kernel)
    simp only [Json.optional, List.cons_append, List.nil_append, List.forall_mem_cons]
    exact ⟨.str _, .str _, .str _, .str _, List.forall_mem_nil _⟩
  | some fingerprint =>
    apply isKept_object ["repository", "ref", "fingerprint", "generatedAt", "toolVersion"] rfl
      (by decide +kernel)
    simp only [Json.optional, List.cons_append, List.nil_append, List.forall_mem_cons]
    exact ⟨.str _, .str _, .str _, .str _, .str _, List.forall_mem_nil _⟩

open Json in
/-- The document of a storable model is kept. -/
theorem RepoModel.IsStorable.isKept {m : RepoModel} (h : m.IsStorable) (metadata : RepoMetadata) :
    IsKept (m.toDocument metadata) := by
  have hfiles : IsKept (.obj (m.files.map fun f => (f.1, f.2.toJson))) := by
    apply IsKept.obj (h.inOrder.map FileModel.toJson)
    intro member hmember
    obtain ⟨f, hf, rfl⟩ := List.mem_map.mp hmember
    exact (h.files f hf).isKept
  have hversion : IsKept (Json.ofNat RepoModel.formatVersion) :=
    .num ⟨2, rfl, .inl (by decide)⟩
  apply isKept_object ["formatVersion", "metadata", "files"] rfl (by decide +kernel)
  simp only [List.forall_mem_cons]
  exact ⟨hversion, metadata.isKept, hfiles, List.forall_mem_nil _⟩

/-! ## What is decoded -/

namespace Stored

open Decoder

lemma callSite_toJson {c : CallSite} (h : c.IsStorable) : callSite (some c.toJson) = .ok c := by
  have hline : integer 1 none (some (.num c.line)) = .ok c.line :=
    integer_num h.line.den (by exact_mod_cast h.one_le_line)
  have hcolumn : integer 0 none (some (.num c.column)) = .ok c.column :=
    integer_num h.column.den (by exact_mod_cast h.column.nonneg)
  apply object_object
  exact andField_named (andField_named (andField_named (andField_named rfl
    (text_str (Nat.zero_le _)) rfl) (text_str (Nat.zero_le _)) rfl) hline rfl) hcolumn rfl

lemma choice_kinds (k : DefinitionKind) : choice kinds (some (k.name : Json)) = .ok k := by
  cases k with
  | module => rfl
  | declared kind => cases kind <;> rfl

lemma definition_toJson {d : Definition} (h : d.IsStorable) :
    definition (some d.toJson) = .ok d := by
  have hname : text 1 (some (.str d.name)) = .ok d.name :=
    text_str (List.length_pos_iff.mpr h.name)
  have hqualified : text 1 (some (.str d.qualifiedName)) = .ok d.qualifiedName :=
    text_str (List.length_pos_iff.mpr h.qualifiedName)
  have hclass : optional (text 0) (d.className.map Json.str) = .ok d.className :=
    optional_map fun _ _ => text_str (Nat.zero_le _)
  have hstart : integer 1 none (some (.num d.startLine)) = .ok d.startLine :=
    integer_num h.startLine.den (by exact_mod_cast h.one_le_startLine)
  have hend : integer 1 none (some (.num d.endLine)) = .ok d.endLine :=
    integer_num h.endLine.den (by exact_mod_cast h.one_le_endLine)
  have hcalls : list callSite (some (.arr (d.calls.map CallSite.toJson))) = .ok d.calls :=
    list_arr fun c hc => callSite_toJson (h.calls c hc)
  obtain ⟨kind, name, qualifiedName, className, filePath, startLine, endLine, calls⟩ := d
  -- A class that is missing is left out of the document, and the other fields are read as before.
  apply object_object
  cases className with
  | none =>
    exact andField_named (andField_named (andField_named (andField_named (andField_named
      (andField_named (andField_named (andField_named rfl (choice_kinds kind) rfl) hname rfl)
        hqualified rfl) hclass rfl) (text_str (Nat.zero_le _)) rfl) hstart rfl) hend rfl) hcalls rfl
  | some className =>
    exact andField_named (andField_named (andField_named (andField_named (andField_named
      (andField_named (andField_named (andField_named rfl (choice_kinds kind) rfl) hname rfl)
        hqualified rfl) hclass rfl) (text_str (Nat.zero_le _)) rfl) hstart rfl) hend rfl) hcalls rfl

lemma fileModel_toJson {f : FileModel} (h : f.IsStorable) :
    fileModel (some f.toJson) = .ok f := by
  have hlanguage : text 1 (some (.str f.language)) = .ok f.language :=
    text_str (List.length_pos_iff.mpr h.language)
  have hcount : integer 0 none (some (.num f.lineCount)) = .ok f.lineCount :=
    integer_num h.lineCount.den (by exact_mod_cast h.lineCount.nonneg)
  have hdefinitions : list definition (some (.arr (f.definitions.map Definition.toJson)))
      = .ok f.definitions := list_arr fun d hd => definition_toJson (h.definitions d hd)
  have himports : list (text 0) (some (.arr (f.imports.map Json.str))) = .ok f.imports :=
    list_arr fun _ _ => text_str (Nat.zero_le _)
  apply object_object
  exact andField_named (andField_named (andField_named (andField_named rfl hlanguage rfl)
    hcount rfl) hdefinitions rfl) himports rfl

lemma metadata_toJson (m : RepoMetadata) : metadata (some m.toJson) = .ok m := by
  have htext : ∀ t : Text, text 0 (some (.str t)) = .ok t := fun _ => text_str (Nat.zero_le _)
  have hfingerprint : optional (text 0) (m.fingerprint.map Json.str) = .ok m.fingerprint :=
    optional_map fun t _ => htext t
  obtain ⟨repository, ref, fingerprint, generatedAt, toolVersion⟩ := m
  apply object_object
  cases fingerprint with
  | none =>
    exact andField_named (andField_named (andField_named (andField_named (andField_named rfl
      (htext _) rfl) (htext _) rfl) hfingerprint rfl) (htext _) rfl) (htext _) rfl
  | some fingerprint =>
    exact andField_named (andField_named (andField_named (andField_named (andField_named rfl
      (htext _) rfl) (htext _) rfl) hfingerprint rfl) (htext _) rfl) (htext _) rfl

/-- The document of a storable model is decoded as the model with its metadata. -/
theorem decode_toDocument {m : RepoModel} (h : m.IsStorable) (md : RepoMetadata) :
    decode (m.toDocument md) = .ok ⟨md, m⟩ := by
  have hfiles : entries fileModel (some (.obj (m.files.map fun f => (f.1, f.2.toJson))))
      = .ok m.files := entries_obj (fun f hf => fileModel_toJson (h.files f hf)) h.no_proto
  have hdocument : document (some (m.toDocument md)) = .ok ⟨md, m⟩ := by
    apply object_object
    exact andField_named (andField_named (andField_named rfl (literal_ofNat _) rfl)
      (metadata_toJson md) rfl) hfiles rfl
  rw [decode, hdocument]
  rfl

end Stored

/-- The text of the document of a storable model is read as the document. -/
theorem RepoModel.IsStorable.parse?_documentText {m : RepoModel} (h : m.IsStorable)
    (md : RepoMetadata) :
    Json.parse? (RepoModel.documentText (m.toDocument md)) = some (m.toDocument md) :=
  Json.parse?_render (h.isKept md) _ (List.all_eq_true.mp (by decide))

end CallAtlas
