import CallAtlas.Index.File
import Mathlib.Data.List.Basic
import Mathlib.Tactic.Common

/-!
# What a registry offers

Asking a registry for adapters changes it: adapters are made and kept, factories are counted,
missing grammars are noted. What it offers for each extension does not change. This is its view: the
extensions in order, each with its language and with the adapter that is there or would be made, if
one can be made. Indexing a file keeps the view, and its outcome depends on nothing else.
-/

namespace CallAtlas

/-- What a registry has to offer where it is asked for an adapter. -/
inductive Offer where
  /-- An adapter that was made or would be made. -/
  | adapter (a : Adapter)
  /-- There is no adapter, or it cannot be made and this is logged. -/
  | nothing
  /-- The adapter cannot be made, and what is thrown instead has no text for the log. -/
  | unreported

/-- What asking gives where this is offered. -/
def Offer.answer : Offer → Except Thrown (Option Adapter)
  | adapter a => .ok (some a)
  | nothing => .ok none
  | unreported => .error .withoutText

/-- What an entry offers. -/
def RegistryEntry.offers (e : RegistryEntry) : Offer :=
  match e.made with
  | some i => .adapter i.adapter
  | none =>
    match e.factory with
    | .ok adapter => .adapter adapter
    | .error thrown => if thrown.text?.isSome then .nothing else .unreported

/-- The extensions in order, each with its language and with what is offered for it. -/
abbrev RegistryView := List (Text × Text × Offer)

namespace RegistryView

/-- What is offered for an extension. -/
def forExtension (v : RegistryView) (extension : Text) : Offer :=
  ((v.lookup extension.toLower).map Prod.snd).getD .nothing

/-- What is offered for a language: that of the first extension of the language. -/
def forLanguage (v : RegistryView) (languageId : Text) : Offer :=
  ((v.find? fun e => e.2.1 == languageId).map fun e => v.forExtension e.1).getD .nothing

/-- What is offered for a file: that of its extension, or of its language where it names another
one. -/
def forFile (v : RegistryView) (file : SourceFile) (path : Text) : Offer :=
  match v.forExtension (Path.extensionOf path), Index.statedLanguage file with
  | .unreported, _ => .unreported
  | byExtension, none => byExtension
  | .nothing, some language => v.forLanguage language
  | .adapter a, some language =>
    if a.languageId == language then .adapter a else v.forLanguage language

variable {v : RegistryView} {adapter : Adapter}

lemma exists_mem_of_forExtension {extension : Text}
    (h : v.forExtension extension = .adapter adapter) : ∃ e ∈ v, e.2.2 = .adapter adapter := by
  unfold forExtension at h
  cases hlookup : v.lookup extension.toLower with
  | none =>
    rw [hlookup] at h
    cases h
  | some e =>
    rw [hlookup] at h
    obtain ⟨before, after, rfl, -⟩ := List.lookup_eq_some_iff.mp hlookup
    exact ⟨_, List.mem_append_right before List.mem_cons_self, h⟩

lemma exists_mem_of_forLanguage {languageId : Text}
    (h : v.forLanguage languageId = .adapter adapter) : ∃ e ∈ v, e.2.2 = .adapter adapter := by
  unfold forLanguage at h
  cases hfind : v.find? fun e => e.2.1 == languageId with
  | none =>
    rw [hfind] at h
    cases h
  | some e =>
    rw [hfind] at h
    exact exists_mem_of_forExtension h

/-- The adapter of a file is one that is offered. -/
lemma exists_mem_of_forFile {file : SourceFile} {path : Text}
    (h : v.forFile file path = .adapter adapter) : ∃ e ∈ v, e.2.2 = .adapter adapter := by
  unfold forFile at h
  split at h
  · cases h
  · exact exists_mem_of_forExtension h
  · exact exists_mem_of_forLanguage h
  · next heq _ =>
    split at h
    · exact exists_mem_of_forExtension (heq.trans h)
    · exact exists_mem_of_forLanguage h

end RegistryView

namespace Registry

/-- What a registry offers. -/
def view (r : Registry) : RegistryView := r.entries.map fun e => (e.1, e.2.languageId, e.2.offers)

/-! ## Asking for adapters -/

/-- What is registered for an extension is what the view shows for it. -/
lemma lookup_view (entries : List (Text × RegistryEntry)) (key : Text) :
    (entries.map fun e => (e.1, e.2.languageId, e.2.offers)).lookup key
      = (entries.lookup key).map fun e => (e.languageId, e.offers) := by
  induction entries with
  | nil => rfl
  | cons e rest ih =>
    rw [List.map_cons, List.lookup_cons, List.lookup_cons, ih]
    split <;> rfl

/-- An entry may be replaced by one that offers the same. -/
lemma view_put {key : Text} {old new : RegistryEntry} {entries : List (Text × RegistryEntry)}
    (hold : entries.lookup key = some old) (hlanguage : new.languageId = old.languageId)
    (hoffers : new.offers = old.offers) :
    (put key new entries).map (fun e => (e.1, e.2.languageId, e.2.offers))
      = entries.map fun e => (e.1, e.2.languageId, e.2.offers) := by
  induction entries with
  | nil => cases hold
  | cons e rest ih =>
    rw [put]
    split
    · rename_i hkey
      rw [List.lookup_cons, hkey, beq_self_eq_true] at hold
      obtain rfl : e.2 = old := by simpa using hold
      rw [List.map_cons, List.map_cons, hlanguage, hoffers, hkey]
    · rename_i hkey
      rw [List.lookup_cons, show (key == e.1) = false from by simpa using Ne.symm hkey] at hold
      rw [List.map_cons, List.map_cons, ih hold]

/-- Asking for the adapter of an extension gives what the view shows and keeps the view. -/
theorem askExtension_spec (r : Registry) (extension : Text) :
    (r.askExtension extension).1.view = r.view
      ∧ (r.askExtension extension).2.1.map (Option.map AdapterInstance.adapter)
          = (r.view.forExtension extension).answer := by
  have hlookup : r.view.lookup extension.toLower
      = (r.entry? extension).map fun e => (e.languageId, e.offers) := lookup_view r.entries _
  rw [RegistryView.forExtension, hlookup, askExtension]
  cases hentry : r.entry? extension with
  | none => exact ⟨rfl, rfl⟩
  | some e =>
    simp only [Option.map_some, Option.getD_some]
    cases hmade : e.made with
    | some i => exact ⟨rfl, by rw [RegistryEntry.offers, hmade]; rfl⟩
    | none =>
      simp only
      -- An adapter that is made and kept is the one that was offered before.
      cases hfactory : e.factory with
      | ok adapter =>
        refine ⟨view_put hentry rfl ?_, ?_⟩ <;> simp only [RegistryEntry.offers, hmade, hfactory]
        rfl
      | error thrown =>
        cases htext : thrown.text? with
        | some message =>
          simp only [htext]
          refine ⟨view_put hentry rfl ?_, ?_⟩ <;>
            simp only [RegistryEntry.offers, hmade, hfactory, htext]
          rfl
        | none =>
          simp only [htext]
          refine ⟨view_put hentry rfl ?_, ?_⟩ <;>
            simp only [RegistryEntry.offers, hmade, hfactory, htext]
          rfl

/-- Asking for the adapter of a language gives what the view shows and keeps the view. -/
theorem askLanguage_spec (r : Registry) (languageId : Text) :
    (r.askLanguage languageId).1.view = r.view
      ∧ (r.askLanguage languageId).2.1.map (Option.map AdapterInstance.adapter)
          = (r.view.forLanguage languageId).answer := by
  have hfind : (r.view.find? fun e => e.2.1 == languageId)
      = (r.entries.find? fun e => e.2.languageId == languageId).map
          fun e => (e.1, e.2.languageId, e.2.offers) := by
    rw [view, List.find?_map]
    rfl
  rw [RegistryView.forLanguage, hfind, askLanguage]
  cases r.entries.find? fun e => e.2.languageId == languageId with
  | none => exact ⟨rfl, rfl⟩
  | some e => exact askExtension_spec r e.1

/-- Asking for a grammar keeps the view. -/
lemma requestGrammar_view (r : Registry) (adapter : Adapter) :
    (r.requestGrammar adapter).1.view = r.view := by
  unfold requestGrammar
  split
  · rfl
  · split <;> rfl

end Registry

namespace Index

/-- The outcome of a file with what is offered for it. -/
def outcomeWith (offer : Offer) (maxFileBytes : Number) (file : SourceFile) :
    Except Thrown FileOutcome :=
  let path := Path.normalize file.path
  match offer with
  | .adapter a => indexWith a maxFileBytes path file.content
  | .nothing => .ok (.failed (noAdapter file path))
  | .unreported => .error .withoutText

/-- The outcome of a file, as far as what a registry offers decides it. -/
def outcomeIn (v : RegistryView) (maxFileBytes : Number) (file : SourceFile) :
    Except Thrown FileOutcome :=
  outcomeWith (v.forFile file (Path.normalize file.path)) maxFileBytes file

/-- Asking for the adapter of a file gives what the view shows and keeps the view. -/
lemma adapterFor_spec (r : Registry) (file : SourceFile) (path : Text) :
    (adapterFor r file path).1.view = r.view
      ∧ (adapterFor r file path).2.1.map (Option.map AdapterInstance.adapter)
          = (r.view.forFile file path).answer := by
  obtain ⟨hview, hanswer⟩ := r.askExtension_spec (Path.extensionOf path)
  unfold adapterFor RegistryView.forFile
  rcases hask : r.askExtension (Path.extensionOf path) with ⟨r', answer, log⟩
  rw [hask] at hview hanswer
  -- A file that names a language may be one for the adapter of another extension.
  have hother := fun language => r'.askLanguage_spec language
  rw [show r'.view = r.view from hview] at hother
  cases hoffer : r.view.forExtension (Path.extensionOf path) with
  | unreported =>
    rw [hoffer] at hanswer
    cases answer with
    | ok byExtension => cases hanswer
    | error thrown => exact ⟨hview, hanswer⟩
  | nothing =>
    rw [hoffer] at hanswer
    rcases answer with thrown | ⟨⟩ | i
    · cases hanswer
    · cases statedLanguage file with
      | none => exact ⟨hview, hanswer⟩
      | some language => exact hother language
    · cases hanswer
  | adapter a =>
    rw [hoffer] at hanswer
    rcases answer with thrown | ⟨⟩ | i
    · cases hanswer
    · cases hanswer
    · obtain rfl : i.adapter = a := Option.some.inj (Except.ok.inj hanswer)
      cases statedLanguage file with
      | none => exact ⟨hview, hanswer⟩
      | some language =>
        simp only [Option.map_some, Option.getD_some]
        split
        · exact ⟨hview, hanswer⟩
        · exact hother language

/-- Indexing a file keeps what the registry offers, and this alone decides the outcome. -/
theorem indexFile_spec (r : Registry) (maxFileBytes : Number) (file : SourceFile) :
    (indexFile r maxFileBytes file).1.view = r.view
      ∧ (indexFile r maxFileBytes file).2.1 = outcomeIn r.view maxFileBytes file := by
  obtain ⟨hview, hanswer⟩ := adapterFor_spec r file (Path.normalize file.path)
  unfold outcomeIn outcomeWith indexFile
  dsimp only
  rcases hfor : adapterFor r file (Path.normalize file.path) with ⟨r', answer, log⟩
  rw [hfor] at hview hanswer
  cases hoffer : r.view.forFile file (Path.normalize file.path) with
  | unreported =>
    rw [hoffer] at hanswer
    cases answer with
    | ok i => cases hanswer
    | error thrown =>
      obtain rfl : thrown = .withoutText := Except.error.inj hanswer
      exact ⟨hview, rfl⟩
  | nothing =>
    rw [hoffer] at hanswer
    rcases answer with thrown | ⟨⟩ | i
    · cases hanswer
    · exact ⟨hview, rfl⟩
    · cases hanswer
  | adapter a =>
    rw [hoffer] at hanswer
    rcases answer with thrown | ⟨⟩ | i
    · cases hanswer
    · cases hanswer
    · obtain rfl : i.adapter = a := Option.some.inj (Except.ok.inj hanswer)
      refine ⟨?_, rfl⟩
      dsimp only
      split
      · exact hview
      · rw [Registry.requestGrammar_view]
        exact hview

/-! ## What adapters throw -/

/-- What a parser threw is thrown on if it tells that a shared resource is used up. Otherwise it
becomes a failure of the file, or another error takes its place because it has no text. -/
lemma settleThrown_cases (path : Text) (thrown : Thrown) :
    (thrown.isResourceExhaustion = true
        ∧ ∃ f, settleThrown path thrown = .error (.failure f) ∧ f.kind = .resource)
      ∨ thrown.isResourceExhaustion = false
        ∧ ((∃ message, thrown.text? = some message
              ∧ settleThrown path thrown
                  = .ok (.failed { path, kind := .parseFailure, message, line := lineOf thrown }))
            ∨ thrown.text? = none ∧ settleThrown path thrown = .error .withoutText) := by
  unfold settleThrown
  cases hexhausted : thrown.isResourceExhaustion with
  | true =>
    left
    cases thrown with
    | value v => cases hexhausted
    | failure f =>
      by_cases hkind : f.kind == .resource
      · exact ⟨rfl, f, if_pos hkind, eq_of_beq hkind⟩
      · exact ⟨rfl, _, if_neg hkind, rfl⟩
  | false =>
    right
    cases htext : thrown.text? with
    | some message => exact ⟨rfl, .inl ⟨message, rfl, rfl⟩⟩
    | none => exact ⟨rfl, .inr ⟨rfl, rfl⟩⟩

/-- The error that takes the place of a value without a text concerns one file only. -/
lemma isResourceExhaustion_withoutText : Thrown.withoutText.isResourceExhaustion = false := by
  decide

/-- What the adapter of a file throws, where the file has an adapter and is not too large. -/
def thrownIn (v : RegistryView) (maxFileBytes : Number) (file : SourceFile) : Option Thrown :=
  let path := Path.normalize file.path
  match v.forFile file path with
  | .nothing | .unreported => none
  | .adapter adapter =>
    if exceeds maxFileBytes file.content then none
    else
      match adapter.outline file.content path with
      | .ok _ => none
      | .error thrown => some thrown

/-- A file comes to an outcome, unless its adapter throws; then it comes to what this means. Where
the adapter cannot be made and this cannot be reported, asking for it throws. -/
lemma outcomeIn_cases (v : RegistryView) (maxFileBytes : Number) (file : SourceFile) :
    (thrownIn v maxFileBytes file = none
        ∧ ((∃ o, outcomeIn v maxFileBytes file = .ok o)
          ∨ outcomeIn v maxFileBytes file = .error .withoutText))
      ∨ ∃ t, thrownIn v maxFileBytes file = some t
          ∧ outcomeIn v maxFileBytes file = settleThrown (Path.normalize file.path) t := by
  unfold thrownIn outcomeIn outcomeWith
  dsimp only
  cases v.forFile file (Path.normalize file.path) with
  | nothing => exact .inl ⟨rfl, .inl ⟨_, rfl⟩⟩
  | unreported => exact .inl ⟨rfl, .inr rfl⟩
  | adapter adapter =>
    dsimp only
    rw [indexWith]
    by_cases hlarge : exceeds maxFileBytes file.content
    · rw [if_pos hlarge, if_pos hlarge]
      exact .inl ⟨rfl, .inl ⟨_, rfl⟩⟩
    · rw [if_neg hlarge, if_neg hlarge]
      cases adapter.outline file.content (Path.normalize file.path) with
      | ok outline => exact .inl ⟨rfl, .inl ⟨_, rfl⟩⟩
      | error thrown => exact .inr ⟨thrown, rfl, rfl⟩

variable {v : RegistryView} {maxFileBytes : Number} {file : SourceFile}

/-- What is thrown of a file is thrown by an adapter that is offered. -/
lemma exists_adapter_of_thrownIn {thrown : Thrown}
    (h : thrownIn v maxFileBytes file = some thrown) :
    ∃ e ∈ v, ∃ adapter, e.2.2 = .adapter adapter
      ∧ adapter.outline file.content (Path.normalize file.path) = .error thrown := by
  unfold thrownIn at h
  dsimp only at h
  split at h
  · cases h
  · cases h
  · next adapter hadapter =>
    obtain ⟨e, he, hoffers⟩ := v.exists_mem_of_forFile hadapter
    split at h
    · cases h
    · split at h
      · cases h
      · next hthrown =>
        cases h
        exact ⟨e, he, adapter, hoffers, hthrown⟩

/-! ## Outcomes speak of their file -/

/-- A file is not in the model if a parser threw. -/
lemma settleThrown_ne_indexed (path : Text) (thrown : Thrown) (p : Text) (m : FileModel) :
    settleThrown path thrown ≠ .ok (.indexed p m) := by
  intro h
  rcases settleThrown_cases path thrown with
    ⟨-, f, hsettled, -⟩ | ⟨-, ⟨message, -, hsettled⟩ | ⟨-, hsettled⟩⟩ <;>
    rw [hsettled] at h <;> cases h

/-- The failure is one of the file, and of its text. -/
lemma of_settleThrown_eq_failed {path : Text} {thrown : Thrown} {e : FileFailure}
    (h : settleThrown path thrown = .ok (.failed e)) : e.path = path ∧ e.kind = .parseFailure := by
  rcases settleThrown_cases path thrown with
    ⟨-, f, hsettled, -⟩ | ⟨-, ⟨message, -, hsettled⟩ | ⟨-, hsettled⟩⟩ <;>
    rw [hsettled] at h <;> cases h
  exact ⟨rfl, rfl⟩

/-- A file is in the model under its path in normal form, with the entry that is made of the outline
its adapter gives. -/
theorem exists_outline_of_outcomeIn_eq_indexed {path : Text} {m : FileModel}
    (h : outcomeIn v maxFileBytes file = .ok (.indexed path m)) :
    path = Path.normalize file.path ∧ ∃ adapter outline, v.forFile file path = .adapter adapter
      ∧ adapter.outline file.content path = .ok outline
      ∧ m = entryOf adapter path file.content outline := by
  unfold outcomeIn at h
  cases hadapter : v.forFile file (Path.normalize file.path) with
  | unreported =>
    rw [hadapter] at h
    cases h
  | nothing =>
    rw [hadapter] at h
    cases h
  | adapter adapter =>
    rw [hadapter] at h
    unfold outcomeWith indexWith at h
    simp only at h
    split at h
    · cases h
    · split at h
      · next outline houtline =>
        cases h
        exact ⟨rfl, adapter, outline, hadapter, houtline, rfl⟩
      · exact absurd h (settleThrown_ne_indexed _ _ _ _)

lemma path_of_outcomeIn_eq_indexed {path : Text} {m : FileModel}
    (h : outcomeIn v maxFileBytes file = .ok (.indexed path m)) :
    path = Path.normalize file.path :=
  (exists_outline_of_outcomeIn_eq_indexed h).1

/-- A file fails under its path in normal form, because there is no adapter or because of its
text. -/
theorem of_outcomeIn_eq_failed {e : FileFailure}
    (h : outcomeIn v maxFileBytes file = .ok (.failed e)) :
    e.path = Path.normalize file.path
      ∧ (e.kind = .unsupportedLanguage ∨ e.kind = .parseFailure) := by
  unfold outcomeIn at h
  cases hadapter : v.forFile file (Path.normalize file.path) with
  | unreported =>
    rw [hadapter] at h
    cases h
  | nothing =>
    rw [hadapter] at h
    cases h
    exact ⟨rfl, .inl rfl⟩
  | adapter adapter =>
    rw [hadapter] at h
    unfold outcomeWith indexWith at h
    simp only at h
    split at h
    · cases h
      exact ⟨rfl, .inr rfl⟩
    · split at h
      · cases h
      · obtain ⟨hpath, hkind⟩ := of_settleThrown_eq_failed h
        exact ⟨hpath, .inr hkind⟩

end Index

end CallAtlas
