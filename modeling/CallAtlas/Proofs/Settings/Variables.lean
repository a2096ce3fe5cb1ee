import CallAtlas.Proofs.Settings.Placeholders
import CallAtlas.Settings.Basic

/-!
# What becomes of the placeholders in a document

A document is expanded if the variables of all placeholders in its strings have a value; otherwise
the first one without a value is told. Every string is then filled with the values, and the rest
stays as it was, but for two things: an object hands its members on to the object in which it is the
member `__proto__`, and a name that is not set may have a value that every table of names inherits.
-/

namespace CallAtlas

/-! ## Going through documents -/

namespace Json

section

variable {α : Type} (atom : Json → α) (string : Text → α) (array : List α → α)
  (object : List (Text × α) → α)

mutual

/-- What comes of a document from what comes of its elements and of the values of its members. -/
def fold : Json → α
  | .str s => string s
  | .arr es => array (foldElements es)
  | .obj ms => object (foldMembers ms)
  | j => atom j

/-- What comes of elements, one by one. -/
def foldElements : List Json → List α
  | [] => []
  | e :: es => fold e :: foldElements es

/-- What comes of the values of members, each under its name. -/
def foldMembers : List (Text × Json) → List (Text × α)
  | [] => []
  | (name, value) :: ms => (name, fold value) :: foldMembers ms

end

variable {atom string array object}

lemma fold_arr (es : List Json) :
    fold atom string array object (.arr es) = array (es.map (fold atom string array object)) := by
  rw [fold]
  congr 1
  induction es with
  | nil => rfl
  | cons e es ih => rw [foldElements, ih, List.map_cons]

lemma fold_obj (ms : List (Text × Json)) :
    fold atom string array object (.obj ms)
      = object (ms.map fun m => (m.1, fold atom string array object m.2)) := by
  rw [fold]
  congr 1
  induction ms with
  | nil => rfl
  | cons m ms ih => rw [foldMembers, ih, List.map_cons]

end

lemma sizeOf_snd_lt {ms : List (Text × Json)} {m : Text × Json} (hm : m ∈ ms) :
    sizeOf m.2 < sizeOf ms := by
  obtain ⟨name, value⟩ := m
  have hlt := List.sizeOf_lt_of_mem hm
  rw [Prod.mk.sizeOf_spec] at hlt
  change sizeOf value < sizeOf ms
  omega

/-- What holds of a document as soon as it holds of its elements and of the values of its members
holds of all documents. -/
theorem induction_parts {P : Json → Prop} (null : P .null) (bool : ∀ b, P (.bool b))
    (num : ∀ n, P (.num n)) (infinite : ∀ b, P (.infinite b)) (str : ∀ s, P (.str s))
    (arr : ∀ es, (∀ e ∈ es, P e) → P (.arr es))
    (obj : ∀ ms, (∀ m ∈ ms, P (Prod.snd m)) → P (.obj ms)) : ∀ j, P j
  | .null => null
  | .bool b => bool b
  | .num n => num n
  | .infinite b => infinite b
  | .str s => str s
  | .arr es => arr es fun e _ => induction_parts null bool num infinite str arr obj e
  | .obj ms => obj ms fun m hm =>
    have := sizeOf_snd_lt hm
    induction_parts null bool num infinite str arr obj m.2

/-- The strings of a document in the order in which it is gone through. -/
def texts : Json → List Text :=
  fold (fun _ => []) (fun s => [s]) List.flatten fun ms => ms.flatMap Prod.snd

/-- The names of the members of all objects in a document. -/
def keys : Json → List Text :=
  fold (fun _ => []) (fun _ => []) List.flatten fun ms => ms.flatMap fun m => m.1 :: m.2

/-- The document with other texts in its strings and everything else as it is. -/
def mapTexts (f : Text → Text) : Json → Json := fold id (fun s => .str (f s)) .arr .obj

section

variable {f g : Text → Text} {j : Json}

lemma texts_arr (es : List Json) : (arr es).texts = es.flatMap texts := fold_arr es

lemma texts_obj (ms : List (Text × Json)) : (obj ms).texts = ms.flatMap fun m => m.2.texts := by
  rw [texts, fold_obj, List.flatMap_map]

lemma keys_arr (es : List Json) : (arr es).keys = es.flatMap keys := fold_arr es

lemma keys_obj (ms : List (Text × Json)) :
    (obj ms).keys = ms.flatMap fun m => m.1 :: m.2.keys := by
  rw [keys, fold_obj, List.flatMap_map]

lemma mapTexts_arr (f : Text → Text) (es : List Json) :
    (arr es).mapTexts f = .arr (es.map (mapTexts f)) := fold_arr es

lemma mapTexts_obj (f : Text → Text) (ms : List (Text × Json)) :
    (obj ms).mapTexts f = .obj (ms.map fun m => (m.1, m.2.mapTexts f)) := fold_obj ms

/-- The names of all members are kept. -/
lemma keys_mapTexts (f : Text → Text) (j : Json) : (j.mapTexts f).keys = j.keys := by
  induction j using induction_parts with
  | null | bool | num | infinite | str => rfl
  | arr es ih =>
    rw [mapTexts_arr, keys_arr, keys_arr, List.flatMap_map]
    exact List.flatMap_congr ih
  | obj ms ih =>
    rw [mapTexts_obj, keys_obj, keys_obj, List.flatMap_map]
    exact List.flatMap_congr fun m hm => congrArg (m.1 :: ·) (ih m hm)

/-- Only the texts that occur in a document count. -/
lemma mapTexts_congr (h : ∀ t ∈ j.texts, f t = g t) : j.mapTexts f = j.mapTexts g := by
  induction j using induction_parts with
  | null | bool | num | infinite => rfl
  | str s => exact congrArg str (h s List.mem_cons_self)
  | arr es ih =>
    rw [texts_arr, List.forall_mem_flatMap] at h
    rw [mapTexts_arr, mapTexts_arr]
    exact congrArg arr (List.map_congr_left fun e he => ih e he (h e he))
  | obj ms ih =>
    rw [texts_obj, List.forall_mem_flatMap] at h
    rw [mapTexts_obj, mapTexts_obj]
    exact congrArg obj (List.map_congr_left fun m hm =>
      congrArg (m.1, ·) (ih m hm (h m hm)))

/-- The members of an object are among its keys with all that is below them. -/
lemma mem_keys_of_mem_members {m : Text × Json} {k : Text} (hm : m ∈ j.members)
    (hk : k ∈ m.1 :: m.2.keys) : k ∈ j.keys := by
  cases j with
  | obj ms =>
    rw [keys_obj]
    exact List.mem_flatMap.mpr ⟨m, hm, hk⟩
  | _ => exact absurd hm List.not_mem_nil

lemma mapTexts_id (j : Json) : j.mapTexts id = j := by
  induction j using induction_parts with
  | null | bool | num | infinite | str => rfl
  | arr es ih =>
    rw [mapTexts_arr]
    exact congrArg arr ((List.map_congr_left ih).trans (List.map_id es))
  | obj ms ih =>
    rw [mapTexts_obj]
    exact congrArg obj
      ((List.map_congr_left fun m hm => congrArg (m.1, ·) (ih m hm)).trans (List.map_id ms))

lemma mapTexts_eq_self (h : ∀ t ∈ j.texts, f t = t) : j.mapTexts f = j :=
  (mapTexts_congr h).trans (mapTexts_id j)

end

end Json

namespace Variables

/-! ## Documents that are expanded -/

/-- The names in the placeholders of a document, in the order in which it is gone through. -/
def namesIn (j : Json) : List Text := j.texts.flatMap names

/-- The first of them without a value. -/
def firstUnset (env : Values) (j : Json) : Option Text :=
  (namesIn j).find? fun n => (env n).isNone

/-- The expansion of a document by the book: its strings are filled and everything else is kept,
unless a variable has no value. -/
def expansion (env : Values) (j : Json) : Except Unset Json :=
  outcome env (namesIn j) (j.mapTexts (filled env))

/-- The document as its readers see it: an object has the members of the objects that it inherits
from, and no member for them. -/
def settled : Json → Json := Json.fold id .str .arr fun ms => .obj (withInherited ms)

variable {env env' : Values} {j raw : Json} {e : Environment}

lemma settled_arr (es : List Json) : settled (.arr es) = .arr (es.map settled) := Json.fold_arr es

lemma settled_obj (ms : List (Text × Json)) :
    settled (.obj ms) = .obj (withInherited (ms.map fun m => (m.1, settled m.2))) :=
  Json.fold_obj ms

lemma namesIn_arr (es : List Json) : namesIn (.arr es) = es.flatMap namesIn := by
  rw [namesIn, Json.texts_arr, List.flatMap_assoc]
  rfl

lemma namesIn_obj (ms : List (Text × Json)) :
    namesIn (.obj ms) = ms.flatMap fun m => namesIn m.2 := by
  rw [namesIn, Json.texts_obj, List.flatMap_assoc]
  rfl

/-! ### What the expansion does -/

lemma expandElements_cons (env : Values) (j : Json) (es : List Json) :
    expandElements env (j :: es)
      = (expand env j).bind fun v => (expandElements env es).map (v :: ·) := by
  rw [expandElements]
  cases expand env j with
  | error u => rfl
  | ok v => rfl

lemma expandMembers_cons (env : Values) (m : Text × Json) (ms : List (Text × Json)) :
    expandMembers env (m :: ms)
      = (expand env m.2).bind fun v => (expandMembers env ms).map ((m.1, v) :: ·) := by
  rw [expandMembers]
  cases expand env m.2 with
  | error u => rfl
  | ok v => rfl

/-- What is known of the expansion of each element is known of that of all. -/
lemma expandElements_eq (value : Json → Json) {es : List Json}
    (h : ∀ e ∈ es, expand env e = outcome env (namesIn e) (value e)) :
    expandElements env es = outcome env (es.flatMap namesIn) (es.map value) := by
  induction es with
  | nil => rfl
  | cons e es ih =>
    obtain ⟨he, hes⟩ := List.forall_mem_cons.mp h
    rw [expandElements_cons, he, ih hes, List.flatMap_cons, List.map_cons]
    exact bind_outcome List.cons _ _

lemma expandMembers_eq (value : Json → Json) {ms : List (Text × Json)}
    (h : ∀ m ∈ ms, expand env m.2 = outcome env (namesIn m.2) (value m.2)) :
    expandMembers env ms
      = outcome env (ms.flatMap fun m => namesIn m.2) (ms.map fun m => (m.1, value m.2)) := by
  induction ms with
  | nil => rfl
  | cons m ms ih =>
    obtain ⟨hm, hms⟩ := List.forall_mem_cons.mp h
    rw [expandMembers_cons, hm, ih hms, List.flatMap_cons, List.map_cons]
    exact bind_outcome (fun v => List.cons (m.1, v)) _ _

/-- The expansion of a document is the one by the book, as the readers of the document see it. -/
theorem expand_eq (env : Values) (j : Json) : expand env j = (expansion env j).map settled := by
  rw [expansion, map_outcome]
  induction j using Json.induction_parts with
  | null | bool | num | infinite => rfl
  | str s =>
    rw [expand, expandText_eq, map_outcome]
    exact congrArg (outcome env · _) (List.append_nil _).symm
  | arr es ih =>
    rw [expand, expandElements_eq (fun e => settled (e.mapTexts (filled env))) ih, map_outcome,
      namesIn_arr, Json.mapTexts_arr, settled_arr, List.map_map]
    rfl
  | obj ms ih =>
    rw [expand, expandMembers_eq (fun v => settled (v.mapTexts (filled env))) ih, map_outcome,
      namesIn_obj, Json.mapTexts_obj, settled_obj, List.map_map]
    rfl

/-! ### Documents in which nothing is inherited -/

/-- Members none of which is inherited from stay as they are. -/
lemma withInherited_eq_self {ms : List (Text × Json)} (h : ∀ m ∈ ms, m.1 ≠ parentName) :
    withInherited ms = ms := by
  have hown : ms.filter (fun m => m.1 ≠ parentName) = ms :=
    List.filter_eq_self.mpr fun m hm => decide_eq_true (h m hm)
  have hnone : ms.filter (fun m => m.1 = parentName) = [] :=
    List.filter_eq_nil_iff.mpr fun m hm => by simpa using h m hm
  rw [withInherited, hown, hnone, List.flatMap_nil, List.append_nil]

/-- Where no member of any object is inherited from the document is what its readers see. -/
lemma settled_eq_self (h : parentName ∉ j.keys) : settled j = j := by
  induction j using Json.induction_parts with
  | null | bool | num | infinite | str => rfl
  | arr es ih =>
    rw [Json.keys_arr, List.mem_flatMap, not_exists] at h
    have hes : es.map settled = es.map id :=
      List.map_congr_left fun e he => ih e he fun hkey => h e ⟨he, hkey⟩
    rw [settled_arr, hes, List.map_id]
  | obj ms ih =>
    rw [Json.keys_obj, List.mem_flatMap, not_exists] at h
    have hms : ms.map (fun m => (m.1, settled m.2)) = ms.map id :=
      List.map_congr_left fun m hm =>
        congrArg (m.1, ·) (ih m hm fun hkey => h m ⟨hm, List.mem_cons_of_mem _ hkey⟩)
    rw [settled_obj, hms, List.map_id, withInherited_eq_self]
    exact fun m hm heq => h m ⟨hm, heq ▸ List.mem_cons_self⟩

lemma mem_withInherited {ms : List (Text × Json)} {m : Text × Json} :
    m ∈ withInherited ms
      ↔ (m ∈ ms ∧ m.1 ≠ parentName) ∨ ∃ p ∈ ms, p.1 = parentName ∧ m ∈ p.2.members := by
  rw [withInherited, List.mem_append, List.mem_filter, List.mem_flatMap, decide_eq_true_eq]
  simp only [List.mem_filter, decide_eq_true_eq, and_assoc]

/-- The readers of a document see no member that is inherited from. -/
lemma parentName_notMem_keys_settled (j : Json) : parentName ∉ (settled j).keys := by
  induction j using Json.induction_parts with
  | null | bool | num | infinite | str => exact List.not_mem_nil
  | arr es ih =>
    rw [settled_arr, Json.keys_arr, List.flatMap_map, List.mem_flatMap]
    rintro ⟨e, he, hkey⟩
    exact ih e he hkey
  | obj ms ih =>
    rw [settled_obj, Json.keys_obj, List.mem_flatMap]
    rintro ⟨m, hm, hkey⟩
    rcases mem_withInherited.mp hm with ⟨hown, hname⟩ | ⟨p, hp, -, hinherited⟩
    -- A member of its own, or one of an object that is settled already.
    · obtain ⟨n, hn, rfl⟩ := List.mem_map.mp hown
      exact (List.mem_cons.mp hkey).elim (fun heq => hname heq.symm) (ih n hn)
    · obtain ⟨n, hn, rfl⟩ := List.mem_map.mp hp
      exact ih n hn (Json.mem_keys_of_mem_members hinherited hkey)

theorem settled_eq_self_iff : settled j = j ↔ parentName ∉ j.keys :=
  ⟨fun h => h ▸ parentName_notMem_keys_settled j, settled_eq_self⟩

/-! ### The expansion in an environment -/

/-- A document without placeholders is kept, unless some object in it inherits. -/
lemma expand_of_namesIn_eq_nil (h : namesIn raw = []) :
    expand env raw = .ok raw ↔ parentName ∉ raw.keys := by
  have hnames : ∀ t ∈ raw.texts, names t = [] := List.flatMap_eq_nil_iff.mp h
  have hkept : raw.mapTexts (filled env) = raw :=
    Json.mapTexts_eq_self fun t ht => filled_of_names_eq_nil (hnames t ht)
  have hok : (outcome env [] raw).map settled = .ok (settled raw) := rfl
  rw [expand_eq, expansion, h, hkept, hok, Except.ok.injEq, settled_eq_self_iff]

lemma expansion_of_firstUnset_eq_none (h : firstUnset env j = none) :
    expansion env j = .ok (j.mapTexts (filled env)) := by
  unfold firstUnset at h
  rw [expansion, outcome, h]

lemma mapTexts_filled_congr (h : ∀ n ∈ namesIn j, env n = env' n) :
    j.mapTexts (filled env) = j.mapTexts (filled env') :=
  Json.mapTexts_congr fun t ht =>
    filled_congr fun n hn => h n (List.mem_flatMap.mpr ⟨t, ht, hn⟩)

/-- A variable that is set has its own value, whatever is inherited under its name. -/
lemma value?_of_isSome {n : Text} (h : (e.set? n).isSome) : e.value? n = e.set? n := by
  obtain ⟨v, hv⟩ := Option.isSome_iff_exists.mp h
  rw [Environment.value?, hv, Option.some_or]

/-- The first name that is not set is the first one without a value, unless something is inherited
under it. -/
lemma firstUnset_value?_eq_some_iff {n : Text} (h : firstUnset e.set? raw = some n) :
    firstUnset e.value? raw = some n ↔ Environment.inherited? n = none := by
  obtain ⟨hn, before, behind, hnames, hbefore⟩ := List.find?_eq_some_iff_append.mp h
  have hset : e.set? n = none := Option.isNone_iff_eq_none.mp hn
  have hvalue : (e.value? n).isNone ↔ Environment.inherited? n = none := by
    rw [Environment.value?, hset, Option.none_or, Option.isNone_iff_eq_none]
  constructor
  · intro hfirst
    have hnone : (e.value? n).isNone := List.find?_some (p := fun m => (e.value? m).isNone) hfirst
    exact hvalue.mp hnone
  · intro hinherited
    refine List.find?_eq_some_iff_append.mpr ⟨hvalue.mpr hinherited, before, behind, hnames, ?_⟩
    intro m hm
    have hm' : (e.set? m).isSome := by simpa using hbefore m hm
    rw [value?_of_isSome hm']
    exact hbefore m hm

/-- The expansion with the values that are found under names is the one by the book with the
variables that are set exactly if nothing is inherited under the first name that is not set and,
where all of them are set, no object inherits. -/
theorem expand_value?_eq_iff (e : Environment) (raw : Json) :
    expand e.value? raw = expansion e.set? raw ↔
      (∀ n, firstUnset e.set? raw = some n → Environment.inherited? n = none)
      ∧ (firstUnset e.set? raw = none → parentName ∉ raw.keys) := by
  rw [expand_eq]
  cases hfirst : firstUnset e.set? raw with
  | some n =>
    -- By the book this name is told; it is told unless a value is inherited under it.
    have hbook : expansion e.set? raw = .error ⟨n⟩ := outcome_eq_error_iff.mpr hfirst
    have hmap : (expansion e.value? raw).map settled = .error ⟨n⟩
        ↔ firstUnset e.value? raw = some n := by
      rw [expansion, map_outcome]
      exact outcome_eq_error_iff
    rw [hbook, hmap, firstUnset_value?_eq_some_iff hfirst]
    constructor
    · exact fun h => ⟨fun m hm => Option.some.inj hm ▸ h, fun hnone => (nomatch hnone)⟩
    · exact fun h => h.1 n rfl
  | none =>
    -- All names are set, so both sides fill the strings alike and differ only by inherited members.
    have hset : ∀ n ∈ namesIn raw, (e.set? n).isSome := by
      simpa [firstUnset, List.find?_eq_none, Option.isSome_iff_ne_none] using hfirst
    have hvalue : ∀ n ∈ namesIn raw, e.value? n = e.set? n :=
      fun n hn => value?_of_isSome (hset n hn)
    have hfound : firstUnset e.value? raw = none := by
      refine List.find?_eq_none.mpr fun n hn => ?_
      rw [hvalue n hn]
      exact List.find?_eq_none.mp hfirst n hn
    rw [expansion_of_firstUnset_eq_none hfirst, expansion_of_firstUnset_eq_none hfound,
      mapTexts_filled_congr hvalue, Except.map, Except.ok.injEq, settled_eq_self_iff,
      Json.keys_mapTexts]
    constructor
    · exact fun h => ⟨fun n hn => (nomatch hn), fun _ => h⟩
    · exact fun h => h.2 rfl

end Variables

namespace Settings

open Variables

/-- What the settings of a document with placeholders come from. -/
structure ExpandsVariables (e : Environment) (raw : Json) : Prop where
  /-- Placeholders are read from the left, each as a whole. -/
  reads_iff : ∀ t ps, Reads t ps ↔ ps = parts t
  /-- The strings are filled and the rest is kept, or the first variable without a value is told.
  What the readers of the result see are also the members that an object inherits. -/
  expand_eq : expand e.value? raw = (expansion e.value? raw).map settled
  /-- The result is that of the variables that are set, and no member is lost, exactly if nothing is
  inherited: not under the first name that is not set, nor by an object. -/
  expand_eq_iff : expand e.value? raw = expansion e.set? raw ↔
    (∀ n, firstUnset e.set? raw = some n → Environment.inherited? n = none)
    ∧ (firstUnset e.set? raw = none → parentName ∉ raw.keys)
  /-- A document without placeholders in which no object inherits is kept. -/
  expand_eq_ok_iff : namesIn raw = [] → (expand e.value? raw = .ok raw ↔ parentName ∉ raw.keys)
  /-- A variable without a value is an error of the settings that names it; otherwise the result is
  validated. -/
  parse_eq : ∀ defaultConcurrency source, parse e.value? defaultConcurrency raw source
    = ((expansion e.value? raw).mapError fun u => configFailure u.message).bind fun j =>
        validate defaultConcurrency (settled j) source

/-- Before the settings of a document are validated its placeholders are replaced. -/
theorem expandsVariables (e : Environment) (raw : Json) : ExpandsVariables e raw where
  reads_iff _ _ := reads_iff
  expand_eq := Variables.expand_eq e.value? raw
  expand_eq_iff := expand_value?_eq_iff e raw
  expand_eq_ok_iff := expand_of_namesIn_eq_nil
  parse_eq defaultConcurrency source := by
    rw [parse, Variables.expand_eq]
    cases expansion e.value? raw with
    | error u => rfl
    | ok j => rfl

/-- An object whose only member is inherited from; there are no placeholders in it. -/
def inheriting : Json := .obj [(parentName, .object [("logLevel", ("debug" : Json))])]

/-- A placeholder for a name that is not set and under which every table of names inherits a
value. -/
def referring : Json := .object [("output", .object [("path", ("a$\x7b__proto__\x7db" : Json))])]

/-- A level is taken from an object that is inherited from, and a name that is not set is no error
where a value is inherited under it. -/
theorem expand_value?_ne_expansion :
    namesIn inheriting = []
    ∧ expand (Environment.value? {}) inheriting ≠ expansion (Environment.set? {}) inheriting
    ∧ (parse (Environment.value? {}) 4 inheriting inlineSource).toOption.map logLevel = some .debug
    ∧ (validate 4 inheriting inlineSource).toOption.map logLevel = some .info
    ∧ firstUnset (Environment.set? {}) referring = some (Text.ofString "__proto__")
    ∧ expand (Environment.value? {}) referring ≠ expansion (Environment.set? {}) referring
    ∧ (parse (Environment.value? {}) 4 referring inlineSource).toOption.map outputPath
        = some (Text.ofString "a[object Object]b") := by
  have hnames : namesIn inheriting = [] := by decide +kernel
  have hunset : firstUnset (Environment.set? {}) referring = some (Text.ofString "__proto__") := by
    decide +kernel
  refine ⟨hnames, ?_, by decide +kernel, by decide +kernel, hunset, ?_, by decide +kernel⟩
  · intro heq
    have hset : firstUnset (Environment.set? {}) inheriting = none := by decide +kernel
    exact ((expand_value?_eq_iff {} inheriting).mp heq).2 hset (by decide +kernel)
  · intro heq
    have hnone := ((expand_value?_eq_iff {} referring).mp heq).1 _ hunset
    exact absurd hnone (by decide +kernel)

end Settings

end CallAtlas
