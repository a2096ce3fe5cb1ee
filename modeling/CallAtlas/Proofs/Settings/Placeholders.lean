import CallAtlas.Settings.Variables
import Mathlib.Data.List.Basic
import Mathlib.Data.List.TakeWhile
import Mathlib.Tactic.Common

/-!
# The placeholders of a text

A text is read from the left into placeholders and units that stand for themselves: where a
placeholder begins it is read as a whole, up to the first closing brace, so that none lies in
another one. There is one such reading of each text. The values of the variables are put in the
places of the placeholders, unless one of the variables has no value; then the first of them is
told.
-/

namespace CallAtlas

namespace Variables

/-! ## The parts of a text -/

/-- The name in a placeholder is not empty and holds no closing brace. -/
def IsName (name : Text) : Prop := name ≠ [] ∧ Text.unit '\x7d' ∉ name

/-- What stands behind the dollar sign of a placeholder. -/
def braced (name : Text) : Text := Text.unit '\x7b' :: (name ++ [Text.unit '\x7d'])

/-- The placeholder for a variable. -/
def placeholder (name : Text) : Text := Text.unit '$' :: braced name

/-- A part of a text: a unit that stands for itself, or the placeholder for a variable. -/
inductive Part where
  | plain (u : CodeUnit)
  | reference (name : Text)
deriving DecidableEq

namespace Part

/-- A part as it is written. -/
def written : Part → Text
  | plain u => [u]
  | reference name => placeholder name

/-- The name in a placeholder. -/
def name? : Part → Option Text
  | plain _ => none
  | reference name => some name

/-- What is put in the place of a part. -/
def value (env : Values) : Part → Text
  | plain u => [u]
  | reference name => (env name).getD []

end Part

/-- A text is read from the left. Where a placeholder begins it is read as a whole, and elsewhere a
unit stands for itself. -/
inductive Reads : Text → List Part → Prop
  | nil : Reads [] []
  | plain {u : CodeUnit} {t : Text} {ps : List Part}
      (hnone : ∀ name, IsName name → ¬ placeholder name <+: u :: t) (h : Reads t ps) :
      Reads (u :: t) (.plain u :: ps)
  | reference {name t : Text} {ps : List Part} (hname : IsName name) (h : Reads t ps) :
      Reads (placeholder name ++ t) (.reference name :: ps)

/-- The parts of a text. `skip` units of it belong to a placeholder that was read already. -/
def partsFrom (skip : Nat) : Text → List Part
  | [] => []
  | u :: rest =>
    match skip with
    | n + 1 => partsFrom n rest
    | 0 =>
      match if u = Text.unit '$' then placeholder? rest else none with
      | none => .plain u :: partsFrom 0 rest
      | some name => .reference name :: partsFrom (name.length + 2) rest

/-- The parts of a whole text. -/
def parts (t : Text) : List Part := partsFrom 0 t

/-- The names in the placeholders of a text, from left to right. -/
def names (t : Text) : List Text := (parts t).filterMap Part.name?

/-- The text with the values of the variables in the places of the placeholders. -/
def filled (env : Values) (t : Text) : Text := (parts t).flatMap (Part.value env)

variable {env env' : Values} {u : CodeUnit} {name t : Text} {ps : List Part}

/-- What stands before the first closing brace of a text. -/
lemma takeWhile_append_close (hname : Text.unit '\x7d' ∉ name) (t : Text) :
    (name ++ Text.unit '\x7d' :: t).takeWhile (fun v => v ≠ Text.unit '\x7d') = name := by
  rw [List.takeWhile_append_of_pos, List.takeWhile_cons_of_neg, List.append_nil]
  · exact Bool.eq_false_iff.mp (decide_eq_false (not_not_intro rfl))
  · exact fun v hv => decide_eq_true fun heq => hname (heq ▸ hv)

/-- A text that does not end before a closing brace holds one. -/
lemma exists_of_length_takeWhile
    (h : (t.takeWhile fun v => v ≠ Text.unit '\x7d').length ≠ t.length) :
    ∃ s, t = t.takeWhile (fun v => v ≠ Text.unit '\x7d') ++ Text.unit '\x7d' :: s := by
  induction t with
  | nil => exact absurd rfl h
  | cons u t ih =>
    by_cases hu : u = Text.unit '\x7d'
    · refine ⟨t, ?_⟩
      rw [List.takeWhile_cons_of_neg (by simpa using hu), List.nil_append, hu]
    · rw [List.takeWhile_cons_of_pos (by simpa using hu)] at h ⊢
      obtain ⟨s, hs⟩ := ih fun heq => h (congrArg (· + 1) heq)
      exact ⟨s, congrArg (u :: ·) hs⟩

lemma placeholder?_braced_append (hname : IsName name) (t : Text) :
    placeholder? (braced name ++ t) = some name := by
  obtain ⟨hne, hclose⟩ := hname
  rw [braced, List.cons_append, List.append_assoc, List.singleton_append, placeholder?, if_pos rfl]
  simp only [takeWhile_append_close hclose]
  rw [if_neg]
  rw [Bool.or_eq_true, not_or, decide_eq_true_eq, decide_eq_true_eq, List.length_append,
    List.length_cons]
  exact ⟨hne, by omega⟩

lemma isName_and_prefix_of_placeholder? (h : placeholder? t = some name) :
    IsName name ∧ braced name <+: t := by
  cases t with
  | nil => cases h
  | cons u t =>
    rw [placeholder?] at h
    split at h
    · next hopen =>
      simp only at h
      split at h
      · cases h
      · next hname =>
        obtain rfl := Option.some.inj h
        rw [Bool.or_eq_true, not_or, decide_eq_true_eq, decide_eq_true_eq] at hname
        obtain ⟨s, hs⟩ := exists_of_length_takeWhile hname.2
        refine ⟨⟨hname.1, fun hclose => ?_⟩, s, ?_⟩
        · simpa using List.mem_takeWhile_imp hclose
        · rw [braced, hopen, List.cons_append, List.append_assoc, List.singleton_append, ← hs]
    · cases h

lemma placeholder?_eq_some_iff :
    placeholder? t = some name ↔ IsName name ∧ braced name <+: t := by
  constructor
  · exact isName_and_prefix_of_placeholder?
  · rintro ⟨hname, s, rfl⟩
    exact placeholder?_braced_append hname s

/-- Where a text is looked at, a placeholder is found exactly if one begins there. -/
lemma opens_eq_some_iff :
    (if u = Text.unit '$' then placeholder? t else none) = some name
      ↔ IsName name ∧ placeholder name <+: u :: t := by
  rw [placeholder, List.cons_prefix_cons, and_left_comm, ← placeholder?_eq_some_iff]
  by_cases hu : u = Text.unit '$'
  · rw [if_pos hu, and_iff_right hu.symm]
  · rw [if_neg hu]
    exact ⟨fun h => (nomatch h), fun h => absurd h.1.symm hu⟩

lemma partsFrom_eq (skip : Nat) (t : Text) : partsFrom skip t = parts (t.drop skip) := by
  induction t generalizing skip with
  | nil =>
    rw [List.drop_nil]
    rfl
  | cons u t ih =>
    cases skip with
    | zero => rfl
    | succ n => exact ih n

lemma parts_cons (hnone : ∀ name, IsName name → ¬ placeholder name <+: u :: t) :
    parts (u :: t) = .plain u :: parts t := by
  have hopens : (if u = Text.unit '$' then placeholder? t else none) = none := by
    rw [Option.eq_none_iff_forall_ne_some]
    intro name h
    obtain ⟨hname, hprefix⟩ := opens_eq_some_iff.mp h
    exact hnone name hname hprefix
  rw [parts, partsFrom, hopens]
  rfl

lemma parts_placeholder (hname : IsName name) (t : Text) :
    parts (placeholder name ++ t) = .reference name :: parts t := by
  have hdrop : (braced name ++ t).drop (name.length + 2) = t :=
    List.drop_left' (by rw [braced, List.length_cons, List.length_append, List.length_singleton])
  rw [placeholder, List.cons_append, parts, partsFrom, if_pos rfl,
    placeholder?_braced_append hname]
  simp only
  rw [partsFrom_eq, hdrop]

/-- Every text can be read. -/
lemma reads_parts (t : Text) : Reads t (parts t) := by
  -- A placeholder is read as a whole, so the induction is on the length of what is left.
  induction hlen : t.length using Nat.strong_induction_on generalizing t with
  | h n ih =>
    subst hlen
    by_cases hbegins : ∃ name, IsName name ∧ placeholder name <+: t
    · obtain ⟨name, hname, s, rfl⟩ := hbegins
      rw [parts_placeholder hname]
      refine .reference hname (ih s.length ?_ s rfl)
      rw [List.length_append, placeholder, List.length_cons]
      omega
    · cases t with
      | nil => exact .nil
      | cons u t =>
        have hnone : ∀ name, IsName name → ¬ placeholder name <+: u :: t :=
          fun name hname hprefix => hbegins ⟨name, hname, hprefix⟩
        rw [parts_cons hnone]
        exact .plain hnone (ih t.length (Nat.lt_succ_self _) t rfl)

/-- A text can be read in one way only. -/
theorem reads_iff : Reads t ps ↔ ps = parts t := by
  constructor
  · intro h
    induction h with
    | nil => rfl
    | plain hnone _ ih => rw [parts_cons hnone, ih]
    | reference hname _ ih => rw [parts_placeholder hname, ih]
  · rintro rfl
    exact reads_parts t

/-- A brace that is opened in a placeholder belongs to its name, and an empty name is none. -/
example : names (Text.ofString "$\x7b\x7d$\x7ba$\x7bb\x7dc\x7d") = [Text.ofString "a$\x7bb"] := by
  decide

/-- The parts of a text make up the text. -/
lemma flatMap_written_parts (t : Text) : (parts t).flatMap Part.written = t := by
  -- By the reading, whose steps take from the text just what they write.
  have h := reads_parts t
  generalize parts t = ps at h
  induction h with
  | nil => rfl
  | plain _ _ ih => rw [List.flatMap_cons, ih, Part.written, List.singleton_append]
  | reference _ _ ih => rw [List.flatMap_cons, ih, Part.written]

/-! ## Texts that are filled -/

lemma filled_congr (h : ∀ n ∈ names t, env n = env' n) : filled env t = filled env' t := by
  refine List.flatMap_congr fun p hp => ?_
  cases p with
  | plain u => rfl
  | reference name =>
    have hname : name ∈ names t := List.mem_filterMap.mpr ⟨_, hp, rfl⟩
    rw [Part.value, Part.value, h name hname]

/-- A text without placeholders stays as it is. -/
lemma filled_of_names_eq_nil (h : names t = []) : filled env t = t := by
  calc
    filled env t = (parts t).flatMap Part.written := by
      refine List.flatMap_congr fun p hp => ?_
      cases p with
      | plain u => rfl
      | reference name =>
        have hname : name ∈ names t := List.mem_filterMap.mpr ⟨_, hp, rfl⟩
        exact absurd (h ▸ hname) List.not_mem_nil
    _ = t := flatMap_written_parts t

/-- What comes of an expansion: the result, unless one of the variables has no value. The first of
them is told. -/
def outcome {α : Type} (env : Values) (needed : List Text) (result : α) : Except Unset α :=
  match needed.find? fun n => (env n).isNone with
  | some n => .error ⟨n⟩
  | none => .ok result

section

variable {α β γ : Type} {needed more : List Text} {result : α}

lemma outcome_cons_of_none (h : env name = none) :
    outcome env (name :: needed) result = .error ⟨name⟩ := by
  rw [outcome, List.find?_cons_of_pos (by rw [h]; rfl)]

lemma outcome_cons_of_some {value : Text} (h : env name = some value) :
    outcome env (name :: needed) result = outcome env needed result := by
  rw [outcome, outcome, List.find?_cons_of_neg (by rw [h]; exact Bool.false_ne_true)]

lemma outcome_eq_error_iff {n : Text} :
    outcome env needed result = .error ⟨n⟩ ↔ needed.find? (fun m => (env m).isNone) = some n := by
  unfold outcome
  cases needed.find? fun m => (env m).isNone with
  | none => exact ⟨fun h => (nomatch h), fun h => (nomatch h)⟩
  | some m => rw [Except.error.injEq, Unset.mk.injEq, Option.some.injEq]

lemma map_outcome (f : α → β) (a : α) :
    (outcome env needed a).map f = outcome env needed (f a) := by
  unfold outcome
  cases needed.find? fun n => (env n).isNone with
  | none => rfl
  | some n => rfl

/-- Of two expansions the first one is told to fail if both do. -/
lemma bind_outcome (f : α → β → γ) (a : α) (b : β) :
    ((outcome env needed a).bind fun a => (outcome env more b).map (f a))
      = outcome env (needed ++ more) (f a b) := by
  unfold outcome
  rw [List.find?_append]
  cases needed.find? fun n => (env n).isNone with
  | none =>
    cases more.find? fun n => (env n).isNone with
    | none => rfl
    | some n => rfl
  | some n => rfl

end

lemma expandFrom_eq (env : Values) (skip : Nat) (t : Text) :
    expandFrom env skip t
      = outcome env ((partsFrom skip t).filterMap Part.name?)
          ((partsFrom skip t).flatMap (Part.value env)) := by
  induction t generalizing skip with
  | nil => rfl
  | cons u t ih =>
    cases skip with
    | succ n => exact ih n
    | zero =>
      rw [expandFrom, partsFrom]
      cases if u = Text.unit '$' then placeholder? t else none with
      | none =>
        simp only
        rw [ih, map_outcome]
        rfl
      | some name =>
        simp only
        rw [List.filterMap_cons_some (show Part.name? (.reference name) = some name from rfl),
          List.flatMap_cons, ih, Part.value]
        cases hvalue : env name with
        | none => rw [outcome_cons_of_none hvalue]
        | some value =>
          rw [outcome_cons_of_some hvalue, Option.getD_some]
          exact map_outcome _ _

/-- A text is filled if the variables in it have a value. -/
theorem expandText_eq (env : Values) (t : Text) :
    expandText env t = outcome env (names t) (filled env t) :=
  expandFrom_eq env 0 t

end Variables

end CallAtlas
