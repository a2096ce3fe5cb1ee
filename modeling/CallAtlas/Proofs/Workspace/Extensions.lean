import CallAtlas.Proofs.Regex.Units
import CallAtlas.Proofs.Session.Reading
import CallAtlas.Proofs.Workspace.Scan
import Mathlib

/-!
# Extensions of the files that a scan picks up

A scan picks up files by their extensions. These are part of patterns, and patterns are turned into
regular expressions. A file that such an expression describes does end with the extension, where
case does not count.
-/

namespace CallAtlas

namespace GlobSource

open Glob (pickOptions)

variable {w : Text} {n : ℕ}

/-- What stands before the units of an extension in a pattern. -/
def beforeUnits : Text := "**/*."

/-- What this becomes, without the dot. -/
def beforeDotSource : Text := "(?:(?!\\.)(?:(?:(?!(?:^|\\/)\\.).)*?)\\/)?(?!\\.)(?=.)[^/]*?"

/-- The patterns that have an expression of their own. -/
def commonPatterns : List String := ["*", ".*", "*.*", "*/*", "**", "**/*", "**/*.*", "**/.*"]

lemma takeWhile_isWord (hw : ∀ u ∈ w, isWord u = true) :
    ((beforeUnits ++ w).reverse.takeWhile isWord).reverse = w := by
  have hnone : beforeUnits.reverse.takeWhile isWord = [] := by decide
  rw [List.reverse_append, List.takeWhile_append_of_pos (by simpa using hw), hnone,
    List.append_nil, List.reverse_reverse]

/-- The pattern of an extension is none of a number of patterns. -/
lemma beforeUnits_append_ne (hw : ∀ u ∈ w, isWord u = true) {s : String}
    (hs : s ∈ commonPatterns ++ ["***", "**/**", "**/**/**"]) :
    (beforeUnits ++ w == Text.ofString s) = false := by
  rw [beq_eq_false_iff_ne]
  intro h
  have htake : ∀ s ∈ commonPatterns ++ ["***", "**/**", "**/**/**"],
      (Text.ofString s).take 5 = beforeUnits → Text.unit '*' ∈ (Text.ofString s).drop 5 := by
    decide
  have hmem := htake s hs (by rw [← h]; exact List.take_left' rfl)
  rw [← h, show 5 = beforeUnits.length from rfl, List.drop_left] at hmem
  exact absurd (hw _ hmem) (by decide)

lemma common?_beforeUnits (hw : ∀ u ∈ w, isWord u = true) (hne : w ≠ []) :
    common? pickOptions (n + 2) (beforeUnits ++ w)
      = some (beforeDotSource ++ dotLiteral ++ w) := by
  have hfront : common? pickOptions (n + 1) beforeUnits.dropLast = some beforeDotSource := by
    cbv
  have htake : (beforeUnits ++ w).take ((beforeUnits ++ w).length - w.length) = beforeUnits := by
    simp
  have hcommon : ∀ s ∈ commonPatterns, (beforeUnits ++ w == Text.ofString s) = false :=
    fun s hs => beforeUnits_append_ne hw (List.mem_append_left _ hs)
  simp only [commonPatterns, List.forall_mem_cons] at hcommon
  rw [common?]
  simp only [hcommon, takeWhile_isWord hw, htake, Bool.false_eq_true, if_false,
    List.isEmpty_eq_false_iff.mpr hne, Bool.false_or]
  rw [if_neg (by decide), hfront]
  rfl

/-- The expression of the pattern of an extension, in its frame. -/
lemma body_beforeUnits (hw : ∀ u ∈ w, isWord u = true) (hne : w ≠ []) :
    body pickOptions (beforeUnits ++ w)
      = (beforeDotSource ++ dotLiteral ++ w ++ slashLiteral ++ [Text.unit '?'], false) := by
  have hsimplified : simplified (beforeUnits ++ w) = beforeUnits ++ w := by
    have h : ∀ s ∈ ["***", "**/**", "**/**/**"], (beforeUnits ++ w == Text.ofString s) = false :=
      fun s hs => beforeUnits_append_ne hw (List.mem_append_right _ hs)
    simp only [List.forall_mem_cons] at h
    simp only [simplified, h, Bool.or_false, Bool.false_eq_true, if_false]
  have hdot : [Text.dot, Text.slash].isPrefixOf (beforeUnits ++ w) = false := by
    cbv
  have hstar : ((beforeUnits ++ w).head? == some Text.dot
      || (beforeUnits ++ w).head? == some (Text.unit '*')) = true := by
    cbv
  simp only [body, hsimplified, hdot, hstar, Bool.false_eq_true, if_false, if_true]
  rw [List.length_append, show beforeUnits.length + w.length + 1 = (w.length + 4) + 2 from by
    rw [show beforeUnits.length = 5 from rfl]; omega, common?_beforeUnits hw hne]
  rfl

end GlobSource

namespace Regex

open GlobSource (beforeDotSource)

variable {n : ℕ} {rest t w : Text} {s : Regex} {names names' : GroupNames}

/-- A dot, with nothing behind it. -/
def dotAlone : Regex := .seq (.unit Text.dot) .empty

/-- A slash, with nothing behind it. -/
def slashAlone : Regex := .seq (.unit Text.slash) .empty

/-- Directories that are not hidden, with the slash behind them. -/
def directories : Regex :=
  let hidden := Regex.seq (.either (.seq .start .empty) slashAlone) dotAlone
  let path := Regex.repeated (.seq (.look true true hidden) (.seq .any .empty)) 0 none
  .repeated (.seq (.look true true dotAlone) (.seq (.seq path .empty) slashAlone)) 0 (some 1)

/-- The beginning of a name that is not hidden, with an expression behind it. -/
def shownName (r : Regex) : Regex :=
  .seq (.look true true dotAlone) (.seq (.look true false (.seq .any .empty))
    (.seq (.repeated (.set true [.range Text.slash Text.slash]) 0 none) r))

/-- What stands before an extension is read as directories and the beginning of a name. -/
lemma sequence_beforeDot (h : (sequence (n + 30) t).run names = .ok ((s, rest), names')) :
    (sequence (n + 34) (beforeDotSource ++ t)).run names
      = .ok ((.seq directories (shownName s), rest), names') := by
  -- The parts in front of the name have fixed texts, so reading them is computed.
  have hdirectories : ∀ t : Text, (term (n + 33) (Text.unit '(')
      (Text.ofString "?:(?!\\.)(?:(?:(?!(?:^|\\/)\\.).)*?)\\/)?" ++ Text.unit '(' :: t)).run names
        = .ok ((directories, Text.unit '(' :: t), names) := by
    intro t
    cbv
  have hshown : ∀ t : Text, (term (n + 32) (Text.unit '(')
      (Text.ofString "?!\\.)" ++ Text.unit '(' :: t)).run names
        = .ok ((.look true true dotAlone, Text.unit '(' :: t), names) := by
    intro t
    cbv
  have hunit : ∀ t : Text, (term (n + 31) (Text.unit '(')
      (Text.ofString "?=.)" ++ Text.unit '[' :: t)).run names
        = .ok ((.look true false (.seq .any .empty), Text.unit '[' :: t), names) := by
    intro t
    cbv
  have hstar : (term (n + 30) (Text.unit '[') (Text.ofString "^/]*?" ++ t)).run names
      = .ok ((.repeated (.set true [.range Text.slash Text.slash]) 0 none, t), names) := by
    cbv
  exact sequence_cons (by decide) (hdirectories _) <| sequence_cons (by decide) (hshown _) <|
    sequence_cons (by decide) (hunit _) <| sequence_cons (by decide) hstar h

lemma alternatives_of_sequence {fuel : ℕ} (hrest : rest.head? ≠ some (Text.unit '|'))
    (h : (sequence fuel t).run names = .ok ((s, rest), names')) :
    (alternatives (fuel + 1) t).run names = .ok ((s, rest), names') := by
  rw [alternatives]
  show ((sequence fuel t).run names >>= _) = _
  rw [h]
  match rest, hrest with
  | [], _ => rfl
  | u :: rest, hrest =>
    show ((if u = Text.unit '|' then _ else _ : Reader (Regex × Text)).run names') = _
    rw [if_neg fun hu => hrest (congrArg some hu)]
    rfl

lemma term_group {fuel : ℕ} {r : Regex} (hrest : quantifier? rest = none)
    (h : (alternatives fuel t).run names = .ok ((r, Text.unit ')' :: rest), names')) :
    (term (fuel + 1) (Text.unit '(') (Text.ofString "?:" ++ t)).run names
      = .ok ((r, rest), names') := by
  show ((alternatives fuel t).run names >>= _) = _
  rw [h]
  show (quantified r rest).run names' = _
  rw [quantified, hrest]
  rfl

lemma term_dot (ht : quantifier? t = none) :
    (term (n + 1) Text.backslash (Text.dot :: t)).run names
      = .ok ((.unit Text.dot, t), names) := by
  show (quantified (.unit Text.dot) t).run names = _
  rw [quantified, ht]
  rfl

/-- The expression of the paths that a pattern of an extension describes. -/
def ending (e : Text) : Regex :=
  .seq .start (.seq (.seq directories (shownName (units e
    (.seq (.repeated (.unit Text.slash) 0 (some 1)) .empty)))) (.seq .finish .empty))

lemma alternatives_ending (hw : ∀ u ∈ w, UnitClass.word.contains u = true) :
    (alternatives (n + w.length + 39) (Text.ofString "^(?:" ++ (beforeDotSource
        ++ (Text.ofString "\\." ++ (w ++ Text.ofString "\\/?)$"))))).run names
      = .ok ((ending (Text.dot :: w), []), names) := by
  have hbehind : (sequence (n + 29) (Text.ofString "\\/?)$")).run names
      = .ok ((.seq (.repeated (.unit Text.slash) 0 (some 1)) .empty, Text.ofString ")$"),
          names) := by
    cbv
  have hunits := sequence_units hw (by decide) hbehind
  rw [show n + 28 + w.length + 1 = n + w.length + 29 by omega] at hunits
  have hquantifier : quantifier? (w ++ Text.ofString "\\/?)$") = none := by
    cases w with
    | nil => decide
    | cons u w => exact quantifier?_of_word (hw u List.mem_cons_self)
  have hdot := sequence_cons (by decide) (term_dot hquantifier) hunits
  have hinside := alternatives_of_sequence (by decide) (sequence_beforeDot hdot)
  have hfinish : (sequence (n + w.length + 36) (Text.ofString "$")).run names
      = .ok ((.seq .finish .empty, []), names) := by
    cbv
  have hgroup := sequence_cons (by decide) (term_group (by decide) hinside) hfinish
  exact alternatives_of_sequence (by decide) (sequence_cons (by decide) rfl hgroup)

lemma keeping_ending (numbers : List ℕ) (e : Text) :
    (ending e).keeping numbers = ending e := by
  simp only [ending, directories, shownName, dotAlone, slashAlone, keeping, keeping_units]

/-- The expression of a pattern of an extension is read as what it is meant to be. -/
lemma ofText?_ending (hw : ∀ u ∈ w, UnitClass.word.contains u = true) :
    ofText? (Text.ofString "^(?:" ++ (beforeDotSource
        ++ (Text.ofString "\\." ++ (w ++ Text.ofString "\\/?)$"))))
      = some (ending (Text.dot :: w)) := by
  generalize ht : Text.ofString "^(?:" ++ (beforeDotSource
        ++ (Text.ofString "\\." ++ (w ++ Text.ofString "\\/?)$"))) = t
  have hlength : 4 * t.length + 4 = (4 * t.length + 4 - w.length - 39) + w.length + 39 := by
    have hbefore : 9 ≤ beforeDotSource.length := by decide
    have h : w.length + 9 ≤ t.length := by
      simp only [← ht, List.length_append]
      omega
    omega
  have hread : (alternatives (4 * t.length + 4) t).run { all := groupsIn false t }
      = .ok ((ending (Text.dot :: w), []), { all := groupsIn false t }) := by
    rw [hlength, ← ht]
    exact alternatives_ending hw
  rw [ofText?, ofText]
  show Except.toOption ((alternatives (4 * t.length + 4) t).run _ >>= _) = _
  rw [hread]
  exact congrArg some (keeping_ending _ _)

/-- What is described ends with the extension and perhaps with a slash behind it. -/
lemma exists_of_test_ending {e path : Text} (h : (ending e).test true path = true) :
    ∃ v behind : Text, v.map Text.capital = e.map Text.capital ∧ v ++ behind <:+ path
      ∧ (behind = [] ∨ ∃ u, Text.capital u = Text.slash ∧ behind = [u]) := by
  obtain ⟨p, q, hq⟩ := exists_of_test h
  -- Of the parts that are met one after the other only the extension and what follows it matter.
  obtain ⟨p₁, -, hq⟩ := exists_of_mem_ends_seq hq
  obtain ⟨p₂, hname, hq⟩ := exists_of_mem_ends_seq hq
  obtain ⟨p₃, hp₃, hq⟩ := exists_of_mem_ends_seq hq
  obtain ⟨-, hplace⟩ := of_mem_ends_finish hp₃
  obtain ⟨n₁, -, hname⟩ := exists_of_mem_ends_seq hname
  obtain ⟨n₂, -, hname⟩ := exists_of_mem_ends_seq hname
  obtain ⟨n₃, -, hname⟩ := exists_of_mem_ends_seq hname
  obtain ⟨n₄, -, hname⟩ := exists_of_mem_ends_seq hname
  obtain ⟨v, m, hv, hdrop, hm⟩ := exists_of_mem_ends_units hname
  obtain ⟨m', hm', hempty⟩ := exists_of_mem_ends_seq hm
  obtain rfl := eq_of_mem_ends_empty hempty
  have hnil : path.drop p₂.place = [] := by
    rw [hplace]
    simp
  have hsuffix : v ++ path.drop m.place <:+ path := by
    rw [← hdrop]
    exact List.drop_suffix _ _
  refine ⟨v, path.drop m.place, hv, hsuffix, ?_⟩
  rcases of_mem_ends_optional hm' with rfl | ⟨u, hu, hslash⟩
  · exact .inl hnil
  · rw [hnil] at hslash
    exact .inr ⟨u, hu.trans (by decide), hslash⟩

end Regex

namespace Text

/-- No other unit has the capital of a slash. -/
lemma eq_slash_of_capital_eq {u : CodeUnit} (h : capital u = slash) : u = slash := by
  have hranges : (capitalRanges.all fun r =>
      47 < (r.first : Int) + r.offset && (r.last : Int) + r.offset < 65536) = true := by
    cbv
  simp only [capital] at h
  split at h
  · rename_i r hr
    have hbounds := List.all_eq_true.mp hranges r (List.mem_of_find?_eq_some hr)
    have hin := List.find?_some hr
    simp only [Bool.and_eq_true, decide_eq_true_eq] at hbounds hin
    have hvalue := congrArg UInt16.toNat h
    rw [Nat.toUInt16_eq, UInt16.toNat_ofNat', show slash.toNat = 47 from rfl] at hvalue
    omega
  · exact h

end Text

namespace Except

variable {ε α β : Type}

lemma eq_ok_of_toOption {x : Except ε α} {a : α} (h : x.toOption = some a) : x = .ok a := by
  cases x with
  | error e => cases h
  | ok b => exact congrArg Except.ok (Option.some.inj h)

/-- What a list of results holds are results. -/
lemma exists_of_mem_mapM {f : α → Except ε β} {xs : List α} {ys : List β}
    (h : xs.mapM f = .ok ys) {y : β} (hy : y ∈ ys) : ∃ x ∈ xs, f x = .ok y := by
  induction xs generalizing ys with
  | nil =>
    obtain rfl := Except.ok.inj h
    cases hy
  | cons x xs ih =>
    rw [List.mapM_cons] at h
    obtain ⟨z, hx, h⟩ := exists_of_bind_eq_ok h
    obtain ⟨zs, hxs, h⟩ := exists_of_bind_eq_ok h
    obtain rfl := Except.ok.inj h
    rcases List.mem_cons.mp hy with rfl | hy
    · exact ⟨x, List.mem_cons_self, hx⟩
    · obtain ⟨x', hx', hfx'⟩ := ih hxs hy
      exact ⟨x', List.mem_cons_of_mem x hx', hfx'⟩

end Except

namespace Glob

open GlobSource (beforeUnits)

variable {w : Text}

lemma go_of_notMem (h : Text.slash ∉ w) : dropRepeated.go false w = w := by
  induction w with
  | nil => rfl
  | cons u w ih =>
    rw [List.mem_cons, not_or] at h
    simp [dropRepeated.go, Ne.symm h.1, ih h.2]

/-- The pattern of an extension stands for itself alone. -/
lemma expand_beforeUnits (hw : ∀ u ∈ w, UnitClass.word.contains u = true) :
    Braces.expand (beforeUnits ++ w) = .ok [beforeUnits ++ w] := by
  have hbraces : Braces.hasBraces (beforeUnits ++ w) = false := by
    have hbefore : ∀ u ∈ beforeUnits, decide (u ≠ Text.unit '\x7b') = true :=
      List.all_eq_true.mp (by decide)
    have hdrop : (beforeUnits ++ w).dropWhile (fun u => u ≠ Text.unit '\x7b') = [] := by
      rw [List.dropWhile_eq_nil_iff]
      intro u hu
      rcases List.mem_append.mp hu with hu | hu
      · exact hbefore u hu
      · exact decide_eq_true (Regex.ne_of_word (hw u hu) (by decide))
    rw [Braces.hasBraces, hdrop]
    rfl
  rw [Braces.expand, hbraces]
  rfl

lemma dropRepeated_beforeUnits (hw : ∀ u ∈ w, UnitClass.word.contains u = true) :
    dropRepeated (beforeUnits ++ w) = beforeUnits ++ w := by
  have hslash : Text.slash ∉ w := fun hmem => absurd (hw _ hmem) (by decide)
  show beforeUnits ++ dropRepeated.go false w = _
  rw [go_of_notMem hslash]

/-- The pattern of an extension describes what ends with the extension. -/
lemma eq_of_read_beforeUnits (hw : ∀ u ∈ w, UnitClass.word.contains u = true) (hne : w ≠ [])
    {g : Glob} (h : read Glob.pickOptions (beforeUnits ++ w) = .ok g) :
    g = ⟨Regex.ending (Text.dot :: w), true⟩ := by
  unfold read GlobSource.ofPattern at h
  rw [GlobSource.body_beforeUnits hw hne] at h
  simp only [Bool.false_eq_true, if_false] at h
  split at h
  · cases h
  · split at h
    · cases h
    · obtain rfl := Except.ok.inj h
      have hsource : Text.ofString "^(?:" ++ (GlobSource.beforeDotSource ++ GlobSource.dotLiteral
            ++ w ++ GlobSource.slashLiteral ++ [Text.unit '?']) ++ Text.ofString ")$"
          = Text.ofString "^(?:" ++ (GlobSource.beforeDotSource
            ++ (Text.ofString "\\." ++ (w ++ Text.ofString "\\/?)$"))) := by
        simp only [List.append_assoc]
        rfl
      show Glob.mk ((Regex.ofText? _).getD Regex.never) _ = _
      rw [hsource, Regex.ofText?_ending hw]
      rfl

/-- Every file that is picked up is described by a pattern. -/
lemma exists_pattern_of_selects {patterns ignore : List Text} {selection : Selection}
    {directory path : Text} (hselection : selectionOf patterns ignore = .ok selection)
    (h : selection.selects directory path = true) :
    ∃ wanted, expandAll patterns = .ok wanted ∧ ∃ t ∈ wanted, ∃ g,
      read pickOptions t = .ok g ∧ g.describes path = true := by
  simp only [Selection.selects, Bool.and_eq_true] at h
  obtain ⟨g, hg, hdescribes⟩ := List.any_eq_true.mp h.1.1.1
  obtain ⟨wanted, hwanted, hselection⟩ := Except.exists_of_bind_eq_ok hselection
  obtain ⟨unwanted, -, hselection⟩ := Except.exists_of_bind_eq_ok hselection
  refine ⟨wanted, hwanted, ?_⟩
  split at hselection
  · obtain rfl := Except.ok.inj hselection
    cases hg
  · obtain ⟨picked, hpicked, hselection⟩ := Except.exists_of_bind_eq_ok hselection
    obtain ⟨relative, -, hselection⟩ := Except.exists_of_bind_eq_ok hselection
    obtain ⟨absolute, -, hselection⟩ := Except.exists_of_bind_eq_ok hselection
    obtain ⟨closed, -, hselection⟩ := Except.exists_of_bind_eq_ok hselection
    obtain rfl := Except.ok.inj hselection
    obtain ⟨t, ht, hread⟩ := Except.exists_of_mem_mapM hpicked hg
    exact ⟨t, ht, g, hread, hdescribes⟩

end Glob

namespace Checkout

/-- An extension is a dot with letters, digits and underscores behind it. -/
def IsExtension (e : Text) : Prop :=
  ∃ w : Text, e = Text.dot :: w ∧ w ≠ [] ∧ ∀ u ∈ w, UnitClass.word.contains u = true

variable {extensions ignore : List Text} {directory path : Text}

/-- The patterns of extensions are those that they are part of. -/
lemma exists_of_mem_patternsOf (hextensions : ∀ e ∈ extensions, IsExtension e) {wanted : List Text}
    (hwanted : Glob.expandAll (patternsOf extensions) = .ok wanted) {t : Text} (ht : t ∈ wanted) :
    ∃ w, Text.dot :: w ∈ extensions ∧ w ≠ [] ∧ (∀ u ∈ w, UnitClass.word.contains u = true)
      ∧ t = GlobSource.beforeUnits ++ w := by
  unfold patternsOf Glob.expandAll at hwanted
  cases hexpanded : (extensions.map fun e => Text.ofString "**/*" ++ e).mapM Braces.expand with
  | error fault =>
    rw [hexpanded] at hwanted
    cases hwanted
  | ok expanded =>
    rw [hexpanded] at hwanted
    obtain rfl := Except.ok.inj hwanted
    obtain ⟨t', ht', rfl⟩ := List.mem_map.mp ht
    obtain ⟨ts, hts, ht'⟩ := List.mem_flatten.mp ht'
    obtain ⟨x, hx, hexpand⟩ := Except.exists_of_mem_mapM hexpanded hts
    obtain ⟨e, he, rfl⟩ := List.mem_map.mp hx
    obtain ⟨w, rfl, hne, hw⟩ := hextensions e he
    rw [show Text.ofString "**/*" ++ Text.dot :: w = GlobSource.beforeUnits ++ w from rfl,
      Glob.expand_beforeUnits hw] at hexpand
    obtain rfl := Except.ok.inj hexpand
    obtain rfl := List.mem_singleton.mp ht'
    exact ⟨w, he, hne, hw, Glob.dropRepeated_beforeUnits hw⟩

/-- A file that is selected ends with one of the extensions, where case does not count. -/
theorem exists_extension_of_selects (hextensions : ∀ e ∈ extensions, IsExtension e)
    (h : Glob.selects (patternsOf extensions) ignore directory path = true)
    (hslash : path.getLast? ≠ some Text.slash) :
    ∃ e ∈ extensions, e.map Text.capital <:+ path.map Text.capital := by
  unfold Glob.selects at h
  split at h
  · cases h
  · rename_i selection hselection
    obtain ⟨wanted, hwanted, t, ht, g, hread, hdescribes⟩ :=
      Glob.exists_pattern_of_selects hselection h
    obtain ⟨w, hmem, hne, hw, rfl⟩ := exists_of_mem_patternsOf hextensions hwanted ht
    obtain rfl := Glob.eq_of_read_beforeUnits hw hne hread
    obtain ⟨v, behind, hv, hsuffix, hbehind⟩ := Regex.exists_of_test_ending hdescribes
    refine ⟨_, hmem, ?_⟩
    rcases hbehind with rfl | ⟨u, hu, rfl⟩
    · rw [List.append_nil] at hsuffix
      rw [← hv]
      exact hsuffix.map _
    · obtain rfl := Text.eq_slash_of_capital_eq hu
      obtain ⟨a, rfl⟩ := hsuffix
      exact absurd (by simp) hslash

end Checkout

end CallAtlas
