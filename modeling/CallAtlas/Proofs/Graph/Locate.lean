import CallAtlas.Graph.Locate
import CallAtlas.Proofs.Model.Attachment
import CallAtlas.Proofs.Number.Shortest
import CallAtlas.Proofs.Path.Canonical

/-!
# What is found at a line

The definition that encloses a line of a file is one of the definitions of that file: the last one
that covers the line. At the line of a call it is the definition that holds the call. The source of
a definition is a block of whole lines of the content of the file: the lines of its range, which all
exist there, and what is empty behind a last line feed is not among them.
-/

namespace CallAtlas

namespace LineRange

/-- The innermost of some ranges is one of those that cover the line. -/
lemma mem_filter_of_innermost? {α : Type} {range : α → LineRange} {items : List α} {line : Number}
    {x : α} (h : innermost? range items line = some x) :
    x ∈ items.filter fun y => (range y).covers line := by
  have hall : ∀ (xs : List α) (best : Option α), xs.foldl (innermostStep range) best = some x →
      x ∈ xs ∨ best = some x := by
    intro xs
    induction xs with
    | nil => exact fun best hbest => .inr hbest
    | cons y ys ih =>
      intro best hbest
      rcases ih _ hbest with hmem | hstep
      · exact .inl (List.mem_cons_of_mem y hmem)
      · unfold innermostStep at hstep
        split at hstep
        · exact .inl (Option.some.inj hstep ▸ List.mem_cons_self)
        · split at hstep
          · exact .inl (Option.some.inj hstep ▸ List.mem_cons_self)
          · exact .inr hstep
  rcases hall _ _ h with hmem | hnone
  · exact hmem
  · cases hnone

lemma mem_of_innermost? {α : Type} {range : α → LineRange} {items : List α} {line : Number} {x : α}
    (h : innermost? range items line = some x) : x ∈ items :=
  List.mem_of_mem_filter (mem_filter_of_innermost? h)

end LineRange

namespace RepoModel

/-- The definition that encloses a line is one of the file. -/
lemma exists_file_of_enclosing? {m : RepoModel} {path : Text} {line : Number} {d : Definition}
    (h : m.enclosing? path line = some d) :
    ∃ f, m.file? (Path.normalize path) = some f ∧ d ∈ f.definitions := by
  obtain ⟨f, hf, hinnermost⟩ := Option.bind_eq_some_iff.mp h
  exact ⟨f, hf, LineRange.mem_of_innermost? hinnermost⟩

/-- The definition that encloses a line is in the model. -/
lemma mem_definitions_of_enclosing? {m : RepoModel} {path : Text} {line : Number} {d : Definition}
    (h : m.enclosing? path line = some d) : d ∈ m.definitions := by
  obtain ⟨f, hf, hd⟩ := exists_file_of_enclosing? h
  exact List.mem_flatMap.mpr ⟨_, mem_of_lookup_eq_some hf, hd⟩

open Assembly

/-- What is found at a line of a file, however its path is spelled, is the last definition that
covers the line. It is that of the module only if no other one covers the line, and at the line of a
call in the file it is the definition that alone holds the call. -/
theorem enclosing?_last {m : RepoModel} {filePath path language : Text} {lineCount : Number}
    {declarations : List Declaration} {calls : List CallSite} {imports : List Text}
    (hfile : m.file? (Path.normalize filePath) = some
      ⟨language, lineCount, Assembly.definitions filePath lineCount declarations calls, imports⟩)
    (hpath : Path.normalize path = Path.normalize filePath) :
    let ds := Assembly.definitions filePath lineCount declarations calls
    (∀ line, m.enclosing? path line = (ds.filter fun d => d.range.covers line).getLast?
      ∧ m.enclosing? (Path.normalize filePath) line = m.enclosing? path line)
    ∧ (∀ line d, m.enclosing? path line = some d → d.isModule = true →
        ∀ e ∈ ds, e.range.covers line = true → e = d)
    ∧ ∀ c ∈ calls, 1 ≤ c.line → c.line ≤ max 1 lineCount →
        ∃ d ∈ ds, m.enclosing? path c.line = some d ∧ ∀ e ∈ ds, c ∈ e.calls ↔ e = d := by
  intro ds
  have hlast : ∀ line, m.enclosing? path line
      = (ds.filter fun d => d.range.covers line).getLast? := by
    intro line
    rw [enclosing?, hpath, hfile]
    exact LineRange.innermost?_eq_getLast? (definitions_pairwise_precedes _ _ _ _)
      (definitions_pairwise_fits _ _ _ _) line
  refine ⟨fun line => ⟨hlast line, ?_⟩, ?_, ?_⟩
  · rw [enclosing?, enclosing?, Path.normalize_normalize, hpath]
  · intro line d hd hmodule e he hcovers
    rw [hlast] at hd
    cases hmodule' : e.isModule with
    | true =>
      rw [((mem_definitions_module_iff hmodule').mp he).2]
      have hmem := List.mem_of_mem_filter (List.mem_of_getLast? hd)
      rw [((mem_definitions_module_iff hmodule).mp hmem).2]
    | false =>
      rw [isModule_of_getLast? hd he hmodule' hcovers] at hmodule
      cases hmodule
  · intro c hc hfirst hend
    have hholder := getLast?_filter_covers filePath declarations hc hfirst hend
    refine ⟨_, List.mem_of_mem_filter (List.mem_of_getLast? hholder), (hlast _).trans hholder, ?_⟩
    intro e he
    constructor
    · exact eq_holder_of_mem_calls he
    · rintro rfl
      exact mem_calls_holder hc

/-- A call in a function is found there by another spelling of the path. -/
theorem enclosing?_call_in_function :
    let filePath := Text.ofString "./src//a.ts"
    let path := Text.ofString "src/b/../a.ts"
    let f : Declaration := ⟨.function, Text.ofString "f", none, 1, 3⟩
    let c : CallSite := ⟨Text.ofString "g", Text.ofString "g", 2, 4⟩
    let ds := Assembly.definitions filePath 5 [f] [c]
    let m : RepoModel := ⟨[(Text.ofString "src/a.ts", ⟨Text.ofString "typescript", 5, ds, []⟩)]⟩
    m.file? (Path.normalize filePath) = some ⟨Text.ofString "typescript", 5, ds, []⟩
      ∧ Path.normalize path = Path.normalize filePath
      ∧ ∃ d ∈ ds, m.enclosing? path c.line = some d ∧ ∀ e ∈ ds, c ∈ e.calls ↔ e = d := by
  intro filePath path f c ds m
  have hnormal : Path.normalize filePath = Text.ofString "src/a.ts" := by decide
  have hfile : m.file? (Path.normalize filePath)
      = some ⟨Text.ofString "typescript", 5, ds, []⟩ := by
    rw [hnormal]
    exact List.lookup_cons_self
  have hpath : Path.normalize path = Path.normalize filePath := by decide
  refine ⟨hfile, hpath, (enclosing?_last hfile hpath).2.2 c (List.mem_singleton_self c) ?_ ?_⟩
  · decide
  · decide

end RepoModel

/-! ## Sources -/

namespace DefinitionSource

open Text

variable {content : Text} {first last : ℕ}

lemma slice_natCast {α : Type} (xs : List α) (i j : ℕ) :
    slice xs i j = (xs.take j).drop i := by
  have hposition : ∀ k : ℕ, position xs.length k = min k xs.length := fun k =>
    if_neg (Int.natCast_nonneg k).not_gt
  rw [slice, hposition, hposition, ← List.take_eq_take_min]
  by_cases hi : i ≤ xs.length
  · rw [min_eq_left hi]
  · -- Nothing is left from behind the end on, nor from the end on.
    have hlength : (xs.take j).length ≤ xs.length := List.length_take_le' j xs
    rw [List.drop_eq_nil_of_le (by omega), List.drop_eq_nil_of_le (by omega)]

/-- The number of a line that a text can have is counted from zero without rounding. -/
lemma minus_one (hone : 1 ≤ first) (hfirst : first < 2 ^ 53) :
    ((first : ℕ) : Number).minus 1 = ((first - 1 : ℕ) : Int) := by
  have hself := Number.binaryValue_intCast (k := first) (by omega)
  have hunit := Number.binaryValue_intCast (k := 1) (by omega)
  have hless := Number.ofRational_intCast (k := ((first - 1 : ℕ) : Int)) (by omega)
  push_cast [hone] at hself hunit hless ⊢
  rw [Number.minus_eq, hself, hunit, hless]

/-- The lines of a text from a first to a last one, the first line of the text being number one. -/
def linesBetween (content : Text) (first last : ℕ) : List Text :=
  ((splitAt newline content).take last).drop (first - 1)

lemma linesOf_natCast (hone : 1 ≤ first) (hfirst : first < 2 ^ 53) :
    linesOf content ⟨first, last⟩ = join [newline] (linesBetween content first last) := by
  have hwhole : ∀ k : ℤ, whole (k : Number) = k := fun k => by
    rw [whole, Rat.num_intCast, Rat.den_intCast, Nat.cast_one, Int.tdiv_one]
  have hlast : ((last : ℕ) : Number) = ((last : ℤ) : Number) := (Int.cast_natCast last).symm
  rw [linesOf, minus_one hone hfirst, hlast, hwhole, hwhole, slice_natCast]
  rfl

/-- What is between two places of a list stands between what is before and behind it. -/
lemma take_append_drop_take {α : Type} (xs : List α) {i j : ℕ} (h : i ≤ j) :
    xs = xs.take i ++ ((xs.take j).drop i ++ xs.drop j) := by
  have htake : (xs.take j).take i = xs.take i := by rw [List.take_take, min_eq_left h]
  rw [← List.append_assoc, ← htake, List.take_append_drop, List.take_append_drop]

/-- Lines among other lines are the same ones of the whole text. -/
lemma drop_take_linesBetween {outerFirst outerLast : ℕ} (hfirst : outerFirst ≤ first)
    (hone : 1 ≤ outerFirst) (hle : first ≤ last) (hlast : last ≤ outerLast) :
    ((linesBetween content outerFirst outerLast).take (last - (outerFirst - 1))).drop
      (first - outerFirst) = linesBetween content first last := by
  have hstop : outerFirst - 1 + (last - (outerFirst - 1)) = last := by omega
  have hstart : outerFirst - 1 + (first - outerFirst) = first - 1 := by omega
  rw [linesBetween, List.take_drop, hstop, List.take_take, min_eq_left hlast, List.drop_drop,
    hstart]
  rfl

/-- A text that is made of the lines from a first to a last one of a content: a block of it with one
line feed less than there are lines. A line feed that the content ends in is behind the block. -/
structure IsLines (content : Text) (first last : ℕ) (t : Text) : Prop where
  one_le_first : 1 ≤ first
  first_le_last : first ≤ last
  splitAt_eq : splitAt newline t = linesBetween content first last
  count_eq : t.count newline = last - first
  isBlock : ∃ before after, IsBlock newline content before t after
    ∧ before.count newline = first - 1 ∧ (content.getLast? = some newline → after ≠ [])

/-- Lines that a content has make up such a text. -/
lemma isLines_linesOf (hone : 1 ≤ first) (hfirst : first < 2 ^ 53) (hle : first ≤ last)
    (hlast : last ≤ (splitAt newline content).length)
    (hend : content.getLast? = some newline → last < (splitAt newline content).length) :
    IsLines content first last (linesOf content ⟨first, last⟩) := by
  have hlength : (linesBetween content first last).length = last - (first - 1) := by
    rw [linesBetween, List.length_drop, List.length_take, min_eq_left hlast]
  -- There is a line in the range, so that the lines are joined to a text that splits into them.
  have hne : linesBetween content first last ≠ [] := by
    apply List.ne_nil_of_length_pos
    omega
  have hlines : ∀ line ∈ linesBetween content first last, newline ∉ line := fun line hline =>
    notMem_of_mem_splitAt (List.mem_of_mem_take (List.mem_of_mem_drop hline))
  have hcount := count_join hne hlines
  obtain ⟨before, after, hblock, hbefore, hafter⟩ :=
    exists_isBlock hne (take_append_drop_take (splitAt newline content) (by omega))
  rw [List.length_take, min_eq_left (by omega)] at hbefore
  rw [List.length_drop] at hafter
  rw [linesOf_natCast hone hfirst]
  refine ⟨hone, hle, splitAt_join hne hlines, by omega, before, after, hblock, hbefore, ?_⟩
  intro hnewline
  have hlt := hend hnewline
  rintro rfl
  rw [List.count_nil] at hafter
  omega

/-- Lines inside other lines are a block of these. -/
lemma IsLines.exists_isBlock {outerFirst outerLast : ℕ} {t block : Text}
    (houter : IsLines content outerFirst outerLast t) (hinner : IsLines content first last block)
    (hfirst : outerFirst ≤ first) (hlast : last ≤ outerLast) :
    ∃ before after, IsBlock newline t before block after := by
  have hone := houter.one_le_first
  have hle := hinner.first_le_last
  -- The inner lines are neighbouring pieces of the outer text.
  have hpieces := take_append_drop_take (splitAt newline t)
    (show first - outerFirst ≤ last - (outerFirst - 1) by omega)
  have hlines : ((splitAt newline t).take (last - (outerFirst - 1))).drop (first - outerFirst)
      = splitAt newline block := by
    rw [houter.splitAt_eq, hinner.splitAt_eq]
    exact drop_take_linesBetween hfirst hone hle hlast
  rw [hlines] at hpieces
  obtain ⟨before, after, hblock, -⟩ :=
    Text.exists_isBlock (splitAt_ne_nil newline block) hpieces
  rw [join_splitAt] at hblock
  exact ⟨before, after, hblock⟩

/-- The lines that are counted are there, and what is behind a line feed at the end is not among
them. A text without lines has its empty one still. -/
lemma max_countLines_le (content : Text) :
    max 1 (Index.countLines content) ≤ (splitAt newline content).length
      ∧ (content.getLast? = some newline →
        max 1 (Index.countLines content) < (splitAt newline content).length) := by
  rw [length_splitAt]
  unfold Index.countLines
  by_cases hnil : content = []
  · rw [hnil]
    decide
  simp only
  rw [if_neg hnil]
  by_cases hlast : content.getLast? = some newline
  · -- The piece behind the last line feed is not counted, and there is another one before it.
    have hcount := List.count_pos_iff.mpr (List.mem_of_getLast? hlast)
    rw [if_pos hlast]
    omega
  · rw [if_neg hlast]
    exact ⟨by omega, fun h => absurd h hlast⟩

/-- The text of a definition of a file is made of the lines of its range. -/
lemma exists_isLines {filePath : Text} {declarations : List Declaration} {calls : List CallSite}
    (hlength : content.length < 2 ^ 53)
    (hwhole : ∀ d ∈ declarations, d.startLine.isInteger = true ∧ d.endLine.isInteger = true)
    {d : Definition} (hd : d ∈ Assembly.definitions filePath
      (((Index.countLines content : ℕ) : ℤ) : Number) declarations calls) :
    ∃ first last : ℕ, d.startLine = first ∧ d.endLine = last
      ∧ IsLines content first last (linesOf content d.range) := by
  have hcount : Number.isInteger (((Index.countLines content : ℕ) : ℤ) : Number) = true := rfl
  obtain ⟨hstart, hstop⟩ := Assembly.isInteger_of_mem_definitions hcount hwhole hd
  obtain ⟨hone, hle, hlast⟩ := Assembly.within_of_mem_definitions hd
  obtain ⟨first, hfirst⟩ := Number.exists_eq_natCast hstart (zero_le_one.trans hone)
  obtain ⟨last, hstop⟩ := Number.exists_eq_natCast hstop (zero_le_one.trans (hone.trans hle))
  have hrange : d.range = ⟨first, last⟩ := by
    rw [← hfirst, ← hstop]
    rfl
  rw [hrange] at hone hle hlast
  -- The bounds are those of natural numbers.
  simp only at hone hle hlast
  norm_cast at hone hle hlast
  have hunits := Index.countLines_le content
  obtain ⟨hlines, hend⟩ := max_countLines_le content
  refine ⟨first, last, hfirst, hstop, ?_⟩
  rw [hrange]
  exact isLines_linesOf hone (by omega) hle (hlast.trans hlines) fun h => hlast.trans_lt (hend h)

end DefinitionSource

namespace RepoModel

open DefinitionSource

/-- The source of a definition of an indexed file, picked by a line or by a name, is made of the
lines of the content from its first to its last line, and a line that it was picked by is among
them. The source of each definition inside another one is a block of the source of that. No text
has as many as `2 ^ 53` units, from where on the numbers of lines would be rounded. -/
theorem sourceOf?_isLines {m : RepoModel} {adapter : Adapter} {filePath path content : Text}
    {outline : Outline} {locator : DefinitionLocator} {s : DefinitionSource}
    (hlength : content.length < 2 ^ 53)
    (hwhole : ∀ d ∈ outline.declarations,
      d.startLine.isInteger = true ∧ d.endLine.isInteger = true)
    (hfile : m.file? (Path.normalize path)
      = some (Index.entryOf adapter filePath content outline))
    (hsource : m.sourceOf? path content locator = some s) :
    let ds := (Index.entryOf adapter filePath content outline).definitions
    (s.definition ∈ ds ∧ s.text = linesOf content s.definition.range)
    ∧ (∃ first last : ℕ, s.definition.startLine = first ∧ s.definition.endLine = last
      ∧ IsLines content first last s.text)
    ∧ (∀ line, locator = .line line →
      s.definition.startLine ≤ line ∧ line ≤ s.definition.endLine)
    ∧ ∀ outer ∈ ds, ∀ inner ∈ ds, outer.range.Contains inner.range → ∃ before after,
      Text.IsBlock Text.newline (linesOf content outer.range) before (linesOf content inner.range)
        after := by
  intro ds
  obtain ⟨f, hf, hpicked⟩ := Option.bind_eq_some_iff.mp hsource
  obtain ⟨d, hd, rfl⟩ := Option.map_eq_some_iff.mp hpicked
  obtain rfl := Option.some.inj (hfile.symm.trans hf)
  have hmem : d ∈ ds := by
    cases locator with
    | line number => exact LineRange.mem_of_innermost? hd
    | name wanted => exact List.mem_of_find?_eq_some hd
  refine ⟨⟨hmem, rfl⟩, exists_isLines hlength hwhole hmem, ?_, ?_⟩
  · rintro line rfl
    have hcovers := List.of_mem_filter (LineRange.mem_filter_of_innermost? hd)
    rw [LineRange.covers, Bool.and_eq_true, decide_eq_true_eq, decide_eq_true_eq] at hcovers
    exact hcovers
  · intro outer houter inner hinner hcontains
    obtain ⟨outerFirst, outerLast, hfirst, hlast, houter⟩ := exists_isLines hlength hwhole houter
    obtain ⟨first, last, hfirst', hlast', hinner⟩ := exists_isLines hlength hwhole hinner
    obtain ⟨hle, hge⟩ := hcontains
    apply houter.exists_isBlock hinner
    · have hstarts : outer.startLine ≤ inner.startLine := hle
      rw [hfirst, hfirst'] at hstarts
      exact_mod_cast hstarts
    · have hends : inner.endLine ≤ outer.endLine := hge
      rw [hlast, hlast'] at hends
      exact_mod_cast hends

/-- A function that is declared to end behind the last line has the lines up to the last line
feed. -/
theorem sourceOf?_isLines_last_function :
    let content := Text.ofString "x\nf\ng\n"
    let outline : Outline := { declarations := [⟨.function, Text.ofString "f", none, 2, 9⟩] }
    let adapter : Adapter := { languageId := [], outline := fun _ _ => .ok outline }
    let path := Text.ofString "./a"
    let m : RepoModel := ⟨[(Path.normalize path, Index.entryOf adapter path content outline)]⟩
    content.length < 2 ^ 53
      ∧ (∀ d ∈ outline.declarations, d.startLine.isInteger = true ∧ d.endLine.isInteger = true)
      ∧ m.file? (Path.normalize path) = some (Index.entryOf adapter path content outline)
      ∧ ∃ s, m.sourceOf? path content (.name (Text.ofString "f")) = some s
        ∧ s.text = Text.ofString "f\ng" ∧ ∃ first last : ℕ, s.definition.startLine = first
          ∧ s.definition.endLine = last ∧ IsLines content first last s.text := by
  intro content outline adapter path m
  have hlength : content.length < 2 ^ 53 := by decide
  have hwhole : ∀ d ∈ outline.declarations,
      d.startLine.isInteger = true ∧ d.endLine.isInteger = true := by decide
  have hfile : m.file? (Path.normalize path)
      = some (Index.entryOf adapter path content outline) := List.lookup_cons_self
  have htext : (m.sourceOf? path content (.name (Text.ofString "f"))).any
      (fun s => s.text = Text.ofString "f\ng") = true := by decide +kernel
  obtain ⟨s, hs, htext⟩ := (Option.any_eq_true _ _).mp htext
  exact ⟨hlength, hwhole, hfile, s, hs, of_decide_eq_true htext,
    (sourceOf?_isLines hlength hwhole hfile hs).2.1⟩

end RepoModel

end CallAtlas
