import CallAtlas.Path.Basic
import CallAtlas.Proofs.Text.Pieces
import Mathlib.Data.List.TakeWhile

/-!
# Paths as segments

An absolute path in normal form is its segments, each with a slash before it. A path is resolved by
walking over its segments, where empty ones and `.` are no step and `..` takes a step back. A path
that ends in a name is resolved to the directory before the name, and the name.
-/

namespace CallAtlas

namespace Path

/-! ## Segments -/

/-- What stands between two slashes of a path in normal form. -/
def IsSegment (s : Text) : Prop := s ≠ [] ∧ Text.slash ∉ s

/-- The absolute path of segments. -/
def ofSegments (segments : List Text) : Text :=
  Text.slash :: Text.join [Text.slash] segments

/-- The segments of a path are what it is split into. -/
lemma filter_splitAt_ofSegments {segments : List Text} (h : ∀ s ∈ segments, IsSegment s) :
    ((Text.splitAt Text.slash (ofSegments segments)).filter fun s => s ≠ []) = segments := by
  have hsplit : Text.splitAt Text.slash (ofSegments segments)
      = [] :: Text.splitAt Text.slash (Text.join [Text.slash] segments) := by
    rw [ofSegments, Text.splitAt, if_pos rfl]
  rw [hsplit, List.filter_cons_of_neg (by simp)]
  by_cases hne : segments = []
  · rw [hne]
    rfl
  · rw [Text.splitAt_join hne fun s hs => (h s hs).2]
    exact List.filter_eq_self.mpr fun s hs => by simpa using (h s hs).1

lemma ofSegments_inj {a b : List Text} (ha : ∀ s ∈ a, IsSegment s) (hb : ∀ s ∈ b, IsSegment s)
    (h : ofSegments a = ofSegments b) : a = b := by
  rw [← filter_splitAt_ofSegments ha, ← filter_splitAt_ofSegments hb, h]

/-! ## Walking -/

/-- The segments where a path leads from given ones; the last one stands first. -/
def walk (p : Text) (walked : List Text) : List Text :=
  (Text.splitAt Text.slash p).foldl (enter true) walked

variable {absolute : Bool} {walked : List Text}

/-- An empty segment and `.` are no step. -/
lemma enter_of_blank {s : Text} (h : s = [] ∨ s = here) (walked : List Text) :
    enter absolute walked s = walked := if_pos h

/-- A segment that is a name is a step. -/
lemma enter_of_name {s : Text} (h : s ∉ [[], here, up]) (walked : List Text) :
    enter absolute walked s = s :: walked := by
  simp only [List.mem_cons, List.not_mem_nil, or_false, not_or] at h
  obtain ⟨hempty, hhere, hup⟩ := h
  unfold enter
  rw [if_neg (not_or.mpr ⟨hempty, hhere⟩), if_neg hup]

/-- Names are steps, one after another. -/
lemma foldl_enter_names {names : List Text} (h : ∀ s ∈ names, s ∉ [[], here, up])
    (walked : List Text) : names.foldl (enter absolute) walked = names.reverse ++ walked := by
  induction names generalizing walked with
  | nil => rfl
  | cons s names ih =>
    obtain ⟨hs, hnames⟩ := List.forall_mem_cons.mp h
    rw [List.foldl_cons, enter_of_name hs, ih hnames, List.reverse_cons, List.append_assoc]
    rfl

@[simp] lemma walk_nil (walked : List Text) : walk [] walked = walked := by
  show enter true walked [] = walked
  exact enter_of_blank (.inl rfl) walked

lemma walk_append_cons (a b : Text) (walked : List Text) :
    walk (a ++ Text.slash :: b) walked = walk b (walk a walked) := by
  rw [walk, Text.splitAt_append_cons, List.foldl_append]
  rfl

lemma walk_of_notMem {s : Text} (h : Text.slash ∉ s) (walked : List Text) :
    walk s walked = enter true walked s := by
  rw [walk, Text.splitAt_of_notMem h]
  rfl

lemma isSegment_of_mem_enter {s : Text} (hs : Text.slash ∉ s) (h : ∀ x ∈ walked, IsSegment x) :
    ∀ x ∈ enter true walked s, IsSegment x := by
  unfold enter
  split
  · exact h
  · next hstep =>
    split
    · split
      · exact fun x hx => nomatch hx
      · next last rest =>
        split
        · next hlast =>
          exact List.forall_mem_cons.mpr ⟨hlast ▸ h last List.mem_cons_self, h⟩
        · exact fun x hx => h x (List.mem_cons_of_mem last hx)
    · exact List.forall_mem_cons.mpr ⟨⟨fun hempty => hstep (.inl hempty), hs⟩, h⟩

lemma isSegment_of_mem_walk (p : Text) (h : ∀ x ∈ walked, IsSegment x) :
    ∀ x ∈ walk p walked, IsSegment x := by
  refine List.foldlRecOn (motive := fun walked => ∀ x ∈ walked, IsSegment x) _ _ h
    fun walked hwalked s hs => ?_
  exact isSegment_of_mem_enter (Text.notMem_of_mem_splitAt hs) hwalked

/-- Where a path starts from: an absolute one from the root, another one from a directory. -/
def start (base p : Text) : List Text := if isAbsolute p then [] else walk base []

lemma isSegment_of_mem_start (base p : Text) : ∀ x ∈ start base p, IsSegment x := by
  unfold start
  split
  · exact fun x hx => nomatch hx
  · exact isSegment_of_mem_walk base fun x hx => nomatch hx

/-- A path is resolved by walking over it. -/
lemma resolve_eq (base p : Text) :
    resolve base p = ofSegments (walk p (start base p)).reverse := by
  unfold resolve start ofSegments
  simp only
  split
  · rfl
  · rw [← walk_append_cons]
    rfl

/-! ## Slashes at the end -/

/-- Behind a path without slashes at its end there are only slashes. -/
lemma exists_append_replicate (p : Text) :
    ∃ n, p = dropTrailingSlashes p ++ List.replicate n Text.slash := by
  have hsplit := List.takeWhile_append_dropWhile (p := fun u => decide (u = Text.slash))
    (l := p.reverse)
  have htake : p.reverse.takeWhile (fun u => decide (u = Text.slash))
      = List.replicate (p.reverse.takeWhile fun u => decide (u = Text.slash)).length
          Text.slash := by
    apply List.eq_replicate_of_mem
    intro u hu
    simpa using List.mem_takeWhile_imp hu
  refine ⟨(p.reverse.takeWhile fun u => decide (u = Text.slash)).length, ?_⟩
  rw [dropTrailingSlashes, ← List.reverse_replicate, ← htake, ← List.reverse_append, hsplit,
    List.reverse_reverse]

lemma walk_append_replicate (p : Text) (n : ℕ) (walked : List Text) :
    walk (p ++ List.replicate n Text.slash) walked = walk p walked := by
  induction n generalizing p with
  | zero => rw [List.replicate_zero, List.append_nil]
  | succ n ih =>
    have hslash : walk (p ++ [Text.slash]) walked = walk p walked := by
      rw [walk_append_cons, walk_nil]
    rw [List.replicate_succ, ← List.singleton_append, ← List.append_assoc, ih, hslash]

lemma walk_dropTrailingSlashes (p : Text) (walked : List Text) :
    walk (dropTrailingSlashes p) walked = walk p walked := by
  obtain ⟨n, hn⟩ := exists_append_replicate p
  conv_rhs => rw [hn]
  exact (walk_append_replicate _ n walked).symm

end Path

end CallAtlas
