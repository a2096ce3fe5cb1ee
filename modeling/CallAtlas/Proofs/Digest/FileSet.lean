import CallAtlas.Digest.FileSet
import CallAtlas.Proofs.Text.Order
import Mathlib.Data.List.Perm.Basic
import Mathlib.Tactic.Common

/-!
# What the digest of a set of files tells

A record ends with a digest of fixed length, and its path holds no unit that is zero. So the joined
records can be taken apart again, even if a path holds a line feed, and two sets of files with the
same digest are the same unless the hash collides on a text that was hashed for them.
-/

namespace CallAtlas.Digest

variable {hash : Text → Text} {n : Nat}

/-- The records of a set of files as the one text that is hashed for it. -/
def joined (hash : Text → Text) (files : List (Text × Text)) : Text :=
  Text.join [Text.newline] (Text.sort (files.map (fileRecord hash)))

/-- The texts that are hashed for a set of files: the contents and the joined records. -/
def hashed (hash : Text → Text) (files : List (Text × Text)) : List Text :=
  joined hash files :: files.map Prod.snd

/-! ## Taking records apart -/

/-- A path and a digest with a zero between them; the path holds none, the digest has `n` digits. -/
def IsRecord (n : Nat) (r : Text) : Prop :=
  ∃ path digest : Text, r = path ++ 0 :: digest ∧ (0 : CodeUnit) ∉ path ∧ digest.length = n

lemma isRecord_fileRecord (hlen : ∀ t, (hash t).length = n) {f : Text × Text}
    (hpath : (0 : CodeUnit) ∉ f.1) : IsRecord n (fileRecord hash f) :=
  ⟨f.1, hash f.2, rfl, hpath, hlen f.2⟩

/-- What stands before the first zero of two equal texts is the same. -/
lemma append_zero_inj {p p' t t' : Text} (hp : (0 : CodeUnit) ∉ p) (hp' : (0 : CodeUnit) ∉ p')
    (h : p ++ 0 :: t = p' ++ 0 :: t') : p = p' ∧ t = t' := by
  induction p generalizing p' with
  | nil =>
    cases p' with
    | nil => exact ⟨rfl, List.tail_eq_of_cons_eq h⟩
    | cons u rest =>
      have hu : 0 = u := List.head_eq_of_cons_eq h
      exact absurd (hu ▸ List.mem_cons_self) hp'
  | cons u p ih =>
    cases p' with
    | nil =>
      have hu : u = 0 := List.head_eq_of_cons_eq h
      exact absurd (hu ▸ List.mem_cons_self) hp
    | cons v p' =>
      obtain ⟨rfl, htail⟩ := List.cons.inj h
      obtain ⟨rfl, rfl⟩ := ih (fun hm => hp (List.mem_cons_of_mem u hm))
        (fun hm => hp' (List.mem_cons_of_mem u hm)) htail
      exact ⟨rfl, rfl⟩

/-- Records at the beginning of two equal texts are equal, and so is what follows them. -/
lemma isRecord_append_inj {r r' t t' : Text} (hr : IsRecord n r) (hr' : IsRecord n r')
    (h : r ++ t = r' ++ t') : r = r' ∧ t = t' := by
  obtain ⟨p, d, rfl, hp, hd⟩ := hr
  obtain ⟨p', d', rfl, hp', hd'⟩ := hr'
  rw [List.append_assoc, List.append_assoc, List.cons_append, List.cons_append] at h
  -- The zero ends the path, and the length of a digest is fixed.
  obtain ⟨rfl, hrest⟩ := append_zero_inj hp hp' h
  obtain ⟨rfl, rfl⟩ := List.append_inj hrest (hd.trans hd'.symm)
  exact ⟨rfl, rfl⟩

/-- What follows the first record in a joined text. -/
def joinedRest (rs : List Text) : Text :=
  match rs with
  | [] => []
  | r :: rest => Text.newline :: Text.join [Text.newline] (r :: rest)

lemma join_cons (r : Text) (rest : List Text) :
    Text.join [Text.newline] (r :: rest) = r ++ joinedRest rest := by
  cases rest with
  | nil => exact (List.append_nil r).symm
  | cons s rest =>
    rw [Text.join, List.append_assoc]
    · rfl
    · intro h
      cases h

/-- Joined records can be taken apart. -/
theorem join_inj {rs rs' : List Text} (hrs : ∀ r ∈ rs, IsRecord n r)
    (hrs' : ∀ r ∈ rs', IsRecord n r)
    (h : Text.join [Text.newline] rs = Text.join [Text.newline] rs') : rs = rs' := by
  have hne : ∀ (r : Text) (rest : List Text), IsRecord n r →
      Text.join [Text.newline] (r :: rest) ≠ [] := by
    rintro r rest ⟨p, d, rfl, -, -⟩ hnil
    rw [join_cons] at hnil
    simp at hnil
  induction rs generalizing rs' with
  | nil =>
    cases rs' with
    | nil => rfl
    | cons r' rest' => exact absurd h.symm (hne r' rest' (hrs' r' List.mem_cons_self))
  | cons r rest ih =>
    cases rs' with
    | nil => exact absurd h (hne r rest (hrs r List.mem_cons_self))
    | cons r' rest' =>
      rw [join_cons, join_cons] at h
      obtain ⟨rfl, htail⟩ :=
        isRecord_append_inj (hrs r List.mem_cons_self) (hrs' r' List.mem_cons_self) h
      -- What is left is nothing on both sides, or a separator and the other records.
      have hrest : Text.join [Text.newline] rest = Text.join [Text.newline] rest' := by
        cases rest with
        | nil =>
          cases rest' with
          | nil => rfl
          | cons s rest' => cases htail
        | cons s rest =>
          cases rest' with
          | nil => cases htail
          | cons s' rest' => exact List.tail_eq_of_cons_eq htail
      rw [ih (fun s hs => hrs s (List.mem_cons_of_mem r hs))
        (fun s hs => hrs' s (List.mem_cons_of_mem r hs)) hrest]

/-! ## Files with the same digest -/

/-- Elements that a function keeps apart are permuted if their images are. -/
lemma perm_of_map_perm {α β : Type} {f : α → β} {as bs : List α}
    (hinj : ∀ a ∈ as, ∀ b ∈ bs, f a = f b → a = b) (h : (as.map f).Perm (bs.map f)) :
    as.Perm bs := by
  induction as generalizing bs with
  | nil =>
    have hbs : bs = [] := List.map_eq_nil_iff.mp h.symm.eq_nil
    rw [hbs]
  | cons a rest ih =>
    obtain ⟨b, hb, hab⟩ := List.mem_map.mp (h.mem_iff.mp List.mem_cons_self)
    obtain rfl := hinj a List.mem_cons_self b hb hab.symm
    obtain ⟨l, r, rfl⟩ := List.append_of_mem hb
    have hmiddle : (l ++ a :: r).Perm (a :: (l ++ r)) := List.perm_middle
    have hrest : (rest.map f).Perm ((l ++ r).map f) := (h.trans (hmiddle.map f)).cons_inv
    have hmem : ∀ c, c ∈ l ++ r → c ∈ l ++ a :: r := fun c hc =>
      hmiddle.mem_iff.mpr (List.mem_cons_of_mem a hc)
    exact ((ih (fun x hx c hc => hinj x (List.mem_cons_of_mem a hx) c (hmem c hc))
      hrest).cons a).trans hmiddle.symm

/-- Two sets of files with the same digest are the same, unless the hash collides on two texts that
were hashed for them. -/
theorem perm_of_fileSetWith_eq {as bs : List (Text × Text)} (hlen : ∀ t, (hash t).length = n)
    (has : ∀ f ∈ as, (0 : CodeUnit) ∉ f.1) (hbs : ∀ f ∈ bs, (0 : CodeUnit) ∉ f.1)
    (hinj : ∀ s ∈ hashed hash as, ∀ t ∈ hashed hash bs, hash s = hash t → s = t)
    (h : fileSetWith hash as = fileSetWith hash bs) : as.Perm bs := by
  -- The hash is undone twice: first for the joined records, then for the contents in them.
  have hjoined : joined hash as = joined hash bs :=
    hinj _ List.mem_cons_self _ List.mem_cons_self h
  have hrecords : ∀ {fs : List (Text × Text)}, (∀ f ∈ fs, (0 : CodeUnit) ∉ f.1) →
      ∀ r ∈ Text.sort (fs.map (fileRecord hash)), IsRecord n r := by
    intro fs hfs r hr
    rw [Text.sort, List.mem_mergeSort] at hr
    obtain ⟨f, hf, rfl⟩ := List.mem_map.mp hr
    exact isRecord_fileRecord hlen (hfs f hf)
  have hsorted := join_inj (hrecords has) (hrecords hbs) hjoined
  have hmap : (as.map (fileRecord hash)).Perm (bs.map (fileRecord hash)) := by
    apply (Text.sort_perm _).symm.trans
    rw [hsorted]
    exact Text.sort_perm _
  apply perm_of_map_perm _ hmap
  intro a ha b hb hab
  obtain ⟨hpath, hdigest⟩ := append_zero_inj (has a ha) (hbs b hb) hab
  have hcontent := hinj a.2 (List.mem_cons_of_mem _ (List.mem_map_of_mem ha)) b.2
    (List.mem_cons_of_mem _ (List.mem_map_of_mem hb)) hdigest
  exact Prod.ext hpath hcontent

/-- The joined records do not tell in which order the files came. -/
lemma joined_eq_of_perm {as bs : List (Text × Text)} (h : as.Perm bs) :
    joined hash as = joined hash bs := by
  rw [joined, joined, Text.sort_eq_of_perm (h.map (fileRecord hash))]

/-- The digest of a set of files tells the files and nothing else: two lists have the same digest
exactly if one is a permutation of the other. A path holds no zero, but it may hold anything else,
also line feeds and what looks like a record. Of the hash it is asked that its digests have 64
digits and that it tells the texts apart that were hashed for the two lists. -/
theorem fileSetWith_eq_iff_perm {as bs : List (Text × Text)} (hlen : ∀ t, (hash t).length = 64)
    (has : ∀ f ∈ as, (0 : CodeUnit) ∉ f.1) (hbs : ∀ f ∈ bs, (0 : CodeUnit) ∉ f.1)
    (hinj : ∀ s ∈ hashed hash as, ∀ t ∈ hashed hash bs, hash s = hash t → s = t) :
    fileSetWith hash as = fileSetWith hash bs ↔ as.Perm bs := by
  constructor
  · exact perm_of_fileSetWith_eq hlen has hbs hinj
  · intro h
    exact congrArg hash (joined_eq_of_perm h)

/-- A file whose path holds a line feed, and two files whose paths are the parts of that path. -/
def brokenPath : List (Text × Text) := [("a.py\nb.py", "x")]

@[inherit_doc brokenPath]
def pathParts : List (Text × Text) := [("a.py", "x"), ("b.py", "x")]

/-- What is hashed for files that are listed in the order of their records. -/
lemma hashed_of_pairwise {files : List (Text × Text)}
    (h : (files.map (fileRecord hash)).Pairwise (· ≤ ·)) :
    hashed hash files
      = Text.join [Text.newline] (files.map (fileRecord hash)) :: files.map Prod.snd := by
  rw [hashed, joined, Text.sort_of_pairwise h]

/-- One path with a line feed in it is told from two paths. -/
theorem fileSetWith_eq_iff_perm_brokenPath : (∀ t, (ofText t).length = 64)
    ∧ (∀ f ∈ brokenPath, (0 : CodeUnit) ∉ f.1) ∧ (∀ f ∈ pathParts, (0 : CodeUnit) ∉ f.1)
    ∧ (∀ s ∈ hashed ofText brokenPath, ∀ t ∈ hashed ofText pathParts, ofText s = ofText t → s = t)
    ∧ fileSet brokenPath ≠ fileSet pathParts := by
  have hlen : ∀ t, (ofText t).length = 64 := fun t => length_ofBytes t.toUtf8
  have hbroken : ∀ f ∈ brokenPath, (0 : CodeUnit) ∉ f.1 := by decide
  have hparts : ∀ f ∈ pathParts, (0 : CodeUnit) ∉ f.1 := by decide
  have hinj : ∀ s ∈ hashed ofText brokenPath, ∀ t ∈ hashed ofText pathParts,
      ofText s = ofText t → s = t := by
    rw [hashed_of_pairwise (by decide), hashed_of_pairwise (by decide +kernel)]
    decide +kernel
  refine ⟨hlen, hbroken, hparts, hinj, ?_⟩
  intro h
  have hperm := (fileSetWith_eq_iff_perm hlen hbroken hparts hinj).mp h
  exact absurd hperm.length_eq (by decide)

end CallAtlas.Digest
