import CallAtlas.Proofs.Json.Order
import CallAtlas.Proofs.Json.Strings
import CallAtlas.Proofs.Number.Whole

/-!
# Reading what was written

A value whose numbers are natural numbers of the number format and whose members are in order is
read back as it was written, in every layout, and what is written is a well-formed text.
-/

namespace CallAtlas

namespace Json

/-- A document keeps this value: its numbers are natural numbers of the number format, and the
members of its objects are in order. -/
inductive IsKept : Json → Prop
  | null : IsKept .null
  | bool (b : Bool) : IsKept (.bool b)
  | num {n : Number} (hn : n.IsWhole) : IsKept (.num n)
  | str (s : Text) : IsKept (.str s)
  | arr {es : List Json} (hes : ∀ e ∈ es, IsKept e) : IsKept (.arr es)
  | obj {ms : List (Text × Json)} (horder : InOrder ms) (hms : ∀ m ∈ ms, IsKept m.2) :
      IsKept (.obj ms)

/-! ## What comes after a value -/

section

variable (style : Style)

mutual

theorem render_append (level : ℕ) : (j : Json) → (a b : Text) →
    render style level j (a ++ b) = render style level j a ++ b
  | .null, a, b => by simp only [render, List.append_assoc]
  | .bool _, a, b => by simp only [render, List.append_assoc]
  | .num _, a, b => by simp only [render, List.append_assoc]
  | .infinite _, a, b => by simp only [render, List.append_assoc]
  | .str _, a, b => by simp only [render, List.append_assoc]
  | .arr [], a, b => by simp only [render, List.append_assoc]
  | .arr (e :: es), a, b => by
    simp only [render, List.cons_append, List.append_assoc, ← render_append (level + 1) e,
      ← renderElements_append (level + 1) es]
  | .obj [], a, b => by simp only [render, List.append_assoc]
  | .obj (m :: ms), a, b => by
    simp only [render, List.cons_append, List.append_assoc,
      ← renderMembers_append (level + 1) true (m :: ms)]

theorem renderElements_append (level : ℕ) : (es : List Json) → (a b : Text) →
    renderElements style level es (a ++ b) = renderElements style level es a ++ b
  | [], a, b => by simp only [renderElements]
  | e :: es, a, b => by
    simp only [renderElements, List.cons_append, List.append_assoc, ← render_append level e,
      ← renderElements_append level es]

theorem renderMembers_append (level : ℕ) (first : Bool) : (ms : List (Text × Json)) →
    (a b : Text) → renderMembers style level first ms (a ++ b)
      = renderMembers style level first ms a ++ b
  | [], a, b => by simp only [renderMembers]
  | (_, v) :: ms, a, b => by
    simp only [renderMembers, List.cons_append, List.append_assoc, ← render_append level v,
      ← renderMembers_append level false ms]

end

variable {style}

lemma length_render (level : ℕ) (j : Json) (after : Text) :
    (render style level j after).length = (render style level j []).length + after.length := by
  rw [← List.length_append, ← render_append, List.nil_append]

lemma length_renderElements (level : ℕ) (es : List Json) (after : Text) :
    (renderElements style level es after).length
      = (renderElements style level es []).length + after.length := by
  rw [← List.length_append, ← renderElements_append, List.nil_append]

lemma length_renderMembers (level : ℕ) (first : Bool) (ms : List (Text × Json)) (after : Text) :
    (renderMembers style level first ms after).length
      = (renderMembers style level first ms []).length + after.length := by
  rw [← List.length_append, ← renderMembers_append, List.nil_append]

end

/-! ## Blanks -/

/-- A unit that the reader skips between values. -/
def isBlank (u : CodeUnit) : Bool := u == 0x20 || u == 0x09 || u == 0x0A || u == 0x0D

lemma skipBlanks_append {blanks rest : Text} (h : ∀ u ∈ blanks, isBlank u = true) {v : CodeUnit}
    (hv : isBlank v = false) : skipBlanks (blanks ++ v :: rest) = v :: rest := by
  change List.dropWhile isBlank (blanks ++ v :: rest) = v :: rest
  rw [List.dropWhile_append_of_pos h, List.dropWhile_cons_of_neg (by rw [hv]; decide)]

lemma skipBlanks_cons {u : CodeUnit} (hu : isBlank u = false) (rest : Text) :
    skipBlanks (u :: rest) = u :: rest := by
  change List.dropWhile isBlank (u :: rest) = u :: rest
  rw [List.dropWhile_cons_of_neg (by rw [hu]; decide)]

lemma isBlank_of_mem_lineBreak {style : Style} {level : ℕ} :
    ∀ u ∈ lineBreak style level, isBlank u = true := by
  intro u hu
  unfold lineBreak at hu
  split at hu
  · cases hu
  · rcases List.mem_cons.mp hu with rfl | hu
    · decide
    · rw [List.eq_of_mem_replicate hu]
      decide

lemma skipBlanks_lineBreak (style : Style) (level : ℕ) {u : CodeUnit} (hu : isBlank u = false)
    (rest : Text) : skipBlanks (lineBreak style level ++ u :: rest) = u :: rest :=
  skipBlanks_append isBlank_of_mem_lineBreak hu

lemma endsNumber_cons {u : CodeUnit} (h : digitValue u = none ∧ u ≠ Text.unit '.'
    ∧ u ≠ Text.unit 'e' ∧ u ≠ Text.unit 'E') (rest : Text) : EndsNumber (u :: rest) := by
  intro v hv
  rw [← Option.some.inj hv]
  exact h

lemma endsNumber_lineBreak {style : Style} {level : ℕ} {rest : Text} (h : EndsNumber rest) :
    EndsNumber (lineBreak style level ++ rest) := by
  unfold lineBreak
  split
  · exact h
  · exact endsNumber_cons (by decide) _

lemma endsNumber_renderElements {style : Style} {level : ℕ} (es : List Json) {rest : Text}
    (h : EndsNumber rest) : EndsNumber (renderElements style level es rest) := by
  cases es with
  | nil =>
    rw [renderElements]
    exact h
  | cons e es =>
    rw [renderElements]
    exact endsNumber_cons (by decide) _

lemma endsNumber_renderMembers {style : Style} {level : ℕ} (ms : List (Text × Json)) {rest : Text}
    (h : EndsNumber rest) : EndsNumber (renderMembers style level false ms rest) := by
  cases ms with
  | nil =>
    rw [renderMembers]
    exact h
  | cons m ms =>
    rw [renderMembers]
    exact endsNumber_cons (by decide) _

/-! ## How a value starts -/

/-- What a value starts with: no blank and no bracket that ends an array. -/
lemma exists_cons_render (style : Style) {j : Json} (h : IsKept j) (level : ℕ) (after : Text) :
    ∃ u rest, render style level j after = u :: rest ∧ isBlank u = false
      ∧ u ≠ Text.unit ']' := by
  cases h with
  | null => exact ⟨Text.unit 'n', _, by rw [render]; rfl, by decide, by decide⟩
  | bool b =>
    cases b with
    | false => exact ⟨Text.unit 'f', _, by rw [render]; rfl, by decide, by decide⟩
    | true => exact ⟨Text.unit 't', _, by rw [render]; rfl, by decide, by decide⟩
  | num hn =>
    obtain ⟨u, rest, htext, hdigit⟩ := hn.exists_digit
    refine ⟨u, rest ++ after, by rw [render, htext]; rfl, ?_, ?_⟩
    · obtain ⟨d, hd⟩ := Option.isSome_iff_exists.mp hdigit
      obtain ⟨hlt, rfl⟩ := digitValue_eq_some hd
      have hall : ∀ d : Fin 10, isBlank (Text.digit d) = false := by decide
      exact hall ⟨d, hlt⟩
    · rintro rfl
      exact absurd hdigit (by decide)
  | str s => exact ⟨0x22, _, by rw [render, quote]; rfl, by decide, by decide⟩
  | @arr es _ =>
    cases es with
    | nil => exact ⟨Text.unit '[', _, by rw [render]; rfl, by decide, by decide⟩
    | cons e es => exact ⟨Text.unit '[', _, by rw [render], by decide, by decide⟩
  | @obj ms _ _ =>
    cases ms with
    | nil => exact ⟨Text.unit '\x7b', _, by rw [render]; rfl, by decide, by decide⟩
    | cons m ms => exact ⟨Text.unit '\x7b', _, by rw [render], by decide, by decide⟩

/-- A value has a unit at least. -/
lemma length_render_pos (style : Style) {j : Json} (h : IsKept j) (level : ℕ) :
    0 < (render style level j []).length := by
  obtain ⟨u, rest, htext, -⟩ := exists_cons_render style h level []
  rw [htext]
  exact Nat.succ_pos _

/-! ## Reading -/

/-- The reader gives a value back, wherever it stands, with a step for each of its units. -/
def ReadsBack (style : Style) (j : Json) : Prop :=
  ∀ (fuel level : ℕ) (blanks after : Text), (∀ u ∈ blanks, isBlank u = true) → EndsNumber after →
    (render style level j []).length ≤ fuel →
    readValue fuel (blanks ++ render style level j after) = some (j, after)

section

variable {style : Style}

lemma readWord_append (word : String) (value : Json) (after : Text) :
    readWord word value (Text.ofString word ++ after) = some (value, after) := by
  have hopens : (Text.ofString word).isPrefixOf (Text.ofString word ++ after) = true :=
    List.isPrefixOf_iff_prefix.mpr (List.prefix_append _ _)
  rw [readWord]
  simp only [hopens, if_true, List.drop_left]

/-- Behind blanks the reader meets what a value starts with. -/
lemma skipBlanks_render (style : Style) {j : Json} (h : IsKept j) {blanks : Text}
    (hblanks : ∀ u ∈ blanks, isBlank u = true) (level : ℕ) (after : Text) :
    skipBlanks (blanks ++ render style level j after) = render style level j after := by
  obtain ⟨u, rest, htext, hblank, -⟩ := exists_cons_render style h level after
  rw [htext]
  exact skipBlanks_append hblanks hblank

lemma readsBack_null : ReadsBack style .null := by
  intro fuel level blanks after hblanks _ hfuel
  obtain ⟨fuel, rfl⟩ := Nat.exists_eq_add_one.mpr
    (Nat.lt_of_lt_of_le (length_render_pos style .null level) hfuel)
  have hskip := skipBlanks_render style .null hblanks level after
  rw [render] at hskip ⊢
  rw [readValue, hskip]
  exact readWord_append "null" .null after

lemma readsBack_bool (b : Bool) : ReadsBack style (.bool b) := by
  intro fuel level blanks after hblanks _ hfuel
  obtain ⟨fuel, rfl⟩ := Nat.exists_eq_add_one.mpr
    (Nat.lt_of_lt_of_le (length_render_pos style (.bool b) level) hfuel)
  have hskip := skipBlanks_render style (.bool b) hblanks level after
  rw [render] at hskip ⊢
  rw [readValue, hskip]
  cases b with
  | false => exact readWord_append "false" (.bool false) after
  | true => exact readWord_append "true" (.bool true) after

lemma readsBack_str (s : Text) : ReadsBack style (.str s) := by
  intro fuel level blanks after hblanks _ hfuel
  obtain ⟨fuel, rfl⟩ := Nat.exists_eq_add_one.mpr
    (Nat.lt_of_lt_of_le (length_render_pos style (.str s) level) hfuel)
  have hskip := skipBlanks_render style (.str s) hblanks level after
  have hread := readString_escape style.asciiOnly s [] after
  rw [render, quote, List.cons_append, List.append_assoc, List.singleton_append] at hskip ⊢
  rw [readValue, hskip]
  change (readString [] (escape style.asciiOnly s ++ 0x22 :: after)).map _ = _
  rw [hread]
  rfl

lemma readsBack_num {n : Number} (hn : n.IsWhole) : ReadsBack style (.num n) := by
  intro fuel level blanks after hblanks hafter hfuel
  obtain ⟨fuel, rfl⟩ := Nat.exists_eq_add_one.mpr
    (Nat.lt_of_lt_of_le (length_render_pos style (.num hn) level) hfuel)
  have hskip := skipBlanks_render style (.num hn) hblanks level after
  have hread := readNumber_toText hn hafter
  obtain ⟨u, rest, htext, hdigit⟩ := hn.exists_digit
  rw [render, htext, List.cons_append] at hskip ⊢
  rw [htext, List.cons_append] at hread
  rw [readValue, hskip]
  obtain ⟨d, hd⟩ := Option.isSome_iff_exists.mp hdigit
  obtain ⟨hlt, rfl⟩ := digitValue_eq_some hd
  -- A digit starts none of the other values.
  have hother : ∀ d : Fin 10, (Text.digit d == 0x22) = false
      ∧ (Text.digit d == Text.unit '[') = false ∧ (Text.digit d == Text.unit '\x7b') = false
      ∧ (Text.digit d == Text.unit 't') = false
      ∧ (Text.digit d == Text.unit 'f') = false ∧ (Text.digit d == Text.unit 'n') = false := by
    decide
  obtain ⟨h1, h2, h3, h4, h5, h6⟩ := hother ⟨d, hlt⟩
  simp only [h1, h2, h3, h4, h5, h6, Bool.false_eq_true, if_false]
  exact hread

/-- The elements of an array are read one by one. -/
lemma readElements_render (closing : ℕ) (after : Text) {es : List Json} {e : Json}
    (he : ReadsBack style e) (hes : ∀ x ∈ es, IsKept x ∧ ReadsBack style x) {fuel level : ℕ}
    (hfuel : (render style level e []).length + (renderElements style level es []).length + 1
      ≤ fuel) (acc : List Json) :
    readElements fuel (lineBreak style level ++ render style level e (renderElements style level es
      (lineBreak style closing ++ Text.unit ']' :: after))) acc
        = some (acc.reverse ++ e :: es, after) := by
  have hends : EndsNumber (renderElements style level es
      (lineBreak style closing ++ Text.unit ']' :: after)) :=
    endsNumber_renderElements es (endsNumber_lineBreak (endsNumber_cons (by decide) _))
  induction es generalizing e fuel acc with
  | nil =>
    obtain ⟨fuel, rfl⟩ := Nat.exists_eq_add_one.mpr (show 0 < fuel by omega)
    rw [readElements, he fuel level _ _ isBlank_of_mem_lineBreak hends (by omega), renderElements]
    simp only [skipBlanks_lineBreak style closing (by decide : isBlank (Text.unit ']') = false)]
    rw [if_neg (by decide), if_pos (by decide), List.reverse_cons]
  | cons x es ih =>
    obtain ⟨hx, hes⟩ := List.forall_mem_cons.mp hes
    -- An element takes one step, and there is at least one unit for it.
    have hpos := length_render_pos style hx.1 level
    have hlength : (renderElements style level (x :: es) []).length
        = 1 + (lineBreak style level).length + (render style level x []).length
          + (renderElements style level es []).length := by
      rw [renderElements, List.length_cons, List.length_append, length_render]
      omega
    obtain ⟨fuel, rfl⟩ := Nat.exists_eq_add_one.mpr (show 0 < fuel by omega)
    rw [readElements, he fuel level _ _ isBlank_of_mem_lineBreak hends (by omega), renderElements]
    have hcomma := skipBlanks_cons (by decide : isBlank (Text.unit ',') = false)
      (lineBreak style level ++ render style level x (renderElements style level es
        (lineBreak style closing ++ Text.unit ']' :: after)))
    simp only [hcomma]
    rw [if_pos (beq_self_eq_true _), ih hx.2 hes (by omega) (e :: acc)
      (endsNumber_renderElements es (endsNumber_lineBreak (endsNumber_cons (by decide) _))),
      List.reverse_cons, List.append_assoc, List.singleton_append]

lemma readValue_bracket {fuel : ℕ} {t rest after : Text} {v : CodeUnit}
    (ht : skipBlanks t = Text.unit '[' :: rest) (hrest : skipBlanks rest = v :: after)
    (hv : v ≠ Text.unit ']') :
    readValue (fuel + 1) t = (readElements fuel rest []).map fun p => (.arr p.1, p.2) := by
  have hbracket : (v == Text.unit ']') = false := beq_eq_false_iff_ne.mpr hv
  have hquote : (Text.unit '[' == 0x22) = false := by decide
  rw [readValue, ht]
  simp only [hrest, hquote, hbracket, beq_self_eq_true, if_true, if_false, Bool.false_eq_true]

lemma readsBack_arr {es : List Json} (hes : ∀ e ∈ es, IsKept e ∧ ReadsBack style e) :
    ReadsBack style (.arr es) := by
  intro fuel level blanks after hblanks _ hfuel
  have hkept : IsKept (.arr es) := .arr fun e he => (hes e he).1
  obtain ⟨fuel, rfl⟩ := Nat.exists_eq_add_one.mpr
    (Nat.lt_of_lt_of_le (length_render_pos style hkept level) hfuel)
  have hskip := skipBlanks_render style hkept hblanks level after
  cases es with
  | nil =>
    rw [render] at hskip ⊢
    rw [readValue, hskip]
    rfl
  | cons e es =>
    obtain ⟨he, hes⟩ := List.forall_mem_cons.mp hes
    rw [render] at hskip ⊢
    obtain ⟨u, rest, htext, hblank, hbracket⟩ := exists_cons_render style he.1 (level + 1)
      (renderElements style (level + 1) es (lineBreak style level ++ Text.unit ']' :: after))
    have hfirst := skipBlanks_lineBreak style (level + 1) hblank rest
    rw [← htext] at hfirst
    -- The brackets take two units, so what is left of the fuel is enough for the elements.
    have hlength : (render style level (.arr (e :: es)) []).length
        = 2 + (lineBreak style (level + 1)).length + (render style (level + 1) e []).length
          + (renderElements style (level + 1) es []).length + (lineBreak style level).length := by
      rw [render, List.length_cons, List.length_append, length_render, length_renderElements,
        List.length_append, List.length_singleton]
      omega
    have henough : (render style (level + 1) e []).length
        + (renderElements style (level + 1) es []).length + 1 ≤ fuel := by omega
    have hread := readElements_render level after he.2 hes henough []
    rw [readValue_bracket hskip (hfirst.trans htext) hbracket, hread]
    rfl

/-- The blank between a name and its value, if each member has a line of its own. -/
private def space (style : Style) : Text := if style.indent.isSome then [0x20] else []

private lemma isBlank_of_mem_space : ∀ u ∈ space style, isBlank u = true := by
  unfold space
  split <;> exact List.all_eq_true.mp (by decide)

private lemma renderMembers_first (level : ℕ) (name : Text) (value : Json)
    (ms : List (Text × Json)) (rest : Text) :
    renderMembers style level true ((name, value) :: ms) rest
      = lineBreak style level ++ (0x22 :: (escape style.asciiOnly name ++ 0x22 :: Text.unit ':'
        :: (space style ++ render style level value
          (renderMembers style level false ms rest)))) := by
  rw [renderMembers, if_pos rfl, quote]
  simp only [List.nil_append, List.append_assoc, List.cons_append, space]

private lemma renderMembers_next (level : ℕ) (m : Text × Json) (ms : List (Text × Json))
    (rest : Text) :
    renderMembers style level false (m :: ms) rest
      = Text.unit ',' :: renderMembers style level true (m :: ms) rest := by
  rw [renderMembers, renderMembers, if_neg Bool.false_ne_true, if_pos rfl]
  simp only [List.nil_append, List.append_assoc, List.cons_append]

private lemma length_renderMembers_first (level : ℕ) (name : Text) (value : Json)
    (ms : List (Text × Json)) :
    (renderMembers style level true ((name, value) :: ms) []).length
      = (lineBreak style level).length + (escape style.asciiOnly name).length
        + (space style).length + (render style level value []).length
        + (renderMembers style level false ms []).length + 3 := by
  rw [renderMembers_first, List.length_append, List.length_cons, List.length_append,
    List.length_cons, List.length_cons, List.length_append, length_render]
  omega

/-- One member is read, whatever comes after it. -/
private lemma readMembers_succ {value : Json} (hvalue : ReadsBack style value) {fuel level : ℕ}
    (hfuel : (render style level value []).length ≤ fuel) {rest : Text} (hrest : EndsNumber rest)
    {w : CodeUnit} {after : Text} (hnext : skipBlanks rest = w :: after) (name : Text)
    (acc : List (Text × Json)) :
    readMembers (fuel + 1) (lineBreak style level ++ (0x22 :: (escape style.asciiOnly name ++ 0x22
        :: Text.unit ':' :: (space style ++ render style level value rest)))) acc
      = if w == Text.unit ',' then readMembers fuel after ((name, value) :: acc)
        else if w == Text.unit '\x7d' then some (((name, value) :: acc).reverse, after)
        else none := by
  have hname := readString_escape style.asciiOnly name []
    (Text.unit ':' :: (space style ++ render style level value rest))
  have hcolon := skipBlanks_cons (by decide : isBlank (Text.unit ':') = false)
    (space style ++ render style level value rest)
  rw [readMembers, skipBlanks_lineBreak style level (by decide)]
  simp only [hname, hcolon, bne_self_eq_false, Bool.false_eq_true, if_false, List.reverse_nil,
    List.nil_append, hvalue fuel level _ rest isBlank_of_mem_space hrest hfuel, hnext]

/-- The members of an object are read one by one. -/
lemma readMembers_render (closing : ℕ) (after : Text) {ms : List (Text × Json)} {m : Text × Json}
    (hm : ReadsBack style m.2) (hms : ∀ m ∈ ms, ReadsBack style m.2) {fuel level : ℕ}
    (hfuel : (renderMembers style level true (m :: ms) []).length ≤ fuel)
    (acc : List (Text × Json)) :
    readMembers fuel (renderMembers style level true (m :: ms)
      (lineBreak style closing ++ Text.unit '\x7d' :: after)) acc
        = some (acc.reverse ++ m :: ms, after) := by
  have hends : ∀ ms, EndsNumber (renderMembers style level false ms
      (lineBreak style closing ++ Text.unit '\x7d' :: after)) := fun ms =>
    endsNumber_renderMembers ms (endsNumber_lineBreak (endsNumber_cons (by decide) _))
  induction ms generalizing m fuel acc with
  | nil =>
    obtain ⟨name, value⟩ := m
    rw [length_renderMembers_first] at hfuel
    obtain ⟨fuel, rfl⟩ := Nat.exists_eq_add_one.mpr (show 0 < fuel by omega)
    have hvalue : (render style level value []).length ≤ fuel := by omega
    have hbrace : skipBlanks (renderMembers style level false []
        (lineBreak style closing ++ Text.unit '\x7d' :: after)) = Text.unit '\x7d' :: after := by
      rw [renderMembers, skipBlanks_lineBreak style closing (by decide)]
    rw [renderMembers_first, readMembers_succ hm hvalue (hends []) hbrace, if_neg (by decide),
      if_pos (by decide), List.reverse_cons]
  | cons next ms ih =>
    obtain ⟨name, value⟩ := m
    obtain ⟨hnext, hms⟩ := List.forall_mem_cons.mp hms
    rw [length_renderMembers_first, renderMembers_next, List.length_cons] at hfuel
    obtain ⟨fuel, rfl⟩ := Nat.exists_eq_add_one.mpr (show 0 < fuel by omega)
    have hvalue : (render style level value []).length ≤ fuel := by omega
    have hends := hends (next :: ms)
    rw [renderMembers_next] at hends
    have hcomma := skipBlanks_cons (by decide : isBlank (Text.unit ',') = false)
      (renderMembers style level true (next :: ms)
        (lineBreak style closing ++ Text.unit '\x7d' :: after))
    rw [renderMembers_first, renderMembers_next, readMembers_succ hm hvalue hends hcomma,
      if_pos (beq_self_eq_true _), ih hnext hms (by omega), List.reverse_cons, List.append_assoc,
      List.singleton_append]

lemma readValue_brace {fuel : ℕ} {t rest after : Text} {v : CodeUnit}
    (ht : skipBlanks t = Text.unit '\x7b' :: rest) (hrest : skipBlanks rest = v :: after)
    (hv : v ≠ Text.unit '\x7d') :
    readValue (fuel + 1) t = (readMembers fuel rest []).map fun p => (ofMembers p.1, p.2) := by
  have hbrace : (v == Text.unit '\x7d') = false := beq_eq_false_iff_ne.mpr hv
  have hquote : (Text.unit '\x7b' == 0x22) = false := by decide
  have hbracket : (Text.unit '\x7b' == Text.unit '[') = false := by decide
  rw [readValue, ht]
  simp only [hrest, hquote, hbracket, hbrace, beq_self_eq_true, if_true, if_false,
    Bool.false_eq_true]

lemma readsBack_obj {ms : List (Text × Json)} (horder : InOrder ms)
    (hms : ∀ m ∈ ms, IsKept m.2 ∧ ReadsBack style m.2) : ReadsBack style (.obj ms) := by
  intro fuel level blanks after hblanks _ hfuel
  have hkept : IsKept (.obj ms) := .obj horder fun m hm => (hms m hm).1
  obtain ⟨fuel, rfl⟩ := Nat.exists_eq_add_one.mpr
    (Nat.lt_of_lt_of_le (length_render_pos style hkept level) hfuel)
  have hskip := skipBlanks_render style hkept hblanks level after
  cases ms with
  | nil =>
    rw [render] at hskip ⊢
    rw [readValue, hskip]
    rfl
  | cons m ms =>
    obtain ⟨hm, hms⟩ := List.forall_mem_cons.mp hms
    rw [render] at hskip hfuel ⊢
    rw [List.length_cons, length_renderMembers] at hfuel
    have henough : (renderMembers style (level + 1) true (m :: ms) []).length ≤ fuel := by omega
    have hread := readMembers_render level after hm.2 (fun m hm => (hms m hm).2) henough []
    obtain ⟨name, value⟩ := m
    have hfirst := skipBlanks_lineBreak style (level + 1) (by decide : isBlank 0x22 = false)
      (escape style.asciiOnly name ++ 0x22 :: Text.unit ':' :: (space style
        ++ render style (level + 1) value (renderMembers style (level + 1) false ms
          (lineBreak style level ++ Text.unit '\x7d' :: after))))
    rw [← renderMembers_first] at hfirst
    rw [readValue_brace hskip hfirst (by decide), hread]
    simp only [Option.map_some, List.reverse_nil, List.nil_append, ofMembers,
      orderMembers_of_inOrder horder]

/-- The reader gives every value back that documents keep. -/
theorem IsKept.readsBack (style : Style) {j : Json} (h : IsKept j) : ReadsBack style j := by
  induction h with
  | null => exact readsBack_null
  | bool b => exact readsBack_bool b
  | num hn => exact readsBack_num hn
  | str s => exact readsBack_str s
  | arr hes ih => exact readsBack_arr fun e he => ⟨hes e he, ih e he⟩
  | obj horder hms ih => exact readsBack_obj horder fun m hm => ⟨hms m hm, ih m hm⟩

end

/-- A value that documents keep is what its text is read as, with blanks after it. -/
theorem parse?_render {j : Json} (h : IsKept j) (style : Style) {blanks : Text}
    (hblanks : ∀ u ∈ blanks, isBlank u = true) :
    parse? (render style 0 j [] ++ blanks) = some j := by
  have hends : EndsNumber blanks := by
    intro u hu
    have hblank := hblanks u (List.mem_of_mem_head? hu)
    simp only [isBlank, Bool.or_eq_true, beq_iff_eq] at hblank
    rcases hblank with ((rfl | rfl) | rfl) | rfl <;> decide
  have hread := h.readsBack style ((render style 0 j [] ++ blanks).length + 2) 0 []
    blanks (by simp) hends (by rw [List.length_append]; omega)
  have hrest : skipBlanks blanks = [] := by
    have hdrop : (blanks ++ []).dropWhile isBlank = [] := List.dropWhile_append_of_pos hblanks
    rwa [List.append_nil] at hdrop
  rw [List.nil_append] at hread
  rw [parse?, ← render_append, List.nil_append]
  rw [← render_append, List.nil_append] at hread
  simp only [hread, hrest, List.isEmpty_nil, if_true]

/-! ## Well-formed documents -/

section

variable {style : Style}

private lemma wellFormed_ascii {u : CodeUnit} (h : u.toNat < 0x80) {t : Text}
    (ht : Text.WellFormed t) : Text.WellFormed (u :: t) :=
  .unit (isSurrogate_eq_false_of_lt h).1 (isSurrogate_eq_false_of_lt h).2 ht

private lemma wellFormed_lineBreak (level : ℕ) : Text.WellFormed (lineBreak style level) := by
  apply Text.WellFormed.of_forall
  intro u hu
  have hblank := isBlank_of_mem_lineBreak u hu
  simp only [isBlank, Bool.or_eq_true, beq_iff_eq] at hblank
  rcases hblank with ((rfl | rfl) | rfl) | rfl <;> decide

/-- A text in quotes is well formed. -/
lemma wellFormed_quote (asciiOnly : Bool) (s : Text) : Text.WellFormed (quote asciiOnly s) :=
  wellFormed_ascii (by decide)
    ((wellFormed_escape asciiOnly s).append (wellFormed_ascii (by decide) .nil))

mutual

/-- What is written of a value is well formed. -/
theorem wellFormed_render (level : ℕ) : (j : Json) → (after : Text) → Text.WellFormed after →
    Text.WellFormed (render style level j after)
  | .null, _, h => by
    rw [render]
    exact (Text.wellFormed_ofString _).append h
  | .bool _, _, h => by
    rw [render]
    exact (Text.wellFormed_ofString _).append h
  | .num _, _, h => by
    rw [render]
    exact (Text.wellFormed_ofString _).append h
  | .infinite _, _, h => by
    rw [render]
    exact (Text.wellFormed_ofString _).append h
  | .str _, _, h => by
    rw [render]
    exact (wellFormed_quote _ _).append h
  | .arr [], _, h => by
    rw [render]
    exact (Text.wellFormed_ofString _).append h
  | .arr (e :: es), _, h => by
    rw [render]
    exact wellFormed_ascii (by decide) ((wellFormed_lineBreak _).append
      (wellFormed_render (level + 1) e _ (wellFormed_renderElements (level + 1) es _
        ((wellFormed_lineBreak _).append (wellFormed_ascii (by decide) h)))))
  | .obj [], _, h => by
    rw [render]
    exact (Text.wellFormed_ofString _).append h
  | .obj (m :: ms), _, h => by
    rw [render]
    exact wellFormed_ascii (by decide) (wellFormed_renderMembers (level + 1) true (m :: ms) _
      ((wellFormed_lineBreak _).append (wellFormed_ascii (by decide) h)))

theorem wellFormed_renderElements (level : ℕ) : (es : List Json) → (after : Text) →
    Text.WellFormed after → Text.WellFormed (renderElements style level es after)
  | [], _, h => by
    rw [renderElements]
    exact h
  | e :: es, _, h => by
    rw [renderElements]
    exact wellFormed_ascii (by decide) ((wellFormed_lineBreak _).append
      (wellFormed_render level e _ (wellFormed_renderElements level es _ h)))

theorem wellFormed_renderMembers (level : ℕ) (first : Bool) : (ms : List (Text × Json)) →
    (after : Text) → Text.WellFormed after →
    Text.WellFormed (renderMembers style level first ms after)
  | [], _, h => by
    rw [renderMembers]
    exact h
  | (name, v) :: ms, _, h => by
    have hcomma : Text.WellFormed (if first then [] else [Text.unit ',']) := by
      split
      · exact .nil
      · exact wellFormed_ascii (by decide) .nil
    have hspace : Text.WellFormed (if style.indent.isSome then [0x20] else []) := by
      split
      · exact wellFormed_ascii (by decide) .nil
      · exact .nil
    rw [renderMembers]
    exact ((hcomma.append (wellFormed_lineBreak _)).append (wellFormed_quote _ _)).append
      (wellFormed_ascii (by decide) (hspace.append (wellFormed_render level v _
        (wellFormed_renderMembers level false ms _ h))))

end

end

end Json

end CallAtlas
