import CallAtlas.Json.Decoder
import CallAtlas.Proofs.Text.Characters

/-!
# Decoding what was encoded

One lemma for each decoder: on the JSON value that stands for a value of its kind it gives that
value. An object is decoded member by member, and a member is found by its name.
-/

namespace CallAtlas

namespace Decoder

variable {α β : Type}

/-! ## Values -/

lemma text_str {minLength : ℕ} {s : Text} (h : minLength ≤ s.length) :
    text minLength (some (.str s)) = .ok s := by
  rw [text, if_neg (by omega)]

lemma integer_num {low : Int} {n : Number} (hwhole : n.den = 1) (hlow : (low : Rat) ≤ n) :
    integer low none (some (.num n)) = .ok n := by
  have hnot : ¬ n < (low : Rat) := Rat.not_lt.mpr hlow
  simp only [integer, integerIssues, hwhole, hnot, beq_self_eq_true, if_true, decide_false,
    Bool.false_eq_true, if_false, List.append_nil]

lemma literal_ofNat (n : ℕ) : literal n (some (Json.ofNat n)) = .ok () := by
  rw [Json.ofNat, literal, if_pos rfl]

lemma optional_map {value : Decoder α} {toJson : α → Json} {a : Option α}
    (h : ∀ x ∈ a, value (some (toJson x)) = .ok x) :
    optional value (a.map toJson) = .ok a := by
  cases a with
  | none => rfl
  | some x =>
    rw [Option.map_some, optional, h x rfl]
    rfl

lemma list_arr {element : Decoder α} {toJson : α → Json} {xs : List α}
    (h : ∀ x ∈ xs, element (some (toJson x)) = .ok x) :
    list element (some (.arr (xs.map toJson))) = .ok xs := by
  have hall : ∀ k, Verdict.all (((xs.map toJson).zipIdx k).map fun e =>
      (element (some e.1)).within (Text.ofNat e.2)) = .ok xs := by
    induction xs with
    | nil => exact fun _ => rfl
    | cons x xs ih =>
      obtain ⟨hx, hxs⟩ := List.forall_mem_cons.mp h
      intro k
      rw [List.map_cons, List.zipIdx_cons, List.map_cons, Verdict.all, hx, ih hxs]
      rfl
  exact hall 0

lemma entries_obj {value : Decoder α} {toJson : α → Json} {es : List (Text × α)}
    (h : ∀ e ∈ es, value (some (toJson e.2)) = .ok e.2)
    (hproto : Text.ofString "__proto__" ∉ es.map Prod.fst) :
    entries value (some (.obj (es.map fun e => (e.1, toJson e.2)))) = .ok es := by
  have hall : Verdict.all ((es.map fun e => (e.1, toJson e.2)).map fun m =>
      ((value (some m.2)).within m.1).map fun v => (m.1, v)) = .ok es := by
    clear hproto
    induction es with
    | nil => rfl
    | cons e es ih =>
      obtain ⟨he, hes⟩ := List.forall_mem_cons.mp h
      rw [List.map_cons, List.map_cons, Verdict.all, he, ih hes]
      rfl
  have hkept : (es.filter fun e => e.1 ≠ Text.ofString "__proto__") = es := by
    rw [List.filter_eq_self]
    intro e he
    rw [decide_eq_true_eq]
    rintro heq
    exact hproto (heq ▸ List.mem_map_of_mem he)
  rw [entries, hall]
  exact congrArg Except.ok hkept

/-! ## Objects -/

/-- The members of an object by their names. -/
abbrev named (members : List (String × Json)) : Members :=
  members.map fun m => (Text.ofString m.1, m.2)

lemma lookup_named (name : String) (members : List (String × Json)) :
    (named members).lookup (Text.ofString name) = members.lookup name := by
  induction members with
  | nil => rfl
  | cons m members ih =>
    obtain ⟨key, value⟩ := m
    rw [named, List.map_cons, List.lookup_cons, List.lookup_cons, Text.ofString_beq, ih]

/-- One more member of an object that is decoded. -/
lemma andField_named {f : Members → Verdict (α → β)} {members : List (String × Json)} {g : α → β}
    (hf : f (named members) = .ok g) {name : String} {value : Decoder α} {a : α}
    (ha : value (members.lookup name) = .ok a) {b : β} (hb : g a = b) :
    andField f name value (named members) = .ok b := by
  rw [andField, field, lookup_named, hf, ha, ← hb]
  rfl

/-- An object is decoded from its members. -/
lemma object_object {decoder : Members → Verdict α} {members : List (String × Json)} {a : α}
    (h : decoder (named members) = .ok a) :
    object decoder (some (Json.object members)) = .ok a := h

end Decoder

end CallAtlas
