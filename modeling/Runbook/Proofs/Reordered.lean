import Mathlib.Data.List.Forall2
import Runbook.Proofs.Sameness

/-!
# Values up to the order of fields

* `Json.induct` : what holds of a value if it holds of its items or fields, holds of all values;
* `Json.Numbers` : something holds of all numbers in a value;
* `Json.Alike` : two values agree but for the order of fields, and for their numbers, which are related;
* `Json.same_iff` : equal values are those alike whose numbers are equal;
* `Json.Reordered`, `Json.Reordered.of_perm` : values that agree but for the order of fields.
-/

namespace Runbook.Json

/-- What holds of a value if it holds of all its items or fields, holds of all values. -/
@[elab_as_elim]
theorem induct {P : Json → Prop} (null : P .null) (bool : ∀ b, P (.bool b)) (num : ∀ n, P (.num n))
    (str : ∀ s, P (.str s)) (arr : ∀ items, (∀ v ∈ items, P v) → P (.arr items))
    (obj : ∀ fields : Fields, (∀ f ∈ fields, P f.2) → P (.obj fields)) (v : Json) : P v :=
  Json.rec (motive_1 := P) (motive_2 := fun items => ∀ v ∈ items, P v)
    (motive_3 := fun fields => ∀ f ∈ fields, P f.2) (motive_4 := fun f => P f.2)
    null bool num str arr obj
    (fun _ h => nomatch h) (fun _ _ hv hitems => List.forall_mem_cons.mpr ⟨hv, hitems⟩)
    (fun _ h => nomatch h) (fun _ _ hf hfields => List.forall_mem_cons.mpr ⟨hf, hfields⟩)
    (fun _ _ hv => hv) v

/-- Something holds of all numbers in a value. -/
inductive Numbers (P : Number → Prop) : Json → Prop where
  | null : Numbers P .null
  | bool (b : Bool) : Numbers P (.bool b)
  | num {n : Number} (h : P n) : Numbers P (.num n)
  | str (s : String) : Numbers P (.str s)
  | arr {items : List Json} (h : ∀ v ∈ items, Numbers P v) : Numbers P (.arr items)
  | obj {fields : Fields} (h : ∀ f ∈ fields, Numbers P f.2) : Numbers P (.obj fields)

/-- Two values agree: their numbers are related, their lists agree item by item, and their objects name by name. -/
inductive Alike (R : Number → Number → Prop) : Json → Json → Prop where
  | null : Alike R .null .null
  | bool (b : Bool) : Alike R (.bool b) (.bool b)
  | num {m n : Number} (h : R m n) : Alike R (.num m) (.num n)
  | str (s : String) : Alike R (.str s) (.str s)
  | arr {xs ys : List Json} (h : List.Forall₂ (Alike R) xs ys) : Alike R (.arr xs) (.arr ys)
  | obj {fs gs : Fields} (h : ∀ k, Option.Rel (Alike R) (fs.get? k) (gs.get? k)) : Alike R (.obj fs) (.obj gs)

/-- Two values agree but for the order of fields in their objects. -/
def Reordered : Json → Json → Prop := Alike Eq

/-! ## Item by item, name by name -/

section Rel

variable {α β : Type} {R S : α → β → Prop}

theorem forall₂_imp {xs : List α} {ys : List β} (h : ∀ x ∈ xs, ∀ y ∈ ys, R x y → S x y)
    (hall : List.Forall₂ R xs ys) : List.Forall₂ S xs ys := by
  induction hall with
  | nil => exact .nil
  | cons hR _ ih =>
    exact .cons (h _ List.mem_cons_self _ List.mem_cons_self hR)
      (ih fun x hx y hy => h x (List.mem_cons_of_mem _ hx) y (List.mem_cons_of_mem _ hy))

theorem rel_imp {x : Option α} {y : Option β} (h : ∀ v ∈ x, ∀ w ∈ y, R v w → S v w) (hrel : Option.Rel R x y) :
    Option.Rel S x y := by
  cases hrel with
  | none => exact .none
  | some hR => exact .some (h _ rfl _ rfl hR)

end Rel

/-! ## Equal values -/

variable {fs gs : Fields}

theorem mem_fields {k : String} {v : Json} (h : v ∈ fs.get? k) : ∃ f ∈ fs, f.2 = v :=
  ⟨(k, v), Fields.mem_of_get? h, rfl⟩

theorem sameItems_iff {xs ys : List Json} :
    sameItems xs ys = true ↔ List.Forall₂ (fun v w => v.same w = true) xs ys := by
  induction xs generalizing ys with
  | nil => cases ys <;> simp [sameItems]
  | cons x xs ih => cases ys <;> simp [sameItems, ih]

theorem alike_arr_iff {R : Number → Number → Prop} {xs ys : List Json} :
    Alike R (.arr xs) (.arr ys) ↔ List.Forall₂ (Alike R) xs ys :=
  ⟨fun h => by cases h with | arr h => exact h, .arr⟩

theorem alike_obj_iff {R : Number → Number → Prop} :
    Alike R (.obj fs) (.obj gs) ↔ ∀ k, Option.Rel (Alike R) (fs.get? k) (gs.get? k) :=
  ⟨fun h => by cases h with | obj h => exact h, .obj⟩

/-- Equal values are those alike whose numbers are equal. -/
theorem same_iff (a b : Json) : a.same b = true ↔ Alike (fun m n => m.same n = true) a b := by
  induction a using induct generalizing b with
  | null =>
    cases b with
    | null => exact ⟨fun _ => .null, fun _ => rfl⟩
    | _ => exact ⟨nofun, nofun⟩
  | bool x =>
    cases b with
    | bool y =>
      rw [same, beq_iff_eq]
      exact ⟨fun h => h ▸ .bool x, fun h => by cases h; rfl⟩
    | _ => exact ⟨nofun, nofun⟩
  | num m =>
    cases b with
    | num n =>
      rw [same]
      exact ⟨fun h => .num h, fun h => by cases h with | num h => exact h⟩
    | _ => exact ⟨nofun, nofun⟩
  | str s =>
    cases b with
    | str t =>
      rw [same, beq_iff_eq]
      exact ⟨fun h => h ▸ .str s, fun h => by cases h; rfl⟩
    | _ => exact ⟨nofun, nofun⟩
  | arr items ih =>
    cases b with
    | arr ys =>
      rw [same, sameItems_iff, alike_arr_iff]
      exact ⟨forall₂_imp fun v hv w _ => (ih v hv w).mp, forall₂_imp fun v hv w _ => (ih v hv w).mpr⟩
    | _ => exact ⟨nofun, nofun⟩
  | obj fields ih =>
    cases b with
    | obj gs =>
      rw [same_obj_iff, alike_obj_iff]
      have hfield (k : String) (v : Json) (hv : v ∈ fields.get? k) (w : Json) :
          v.same w = true ↔ Alike (fun m n => m.same n = true) v w := by
        obtain ⟨f, hf, rfl⟩ := mem_fields hv
        exact ih f hf w
      exact ⟨fun h k => rel_imp (fun v hv w _ => (hfield k v hv w).mp) (h k),
        fun h k => rel_imp (fun v hv w _ => (hfield k v hv w).mpr) (h k)⟩
    | _ => exact ⟨nofun, nofun⟩

/-! ## Another order of fields -/

theorem Reordered.refl (v : Json) : v.Reordered v := by
  induction v using induct with
  | null => exact .null
  | bool b => exact .bool b
  | num n => exact .num rfl
  | str s => exact .str s
  | arr items ih => exact .arr (List.forall₂_same.mpr ih)
  | obj fields ih =>
    refine .obj fun k => ?_
    cases h : fields.get? k with
    | none => exact .none
    | some v =>
      obtain ⟨f, hf, rfl⟩ := mem_fields h
      exact .some (ih f hf)

/-- Where no name occurs twice, each field counts. -/
theorem get?_eq_some_iff (h : fs.names.Nodup) {k : String} {v : Json} : fs.get? k = some v ↔ (k, v) ∈ fs := by
  refine ⟨Fields.mem_of_get?, fun hmem => ?_⟩
  induction fs with
  | nil => nomatch hmem
  | cons f fs ih =>
    obtain ⟨n, u⟩ := f
    obtain ⟨hn, hnames⟩ := List.nodup_cons.mp h
    rw [Fields.get?]
    rcases List.mem_cons.mp hmem with heq | hmem
    · obtain ⟨rfl, rfl⟩ := Prod.mk.inj heq
      exact if_pos rfl
    · rw [if_neg, ih hnames hmem]
      rintro rfl
      exact hn (List.mem_map.mpr ⟨_, hmem, rfl⟩)

/-- Fields in another order are an object reordered. -/
theorem Reordered.of_perm (hperm : fs.Perm gs) (h : fs.names.Nodup) : (obj fs).Reordered (.obj gs) := by
  have hnames : gs.names.Nodup := (hperm.map _).nodup_iff.mp h
  have hget (k : String) : gs.get? k = fs.get? k :=
    Option.ext fun v => by rw [get?_eq_some_iff h, get?_eq_some_iff hnames, hperm.mem_iff]
  have hself := alike_obj_iff.mp (Reordered.refl (.obj fs))
  exact .obj fun k => hget k ▸ hself k

end Runbook.Json
