import Runbook.Json.Basic

/-!
# Equality of values

Two values are equal whatever the order of the fields in their objects.

* `Json.same_refl` : every value equals itself, whatever its numbers and the names of its fields;
* `Json.same_obj_iff` : objects are equal if every name has equal values in both, or no value in either;
* `Json.same_set` : equal values written under one name leave equal objects.
-/

namespace Runbook

variable {fs gs : Fields} {seen : List String}

/-! ## Fields by name -/

namespace Fields

theorem get?_isSome_of_mem {f : String × Json} {fs : Fields} (h : f ∈ fs) : (fs.get? f.1).isSome = true := by
  induction fs with
  | nil => nomatch h
  | cons g fs ih =>
    obtain ⟨k, v⟩ := g
    rw [get?]
    split
    · rfl
    · next hk =>
      rcases List.mem_cons.mp h with rfl | h
      · exact absurd rfl hk
      · exact ih h

theorem mem_of_get? {k : String} {v : Json} (h : fs.get? k = some v) : (k, v) ∈ fs := by
  induction fs with
  | nil => nomatch h
  | cons f fs ih =>
    obtain ⟨n, u⟩ := f
    by_cases hn : n = k
    · simp only [get?, if_pos hn, Option.some.injEq] at h
      simp [hn, h]
    · simp only [get?, if_neg hn] at h
      exact List.mem_cons_of_mem _ (ih h)

end Fields

/-! ## Every value equals itself -/

namespace Json

mutual

theorem same_refl : ∀ v : Json, v.same v = true
  | .null => rfl
  | .bool b => by simp [same]
  | .num n => by cases n <;> simp [same, Number.same, Binary64.same]
  | .str s => by simp [same]
  | .arr items => by
    rw [same]
    exact sameItems_refl items
  | .obj fields => by
    rw [same, Bool.and_eq_true, List.all_eq_true]
    exact ⟨fun f hf => Fields.get?_isSome_of_mem hf, sameFields_refl fields fields [] fun _ _ => rfl⟩

theorem sameItems_refl : ∀ items : List Json, sameItems items items = true
  | [] => rfl
  | v :: items => by
    rw [sameItems, Bool.and_eq_true]
    exact ⟨same_refl v, sameItems_refl items⟩

/-- The fields not yet seen are in the other list with the values that they have here. -/
theorem sameFields_refl : ∀ (fs gs : List (String × Json)) (seen : List String),
    (∀ k, k ∉ seen → Fields.get? k gs = Fields.get? k fs) → sameFields seen fs gs = true
  | [], _, _, _ => rfl
  | (k, v) :: fs, gs, seen, h => by
    have hrest : ∀ k', k' ∉ k :: seen → Fields.get? k' gs = Fields.get? k' fs := by
      intro k' hk'
      obtain ⟨hne, hseen⟩ := List.ne_and_not_mem_of_not_mem_cons hk'
      rw [h k' hseen, Fields.get?, if_neg hne.symm]
    rw [sameFields, Bool.and_eq_true]
    refine ⟨?_, sameFields_refl fs gs (k :: seen) hrest⟩
    by_cases hk : k ∈ seen
    · simp [hk]
    · rw [h k hk, Fields.get?, if_pos rfl]
      simp [same_refl v]

end

/-! ## Equal objects -/

/-- Only the first field of a name is compared, since the name is seen after it. -/
theorem sameFields_iff : sameFields seen fs gs = true ↔
    ∀ k ∉ seen, ∀ v, fs.get? k = some v → ∃ w, gs.get? k = some w ∧ v.same w = true := by
  induction fs generalizing seen with
  | nil => simp [sameFields, Fields.get?]
  | cons f fs ih =>
    obtain ⟨n, u⟩ := f
    have hcons : sameFields seen ((n, u) :: fs) gs = true ↔
        (n ∉ seen → ∃ w, gs.get? n = some w ∧ u.same w = true) ∧ sameFields (n :: seen) fs gs = true := by
      rw [sameFields, Bool.and_eq_true]
      by_cases hn : n ∈ seen
      · simp [hn]
      · cases gs.get? n <;> simp [hn]
    rw [hcons, ih]
    constructor
    · rintro ⟨hn, hrest⟩ k hk v hv
      by_cases hkn : n = k
      · subst hkn
        rw [Fields.get?, if_pos rfl, Option.some.injEq] at hv
        exact hv ▸ hn hk
      · rw [Fields.get?, if_neg hkn] at hv
        exact hrest k (List.not_mem_cons_of_ne_of_not_mem (Ne.symm hkn) hk) v hv
    · intro h
      refine ⟨fun hn => h n hn u (by rw [Fields.get?, if_pos rfl]), fun k hk v hv => ?_⟩
      obtain ⟨hkn, hk⟩ := List.ne_and_not_mem_of_not_mem_cons hk
      exact h k hk v (by rw [Fields.get?, if_neg hkn.symm, hv])

theorem same_obj_iff : (obj fs).same (.obj gs) = true ↔
    ∀ k, Option.Rel (fun v w => v.same w = true) (fs.get? k) (gs.get? k) := by
  rw [same, Bool.and_eq_true, List.all_eq_true, sameFields_iff]
  constructor
  · rintro ⟨hback, hforth⟩ k
    cases hv : fs.get? k with
    | some v =>
      obtain ⟨w, hw, hsame⟩ := hforth k List.not_mem_nil v hv
      exact hw ▸ .some hsame
    | none =>
      cases hw : gs.get? k with
      | none => exact .none
      | some w =>
        have hfound := hback (k, w) (Fields.mem_of_get? hw)
        rw [hv] at hfound
        nomatch hfound
  · intro h
    constructor
    · intro g hg
      obtain ⟨w, hw⟩ := Option.isSome_iff_exists.mp (Fields.get?_isSome_of_mem hg)
      have hk := h g.1
      cases hv : fs.get? g.1 with
      | some v => rfl
      | none =>
        rw [hv, hw] at hk
        nomatch hk
    · intro k _ v hv
      have hk := h k
      rw [hv] at hk
      cases hw : gs.get? k with
      | none =>
        rw [hw] at hk
        nomatch hk
      | some w =>
        rw [hw] at hk
        rcases hk with ⟨hsame⟩
        exact ⟨w, rfl, hsame⟩

/-- Equal values written under one name leave equal objects. -/
theorem same_set {v w : Json} (h : v.same w = true) (fs : Fields) (name : String) :
    (obj (fs.set name v)).same (.obj (fs.set name w)) = true := by
  rw [same_obj_iff]
  intro k
  rw [Fields.get?_set, Fields.get?_set]
  split
  · exact .some h
  · cases fs.get? k with
    | none => exact .none
    | some u => exact .some (same_refl u)

end Json

end Runbook
