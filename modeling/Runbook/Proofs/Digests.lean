import Runbook.Proofs.Canonical
import Runbook.Run.Checkpoint
import Runbook.Run.Record

/-!
# Digests of equal states

Equal numbers have one text, but for zero and minus zero: these are equal, and the sign shows in the text. So equal states
have one digest, unless at some place the one holds zero and the other minus zero.

* `Number.same_iff` : equal numbers are one number, or the two zeros;
* `Json.CrossedZeros` : at some place one value holds zero and the other minus zero;
* `reordered_of_same`, `CrossedZeros.not_reordered` : equal values agree but for the order of fields, just if no zeros are
  crossed;
* `State.digests_of_equal` : what that means for digests of states, for records and for checkpoints.
-/

namespace Runbook

/-! ## Equal numbers -/

theorem Binary64.same_iff {x y : Binary64} : x.same y = true ↔ x = y ∨ x.units = 0 ∧ y = ⟨!x.negative, 0⟩ := by
  obtain ⟨p, u⟩ := x
  obtain ⟨q, v⟩ := y
  rw [same, beq_iff_eq]
  cases p <;> cases q <;> simp only [value, mk.injEq, Bool.false_eq_true, Bool.true_eq_false, Bool.not_true,
    Bool.not_false, if_true, if_false, true_and, false_and, and_false, false_or, or_false] <;> omega

/-- Equal numbers are one number, or zero and minus zero. -/
theorem Number.same_iff {m n : Number} :
    m.same n = true ↔ m = n ∨ ∃ negative, m = .float ⟨negative, 0⟩ ∧ n = .float ⟨!negative, 0⟩ := by
  cases m with
  | int a =>
    cases n with
    | int b => simp [same]
    | float y => simp [same]
  | float x =>
    cases n with
    | int b => simp [same]
    | float y =>
      rw [same, Binary64.same_iff, float.injEq]
      refine or_congr_right ⟨fun ⟨hu, hy⟩ => ⟨x.negative, ?_, congrArg float hy⟩, ?_⟩
      · rw [← hu]
      · rintro ⟨negative, hx, hy⟩
        obtain rfl := float.inj hx
        exact ⟨rfl, float.inj hy⟩

/-! ## Crossed zeros -/

namespace Json

/-- At some place, below items and fields, one value holds zero and the other minus zero. -/
inductive CrossedZeros : Json → Json → Prop where
  | here (negative : Bool) : CrossedZeros (.num (.float ⟨negative, 0⟩)) (.num (.float ⟨!negative, 0⟩))
  | item {xs ys : List Json} {v w : Json} (hmem : (v, w) ∈ xs.zip ys) (h : CrossedZeros v w) :
      CrossedZeros (.arr xs) (.arr ys)
  | field {fs gs : Fields} {k : String} {v w : Json} (hv : fs.get? k = some v) (hw : gs.get? k = some w)
      (h : CrossedZeros v w) : CrossedZeros (.obj fs) (.obj gs)

variable {a b : Json}

/-- Equal values without crossed zeros agree but for the order of fields. -/
theorem reordered_of_same (h : a.same b = true) (hzeros : ¬ CrossedZeros a b) : a.Reordered b := by
  rw [Json.same_iff] at h
  induction a using induct generalizing b with
  | null =>
    cases h
    exact .null
  | bool x =>
    cases h
    exact .bool x
  | num m =>
    cases h with | num h =>
    rcases Number.same_iff.mp h with rfl | ⟨negative, rfl, rfl⟩
    · exact .num rfl
    · exact absurd (.here negative) hzeros
  | str s =>
    cases h
    exact .str s
  | arr xs ih =>
    cases h with | arr h =>
    obtain ⟨hlength, hitems⟩ := List.forall₂_iff_zip.mp h
    refine .arr (List.forall₂_iff_zip.mpr ⟨hlength, fun hmem => ?_⟩)
    exact ih _ (List.of_mem_zip hmem).1 (hitems hmem) fun hcrossed => hzeros (.item hmem hcrossed)
  | obj fs ih =>
    cases h with | obj h =>
    refine .obj fun k => rel_imp (fun v hv w hw hvw => ?_) (h k)
    obtain ⟨f, hf, rfl⟩ := mem_fields hv
    exact ih f hf hvw fun hcrossed => hzeros (.field hv hw hcrossed)

/-- Values with crossed zeros differ by more than the order of fields. -/
theorem CrossedZeros.not_reordered (h : CrossedZeros a b) : ¬ a.Reordered b := by
  induction h with
  | here negative =>
    intro hre
    cases hre with | num h =>
    cases negative <;> nomatch h
  | item hmem _ ih =>
    intro hre
    cases hre with | arr hall =>
    exact ih ((List.forall₂_iff_zip.mp hall).2 hmem)
  | @field fs gs k v w hv hw _ ih =>
    intro hre
    cases hre with | obj hall =>
    have hk := hall k
    rw [hv, hw] at hk
    cases hk with | some h => exact ih h

end Json

/-! ## States, records and checkpoints -/

namespace State

open Json

variable {s t : State}

theorem digest_eq_of_same (h : s.same t = true) (hzeros : ¬ CrossedZeros s.toJson t.toJson) : s.digest = t.digest := by
  rw [digest, digest, (reordered_of_same h hzeros).canonical_eq]

/-- Crossed zeros show in the canonical texts that the digests are taken of. -/
theorem canonical_ne_of_crossedZeros (hs : s.toJson.Representable) (ht : t.toJson.Representable)
    (hzeros : CrossedZeros s.toJson t.toJson) : s.toJson.canonical ≠ t.toJson.canonical :=
  fun h => hzeros.not_reordered (reordered_of_canonical_eq hs ht h)

/-- **Digest and equality agree but for the sign of zero.** Unless at some place the one holds zero and the other minus
zero, equal states have one digest. So a step that is recorded as not having changed the state leaves the digest of
checkpoints as it was. -/
theorem digests_of_equal (hzeros : ¬ CrossedZeros s.toJson t.toJson) :
    (s.same t = true → s.digest = t.digest) ∧
      ∀ r : Record, r.before = s → r.after = t → r.changed = false →
        ∀ (a b : Instant) (c d : Option String) (m n : Nat),
          (Checkpoint.capture a c r.before m).digest = (Checkpoint.capture b d r.after n).digest := by
  refine ⟨fun h => digest_eq_of_same h hzeros, ?_⟩
  rintro r rfl rfl hchanged a b c d m n
  have hsame : r.before.same r.after = true := by simpa [Record.changed] using hchanged
  exact digest_eq_of_same hsame hzeros

/-- Two fields in another order, one of them minus zero in both states. -/
theorem digests_of_equal_swapped :
    let s : State := ⟨[("a", .num (.float ⟨true, 0⟩)), ("b", .null)]⟩
    let t : State := ⟨[("b", .null), ("a", .num (.float ⟨true, 0⟩))]⟩
    let r : Record := ⟨"x", .success, 1, 0, 1, s, t, none, none⟩
    ¬ CrossedZeros s.toJson t.toJson ∧ s.same t = true ∧ s.digest = t.digest ∧ r.changed = false ∧
      (Checkpoint.capture 0 none r.before 0).digest = (Checkpoint.capture 1 (some "x") r.after 1).digest := by
  intro s t r
  have hsame : s.same t = true := by decide +kernel
  have hzeros : ¬ CrossedZeros s.toJson t.toJson := fun h => h.not_reordered (.of_perm (.swap _ _ _) (by decide))
  have hchanged : r.changed = false := by decide +kernel
  obtain ⟨hdigest, hcaptured⟩ := digests_of_equal hzeros
  exact ⟨hzeros, hsame, hdigest hsame, hchanged, hcaptured r rfl rfl hchanged 0 1 none (some "x") 0 1⟩

/-- Zero and minus zero are equal, and have two digests. -/
theorem zeros_have_two_digests :
    (⟨[("x", .num (.float ⟨false, 0⟩))]⟩ : State).same ⟨[("x", .num (.float ⟨true, 0⟩))]⟩ = true ∧
      (⟨[("x", .num (.float ⟨false, 0⟩))]⟩ : State).digest ≠ (⟨[("x", .num (.float ⟨true, 0⟩))]⟩ : State).digest := by
  decide +kernel

end State

end Runbook
