import Mathlib.Order.Defs.LinearOrder
import Runbook.Time.Clock

/-!
# Points in time

Points in time are ordered by their seconds, then by their nanoseconds. A leap second comes after the second it belongs to,
before the next one.

* `add_of_stays`, `add_of_leaves` : a point in time moved on within a leap second, and out of it or outside of one;
* `add_zero`, `add_add`, `le_add`, `add_le_add_left` : a point in time moved on by durations;
* `elapsed_self`, `elapsed_add` : the time between a point in time and a later one, outside leap seconds;
* `isRepresentable_add` : the calendar is left only at its end.
-/

namespace Runbook.Instant

variable {t u : Instant} {d e : Duration}

/-! ## Order -/

theorem le_def : t ≤ u ↔ t.second < u.second ∨ t.second = u.second ∧ t.nanos ≤ u.nanos := Iff.rfl

theorem lt_def : t < u ↔ t.second < u.second ∨ t.second = u.second ∧ t.nanos < u.nanos := Iff.rfl

instance : LinearOrder Instant where
  le_refl t := Or.inr ⟨rfl, Nat.le_refl _⟩
  le_trans t u v := by
    simp only [le_def]
    omega
  le_antisymm t u := by
    simp only [le_def, Instant.ext_iff]
    omega
  le_total t u := by
    simp only [le_def]
    omega
  lt_iff_le_not_ge t u := by
    simp only [le_def, lt_def]
    omega
  toDecidableLE := inferInstance

/-! ## Durations -/

theorem isLeap_iff : t.isLeap = true ↔ 1000000000 ≤ t.nanos := by rw [isLeap, decide_eq_true_eq]

/-- Within a leap second its nanoseconds are counted on. -/
theorem add_of_stays (h : t.isLeap = true ∧ t.nanos + d < 2000000000) : t + d = ⟨t.second, t.nanos + d, h.2⟩ := dif_pos h

/-- A point in time that does not stay in a leap second is followed by points outside of one. -/
theorem add_of_leaves (h : ¬ (t.isLeap = true ∧ t.nanos + d < 2000000000)) :
    t + d = ofSecond t.second (t.nanos % 1000000000 + d) := dif_neg h

theorem ofSecond_not_isLeap (second : Int) (nanos : Nat) : (ofSecond second nanos).isLeap = false :=
  decide_eq_false (Nat.not_le_of_lt (Nat.mod_lt _ (by decide)))

theorem ofSecond_add (second : Int) (nanos : Nat) (d : Duration) :
    ofSecond second nanos + d = ofSecond second (nanos + d) := by
  rw [add_of_leaves (by simp [ofSecond_not_isLeap])]
  simp only [ofSecond, Instant.ext_iff]
  omega

theorem add_zero (t : Instant) : t + (0 : Duration) = t := by
  have hnanos := t.nanos_lt
  by_cases h : t.isLeap = true ∧ t.nanos + 0 < 2000000000
  · rw [add_of_stays h]
    rfl
  · rw [add_of_leaves h]
    simp only [isLeap_iff] at h
    simp only [ofSecond, Instant.ext_iff]
    omega

theorem add_add (t : Instant) (d e : Duration) : t + d + e = t + (d + e : Duration) := by
  by_cases h : t.isLeap = true ∧ t.nanos + d < 2000000000
  · have hleap := isLeap_iff.mp h.1
    rw [add_of_stays h]
    by_cases h' : t.nanos + d + e < 2000000000
    · rw [add_of_stays ⟨isLeap_iff.mpr (Nat.le_add_right_of_le hleap), h'⟩, add_of_stays ⟨h.1, by omega⟩]
      exact Instant.ext rfl (Nat.add_assoc _ _ _)
    · rw [add_of_leaves fun hstays => h' hstays.2, add_of_leaves fun hstays => h' (by omega)]
      congr 1
      show (t.nanos + d) % 1000000000 + e = _
      omega
  · rw [add_of_leaves h, add_of_leaves fun hstays => h ⟨hstays.1, by omega⟩, ofSecond_add, Nat.add_assoc]

theorem le_add (t : Instant) (d : Duration) : t ≤ t + d := by
  have hnanos := t.nanos_lt
  by_cases h : t.isLeap = true ∧ t.nanos + d < 2000000000
  · rw [add_of_stays h]
    exact Or.inr ⟨rfl, Nat.le_add_right _ _⟩
  · rw [add_of_leaves h, le_def]
    simp only [isLeap_iff] at h
    simp only [ofSecond]
    omega

theorem add_le_add_left (t : Instant) (h : d ≤ e) : t + d ≤ t + e := by
  obtain ⟨k, rfl⟩ := Nat.exists_eq_add_of_le h
  rw [← add_add]
  exact le_add _ _

theorem add_not_isLeap (h : t.isLeap = false) (d : Duration) : (t + d).isLeap = false := by
  rw [add_of_leaves (by simp [h])]
  exact ofSecond_not_isLeap _ _

/-! ## The time between -/

theorem leaps_eq_zero (ht : t.isLeap = false) (hu : u.isLeap = false) : leaps t u = 0 := by simp [leaps, ht, hu]

theorem elapsed_self (t : Instant) : elapsed t t = 0 := by
  simp [elapsed, leaps]

/-- The time that a point in time outside leap seconds is moved on by. -/
theorem elapsed_add (h : t.isLeap = false) (d : Duration) : elapsed t (t + d) = d := by
  have hsecond : t.nanos < 1000000000 := Nat.lt_of_not_le fun hle => by simp [isLeap_iff.mpr hle] at h
  rw [elapsed, leaps_eq_zero h (add_not_isLeap h d), add_of_leaves (by simp [h])]
  show Int.toNat _ = (d : Nat)
  simp only [ofSecond]
  omega

/-- A second after the leap second of the year 2016 began, no time has gone: the other day has begun. -/
example : let t : Instant := ⟨1483228799, 1000000000, by decide⟩
    t + Duration.ofParts 1 0 = ofSecond 1483228800 0 ∧ elapsed t (t + Duration.ofParts 1 0) = 0 := by decide

/-! ## The calendar -/

/-- The calendar holds what lies between its ends. -/
theorem isRepresentable_iff : t.isRepresentable = true ↔ first ≤ t ∧ t ≤ last := by
  rw [isRepresentable, Bool.and_eq_true, decide_eq_true_eq, decide_eq_true_eq]

/-- A time of the calendar and a duration lead to a time of the calendar, or past its end. -/
theorem isRepresentable_add (ht : t.isRepresentable = true) (d : Duration) :
    (t + d).isRepresentable = true ↔ t + d ≤ last := by
  rw [isRepresentable_iff] at ht ⊢
  exact and_iff_right (le_trans ht.1 (t.le_add d))

end Runbook.Instant
