import Mathlib.Algebra.GroupWithZero.Nat
import Runbook.Proofs.Instants

/-!
# Clocks and the end of the calendar

A clock within the calendar moves on by what it is told, but for durations that no clock can be moved by at once, which it
ignores. The calendar has an end, and a clock that is told to move past it has no time to show.

* `VirtualClock.Move` : a call that moves a clock on; `Move.span` : how far it takes;
* `forward?_eq`, `Move.moved?_eq` : one call; `moves?_eq` : any number of them;
* `le_of_stepFinished?`, `le_of_moves?` : no call moves a clock back.
-/

namespace Runbook

/-- How far a clock moves that is told to move by a duration: not at all, if no clock can be moved by that at once. -/
def Duration.applied (d : Duration) : Duration := if d ≤ Duration.maxMove then d else 0

namespace VirtualClock

variable {c c' : VirtualClock} {d : Duration}

/-- A call that moves a clock on: by a duration, or because a step has finished. -/
inductive Move where
  | forward (d : Duration)
  | stepFinished
deriving DecidableEq, Repr

namespace Move

/-- The clock after a call. -/
def moved? (c : VirtualClock) : Move → Option VirtualClock
  | forward d => c.forward? d
  | stepFinished => c.stepFinished?

/-- The duration that a call asks for, on a clock with a duration per step or without. -/
def duration (perStep : Option Duration) : Move → Duration
  | forward d => d
  | stepFinished => perStep.getD 0

/-- How far a call takes a clock. -/
def span (perStep : Option Duration) (m : Move) : Duration := Duration.applied (m.duration perStep)

end Move

/-- The clock after calls, one after the other. -/
def moves? (c : VirtualClock) (ms : List Move) : Option VirtualClock := ms.foldlM Move.moved? c

/-- How far calls take a clock together. -/
def spans (perStep : Option Duration) (ms : List Move) : Duration := (ms.map (Move.span perStep)).sum

/-! ## One call -/

/-- A clock that is told to move by a duration moves on by what applies of it, up to the end of the calendar. -/
theorem forward?_eq (d : Duration) (hc : Instant.isRepresentable c.time = true) : c.forward? d =
    if c.time + Duration.applied d ≤ Instant.last then some { c with time := c.time + Duration.applied d } else none := by
  unfold forward? Duration.applied
  split
  · unfold Instant.represented?
    simp only [Instant.isRepresentable_add hc]
    split <;> rfl
  · rw [Instant.add_zero, if_pos (Instant.isRepresentable_iff.mp hc).2]

theorem le_of_forward? (h : c.forward? d = some c') : c.time ≤ c'.time := by
  unfold forward? at h
  split at h
  · obtain ⟨time, htime, rfl⟩ := Option.map_eq_some_iff.mp h
    unfold Instant.represented? at htime
    split at htime
    · obtain rfl := Option.some.inj htime
      exact c.time.le_add d
    · cases htime
  · obtain rfl := Option.some.inj h
    exact le_refl _

theorem le_of_stepFinished? (h : c.stepFinished? = some c') : c.time ≤ c'.time := by
  unfold stepFinished? at h
  split at h
  · obtain rfl := Option.some.inj h
    exact le_refl _
  · exact le_of_forward? h

theorem Move.le_of_moved? {m : Move} (h : m.moved? c = some c') : c.time ≤ c'.time := by
  cases m with
  | forward d => exact le_of_forward? h
  | stepFinished => exact le_of_stepFinished? h

/-- The end of a step is a move by the duration per step, if there is one. -/
theorem stepFinished?_eq_forward? (hc : Instant.isRepresentable c.time = true) :
    c.stepFinished? = c.forward? (c.stepDuration.getD 0) := by
  unfold stepFinished?
  split
  · next hnone =>
    rw [hnone, forward?_eq _ hc]
    simp [Duration.applied, Instant.add_zero, (Instant.isRepresentable_iff.mp hc).2]
  · next d hsome =>
    rw [hsome, Option.getD_some]

/-- A call takes a clock on by its span, up to the end of the calendar. -/
theorem Move.moved?_eq (m : Move) (hc : Instant.isRepresentable c.time = true) : m.moved? c =
    if c.time + m.span c.stepDuration ≤ Instant.last then some { c with time := c.time + m.span c.stepDuration }
    else none := by
  cases m with
  | forward d => exact forward?_eq d hc
  | stepFinished =>
    rw [moved?, stepFinished?_eq_forward? hc]
    exact forward?_eq _ hc

/-- A call for more than a clock can be moved by at once leaves it where it is. -/
theorem Move.moved?_of_long {m : Move} (h : Duration.maxMove < m.duration c.stepDuration) : m.moved? c = some c := by
  have hlong {d : Duration} (hd : Duration.maxMove < d) : c.forward? d = some c := if_neg (Nat.not_le_of_lt hd)
  cases m with
  | forward d => exact hlong h
  | stepFinished =>
    rw [moved?, stepFinished?]
    split
    · rfl
    · next d hsome =>
      rw [duration, hsome] at h
      exact hlong h

/-! ## Many calls -/

theorem moves?_cons (c : VirtualClock) (m : Move) (ms : List Move) :
    c.moves? (m :: ms) = (m.moved? c).bind (·.moves? ms) := by
  rw [moves?, List.foldlM_cons]
  rfl

theorem moves?_concat (c : VirtualClock) (ms : List Move) (m : Move) :
    c.moves? (ms ++ [m]) = (c.moves? ms).bind m.moved? := by
  induction ms generalizing c with
  | nil =>
    rw [List.nil_append, moves?_cons]
    exact Option.bind_fun_some (m.moved? c)
  | cons m' ms ih => simp only [List.cons_append, moves?_cons, Option.bind_assoc, ih]

theorem spans_cons (perStep : Option Duration) (m : Move) (ms : List Move) :
    spans perStep (m :: ms) = m.span perStep + spans perStep ms := by
  rw [spans, List.map_cons, List.sum_cons]
  rfl

theorem spans_replicate (perStep : Option Duration) (n : Nat) (m : Move) :
    spans perStep (List.replicate n m) = n * m.span perStep := by
  rw [spans, List.map_replicate, List.sum_replicate_nat]

theorem le_of_moves? {ms : List Move} (h : c.moves? ms = some c') : c.time ≤ c'.time := by
  induction ms generalizing c with
  | nil =>
    obtain rfl := Option.some.inj h
    exact le_refl _
  | cons m ms ih =>
    rw [moves?_cons] at h
    obtain ⟨c₁, hc₁, h⟩ := Option.bind_eq_some_iff.mp h
    exact le_trans (Move.le_of_moved? hc₁) (ih h)

/-- Calls take a clock on by their spans, up to the end of the calendar: whether some call has no result can be told from
where the last one leads, since none leads back. -/
theorem moves?_eq (ms : List Move) (hc : Instant.isRepresentable c.time = true) : c.moves? ms =
    if c.time + spans c.stepDuration ms ≤ Instant.last then some { c with time := c.time + spans c.stepDuration ms }
    else none := by
  induction ms generalizing c with
  | nil =>
    simp [moves?, spans, Instant.add_zero, (Instant.isRepresentable_iff.mp hc).2]
  | cons m ms ih =>
    have hsum : c.time + spans c.stepDuration (m :: ms) =
        c.time + m.span c.stepDuration + spans c.stepDuration ms := by
      rw [spans_cons, Instant.add_add]
    rw [moves?_cons, m.moved?_eq hc, hsum]
    by_cases hend : c.time + m.span c.stepDuration ≤ Instant.last
    · rw [if_pos hend, Option.bind_some]
      exact ih ((Instant.isRepresentable_add hc _).mpr hend)
    · rw [if_neg hend, Option.bind_none, if_neg]
      exact fun hle => hend (le_trans (Instant.le_add _ _) hle)

theorem isRepresentable_of_moves? {ms : List Move} (hc : Instant.isRepresentable c.time = true)
    (h : c.moves? ms = some c') : Instant.isRepresentable c'.time = true := by
  rw [moves?_eq ms hc] at h
  split at h
  · next hle =>
    obtain rfl := Option.some.inj h
    exact (Instant.isRepresentable_add hc _).mpr hle
  · nomatch h

theorem moves?_eq_none_iff {ms : List Move} (hc : Instant.isRepresentable c.time = true) :
    c.moves? ms = none ↔ Instant.last < c.time + spans c.stepDuration ms := by
  rw [moves?_eq ms hc]
  split
  · next hle => exact iff_of_false nofun (not_lt.mpr hle)
  · next hgt => exact iff_of_true rfl (not_le.mp hgt)

end VirtualClock

end Runbook
