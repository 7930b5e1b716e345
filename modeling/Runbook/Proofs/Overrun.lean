import Runbook.Proofs.Calendar
import Runbook.Proofs.Pace

/-!
# Runs and the end of the calendar

After each step a run tells its clock to move on. Where the calendar has no room for that, the run has no result.

* `run_breaks_iff` : a run on a virtual clock has no result if and only if that clock cannot move on after a step that is
  due;
* `Path.moves` : where strategies leave the clock alone, it has moved once for each turn;
* `clock_ends_with_calendar` : how far a clock goes, and with it a run.
-/

namespace Runbook

open VirtualClock (Move)

namespace Executor

section Clock
variable {σ : Type} {x : Executor (World σ)} {started : Instant} {s m : Session} {w v : World σ}
  {turns : List (Turn (World σ))} {step : Step}

/-- On a virtual clock a run has no result if and only if that clock cannot move on after a step that is due. -/
theorem run_breaks_iff (htick : x.stepFinished? = World.stepFinished?) : x.run s w = none ↔ ∃ turns m v step,
    x.Due (x.now w).1 s (x.now w).2 turns m v step ∧ (x.left step m v).clock.stepFinished? = none := by
  simp only [run_eq_none_iff, htick, World.stepFinished?, Option.map_eq_none_iff]

/-- Where no strategy moves the clock, it has been told once for each turn. -/
theorem Path.moves (h : x.Path started s w turns m v) (hx : x.KeepsTime) :
    w.clock.moves? (List.replicate turns.length .stepFinished) = some v.clock := by
  induction h with
  | nil => rfl
  | @cons s w t w₁ ts m v first rest ih =>
    rw [List.length_cons, List.replicate_succ, VirtualClock.moves?_cons, Move.moved?, first.ticks hx, Option.bind_some, ih]

/-- Then the clock cannot move on after a step that is due if and only if the calendar has no room for the turns so far
and one more. -/
theorem Due.stepFinished?_eq_none_iff (h : x.Due started s w turns m v step) (hx : x.KeepsTime)
    (hc : Instant.isRepresentable w.clock.time = true) : (x.left step m v).clock.stepFinished? = none ↔
      Instant.last < w.clock.time + ((turns.length + 1) * Move.stepFinished.span w.clock.stepDuration : Duration) := by
  have hclock : (x.left step m v).clock = v.clock := by
    rw [left, hx.turn, hx.now_world]
  have hmoves : v.clock.stepFinished? = w.clock.moves? (List.replicate (turns.length + 1) .stepFinished) := by
    rw [List.replicate_succ', VirtualClock.moves?_concat, h.course.moves hx]
    rfl
  rw [hclock, hmoves, VirtualClock.moves?_eq_none_iff hc, VirtualClock.spans_replicate]

/-- A run on a clock that no strategy moves has a result where the calendar has room for all the turns it may take. -/
theorem run_ends_of_room (hx : x.KeepsTime) (hc : Instant.isRepresentable w.clock.time = true)
    (hroom : w.clock.time + (s.options.maxIterations * Move.stepFinished.span w.clock.stepDuration : Duration) ≤
      Instant.last) : ∃ o s' w', x.run s w = some (o, s', w') := by
  rcases x.run_ends s w with ⟨hnone, -⟩ | hends
  · obtain ⟨turns, m, v, step, hdue, hstep⟩ := (run_breaks_iff hx.tick).mp hnone
    rw [hx.now_world] at hdue
    have hlast := (hdue.stepFinished?_eq_none_iff hx hc).mp hstep
    have hle := Nat.mul_le_mul_right (Move.stepFinished.span w.clock.stepDuration) (Nat.succ_le_of_lt hdue.room)
    exact absurd (hlast.trans_le (Instant.add_le_add_left _ hle)) (not_lt.mpr hroom)
  · exact hends

end Clock

/-- **How far a clock goes, and with it a run.** Calls take a clock within the calendar on by the durations that they ask
for, those left out that no clock can be moved by at once; they never take it back, and they have a result if and only if
the calendar holds the time to which that leads. So a run breaks off exactly where a step that is due leaves its clock so
that it cannot move on. If no strategy moves the clock, that is where the calendar has no room for the turns so far and one
more; with room for all the turns it may take, a run has a result. -/
theorem clock_ends_with_calendar {c : VirtualClock} (hc : Instant.isRepresentable c.time = true) :
    (∀ ms, c.moves? ms =
      if c.time + VirtualClock.spans c.stepDuration ms ≤ Instant.last then
        some { c with time := c.time + VirtualClock.spans c.stepDuration ms }
      else none) ∧
    (∀ m : Move, Duration.maxMove < m.duration c.stepDuration → m.moved? c = some c) ∧
    (∀ ms c', c.moves? ms = some c' → c.time ≤ c'.time ∧ Instant.isRepresentable c'.time = true) ∧
    ∀ {σ : Type} (x : Executor (World σ)) (s : Session) (w : World σ), w.clock = c →
      (x.stepFinished? = World.stepFinished? → (x.run s w = none ↔ ∃ turns m v step,
        x.Due (x.now w).1 s (x.now w).2 turns m v step ∧ (x.left step m v).clock.stepFinished? = none)) ∧
      (x.KeepsTime → ∀ turns m v step, x.Due (x.now w).1 s (x.now w).2 turns m v step →
        ((x.left step m v).clock.stepFinished? = none ↔
          Instant.last < c.time + ((turns.length + 1) * Move.stepFinished.span c.stepDuration : Duration))) ∧
      (x.KeepsTime → c.time + (s.options.maxIterations * Move.stepFinished.span c.stepDuration : Duration) ≤ Instant.last →
        ∃ o s' w', x.run s w = some (o, s', w')) := by
  refine ⟨fun ms => VirtualClock.moves?_eq ms hc, fun m hm => Move.moved?_of_long hm, fun ms c' h =>
    ⟨VirtualClock.le_of_moves? h, VirtualClock.isRepresentable_of_moves? hc h⟩, ?_⟩
  rintro σ x s w rfl
  refine ⟨run_breaks_iff, fun hx turns m v step hdue => ?_, fun hx hroom => run_ends_of_room hx hc hroom⟩
  rw [hx.now_world] at hdue
  exact hdue.stepFinished?_eq_none_iff hx hc

/-- A clock that ignores one move, takes another and tells of a step, and a run of three steps on it. -/
theorem clock_ends_with_calendar_brief :
    let c : VirtualClock := ⟨.ofSecond 8210266876799 999999989, some 3⟩
    Instant.isRepresentable c.time = true ∧
      c.moves? [.forward (Duration.maxMove + 1), .forward 7, .stepFinished] =
        some ⟨.ofSecond 8210266876799 999999999, some 3⟩ ∧
      c.moves? [.stepFinished, .stepFinished, .forward 4, .stepFinished] = none ∧
      ∃ o s' w', standard.run { Session.freshSession with options := { maxIterations := 3 } } ⟨c, false, ()⟩ =
        some (o, s', w') := by
  intro c
  have hc : Instant.isRepresentable c.time = true := by decide
  obtain ⟨hmoves, -, -, hruns⟩ := clock_ends_with_calendar hc
  refine ⟨hc, ?_, ?_, ?_⟩
  · rw [hmoves]
    decide
  · rw [hmoves]
    decide
  · exact (hruns standard { Session.freshSession with options := { maxIterations := 3 } } ⟨c, false, ()⟩ rfl).2.2
      standard_keepsTime (by decide)

/-- A clock near the end of the calendar that is told to move on has no time to show, and after two steps of a run with
one duration the third leads past the end. -/
theorem calendar_ends_early :
    ¬ (∀ (c : VirtualClock) (ms : List Move), Instant.isRepresentable c.time = true → (c.moves? ms).isSome = true) ∧
      ¬ ∀ (s : Session) (c : VirtualClock), Instant.isRepresentable c.time = true →
        (standard.run s ⟨c, false, ()⟩).isSome = true := by
  constructor
  · intro hall
    exact absurd (hall ⟨0, none⟩ [.forward (Duration.ofParts 8210266876800 0)] (by decide)) (by decide)
  · intro hall
    exact absurd (hall Session.freshSession ⟨.ofSecond 8210266876797 0, some (Duration.ofParts 1 0)⟩ (by decide))
      (by decide +kernel)

end Executor

end Runbook
