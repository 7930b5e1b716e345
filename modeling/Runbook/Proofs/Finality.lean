import Runbook.Proofs.Deadline
import Runbook.Proofs.Mirror

/-!
# Finality

A run that has completed or was halted leaves nothing that a further run could do: the session has ended, or its cursor
names no step and the limits let a run find that out.

* `Session.Settled` : the sessions that such runs leave; `Closes.settled` : they do leave them;
* `run_settled` : on a virtual clock, a run of such a session changes nothing;
* `Session.LeftWith` : the sessions that a run with some outcome has left;
* `ended_runs_stay_ended` : runs that have completed or were halted stay so.
-/

namespace Runbook

variable {ω : Type}

/-! ## Sessions with nothing left to do -/

namespace Session

/-- Nothing is left to do, and a run that finds this out ends with the outcome: the session has ended, or it has
completed with a cursor that names no step, for which a run needs some time and one iteration. -/
inductive Settled (s : Session) : Outcome → Prop
  | ended {o} (he : s.isEnded = true) : Settled s o
  | dangling (hs : s.currentStep? = none) (ht : 0 < s.options.timeout) (hn : 0 < s.options.maxIterations) :
      Settled s .completed

theorem finish_eq_self {s : Session} {o : Outcome} (h : s.outcome = some o) : s.finish o 0 = s := by
  unfold finish
  rw [← h, Nat.add_zero]

/-- The session that a run, or a run with its report, has left, by the outcome of that run. -/
inductive LeftWith (o : Outcome) : Session → Prop
  | run {ω : Type} {x : Executor ω} {s w s' w'} (hr : x.run s w = some (o, s', w')) : LeftWith o s'
  | resume {ω : Type} {x : Executor ω} {s w report s' w'} (hr : x.resume s w = some (report, s', w'))
      (ho : report.outcome = some o) : LeftWith o s'

theorem leftWith_get {x : Executor ω} {s : Session} {w : ω} {o : Outcome} (h : (x.run s w).isSome = true)
    (ho : (x.run s w).map (·.1) = some o) : LeftWith o ((x.run s w).get h).2.1 := by
  obtain ⟨o', w', hrun⟩ := run_get h
  obtain rfl : o' = o := by
    rw [hrun, Option.map_some] at ho
    exact Option.some.inj ho
  exact .run hrun

end Session

namespace Executor

/-! ## What ended runs leave -/

section Closes
variable {x : Executor ω} {started : Instant} {limit : Nat} {resting o : Outcome} {s m s' : Session} {w v w' : ω}
  {turns : List (Turn ω)}

/-- A run that ends as completed or halted closes in a settled session. -/
theorem Closes.settled (h : x.Closes started limit resting turns m v o s' w') (hp : x.Path started s w turns m v)
    (hlimit : limit = s.options.maxIterations) (ho : o = .completed ∨ o = .haltedOnError) : s'.Settled o := by
  cases h with
  | resting he _ => exact .ended he
  | completed he _ _ => exact .ended he
  | dangling _ hl hn hs _ =>
    refine .dangling hs (Nat.zero_lt_of_lt hl) ?_
    rw [hp.options, ← hlimit]
    exact Nat.zero_lt_of_lt hn
  | timedOut | exhausted => simp at ho
  | halted ht hh _ => exact .ended (Session.isEnded_of_cursor_none (hp.cursor_halt ht hh))

theorem Ran.settled (h : x.Ran s w turns o s' w') (ho : o = .completed ∨ o = .haltedOnError) : s'.Settled o := by
  obtain ⟨m, v, s₁, v₁, hasked, hcloses, rfl, -⟩ := h.course
  -- The end of a run touches nothing that a settled session is told by.
  cases hcloses.settled hasked.path rfl ho with
  | ended he => exact .ended he
  | dangling hs ht hn => exact .dangling hs ht hn

/-- What a run with its report has left, a run has left. -/
theorem ran_of_leftWith (h : s.LeftWith o) :
    ∃ (ω : Type) (x : Executor ω) (r : Session) (w : ω) (turns : List (Turn ω)) (w' : ω), x.Ran r w turns o s w' := by
  cases h with
  | run hr =>
    obtain ⟨turns, hran⟩ := run_ran _ hr
    exact ⟨_, _, _, _, turns, _, hran⟩
  | resume hr ho =>
    obtain ⟨o', hrun⟩ := Session.run_of_resume hr
    obtain ⟨turns, hran⟩ := run_ran _ hrun
    -- The report tells the outcome that the session has noted.
    rw [Executor.resume, hrun, Option.map_some] at hr
    obtain ⟨hreport, -⟩ := Prod.mk.inj (Option.some.inj hr)
    rw [← hreport] at ho
    obtain rfl := Option.some.inj (hran.outcome_eq.symm.trans ho)
    exact ⟨_, _, _, _, turns, _, hran⟩

end Closes

/-! ## Further runs -/

section World
variable {σ : Type} {x : Executor (World σ)} {s : Session} {o : Outcome}

/-- On a virtual clock no time passes before a run finds out that nothing is left to do. -/
theorem loop_settled (h : s.Settled o) (ho : s.outcome = some o) (hx : x.now = World.now) (w : World σ) :
    x.loop w.clock.time s.options.maxIterations true s w = some (o, s, w) := by
  by_cases he : s.isEnded = true
  · rw [x.loop_ended he, restingOutcome, if_pos rfl, ho, Option.getD_some]
  cases h with
  | ended hended => exact absurd hended he
  | dangling hs ht hn =>
    have hnow : x.now w = (w.clock.time, w) := by rw [hx]; rfl
    have htime : ¬ s.options.timeout ≤ Instant.elapsed w.clock.time (x.now w).1 := by
      rw [hnow, Instant.elapsed_self]
      exact Nat.not_le_of_lt ht
    obtain ⟨n, hn⟩ := Nat.exists_eq_succ_of_ne_zero (Nat.ne_of_gt hn)
    rw [hn, x.loop_dangling (Bool.eq_false_iff.mpr he) htime hs, hnow]

/-- A run of a settled session on a virtual clock gives its outcome again and changes nothing. -/
theorem run_settled (h : s.Settled o) (ho : s.outcome = some o) (hx : x.now = World.now) (w : World σ) :
    x.run s w = some (o, s, w) := by
  have hnow : x.now w = (w.clock.time, w) := by rw [hx]; rfl
  have hrun := x.run_eq s w
  rw [hnow, loop_settled h ho hx, Option.map_some, hnow, Instant.elapsed_self, Session.finish_eq_self ho] at hrun
  exact hrun

/-- **Ended runs stay ended.** Let the latest run of a session, whatever the session had been through before, have
completed or been halted, and no restore have taken the session back since. On a virtual clock, a further run with
whatever strategies ends with the same outcome, at once, and leaves the session and the world as they are. -/
theorem ended_runs_stay_ended (h : s.LeftWith o) (ho : o = .completed ∨ o = .haltedOnError) (hx : x.now = World.now)
    (w : World σ) : x.run s w = some (o, s, w) ∧ x.resume s w = some (s.report, s, w) ∧ s.report.outcome = some o := by
  obtain ⟨_, _, _, _, turns, _, hran⟩ := ran_of_leftWith h
  have hrun := run_settled (hran.settled ho) hran.outcome_eq hx w
  refine ⟨hrun, ?_, hran.outcome_eq⟩
  rw [resume, hrun, Option.map_some]

end World

end Executor

/-! ## A run that has no step to go on with, and one that was halted -/

namespace Session

/-- A session that is to go on from a step that its program does not have. -/
def danglingSession : Session := .start "run" threeSteps .empty { resumeFrom := some "d" }

theorem danglingSession_runs : (Executor.standard.run danglingSession (.frozen 0 ())).isSome = true :=
  Executor.standard_run_isSome danglingSession rfl

/-- The session after a run, which has found no step. -/
def lostSession : Session := ((Executor.standard.run danglingSession (.frozen 0 ())).get danglingSession_runs).2.1

/-- The session still has its cursor, and the one that its last step has halted has none. Neither is touched by a run
whose actions would panic. -/
theorem ended_runs_stay_ended_lost : lostSession.LeftWith .completed ∧ lostSession.isEnded = false ∧
    stoppedSession.LeftWith .haltedOnError ∧ stoppedSession.isEnded = true ∧ panicking.now = World.now ∧
    ∀ w, panicking.run lostSession w = some (.completed, lostSession, w) ∧
      panicking.run stoppedSession w = some (.haltedOnError, stoppedSession, w) := by
  have hlost : lostSession.LeftWith .completed := leftWith_get danglingSession_runs (by decide +kernel)
  have hstopped : stoppedSession.LeftWith .haltedOnError := leftWith_get failingSession_runs (by decide +kernel)
  refine ⟨hlost, by decide +kernel, hstopped, by decide +kernel, rfl, fun w => ⟨?_, ?_⟩⟩
  · exact (Executor.ended_runs_stay_ended hlost (Or.inl rfl) rfl w).1
  · exact (Executor.ended_runs_stay_ended hstopped (Or.inr rfl) rfl w).1

end Session

end Runbook
