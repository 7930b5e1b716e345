import Runbook.Proofs.Continuity

/-!
# Failures

A step that fails leaves a record and an error. A restore may cut the record from the trace; the error stays.

* `Failure` : what is told of a failed step, by its record and by its error;
* `Session.failures`, `Session.notedFailures` : the failures of the trace and of the errors;
* `Session.Becomes` : what one operation makes of a session; `Becomes.errors_prefix` : it never takes an error back;
* `History.no_failure_lost` : every failure of the trace is among those of the errors, in order.
-/

namespace Runbook

variable {ω : Type}

/-- What is told of a failed step: its name, the text of its error, and when it ended. -/
structure Failure where
  step : Option String
  message : Option String
  endedAt : Instant
deriving DecidableEq, Repr

/-- The failure that a record tells of. -/
def Record.failure? (r : Record) : Option Failure :=
  if r.status = .failed then some ⟨some r.step, r.error, r.endedAt⟩ else none

/-- The failure that an error tells of, if it is that of a step. -/
def ErrorRecord.failure? (e : ErrorRecord) : Option Failure :=
  if e.kind = .step then some ⟨e.step, some e.message, e.timestamp⟩ else none

theorem ErrorRecord.failure?_of_kind {es : List ErrorRecord} (h : ∀ e ∈ es, e.kind ≠ .step) :
    es.filterMap failure? = [] :=
  List.filterMap_eq_nil_iff.mpr fun e he => if_neg (h e he)

/-- The record of a turn and its errors tell of the same failure, or of none. -/
theorem Turn.failures_eq (t : Turn ω) :
    [t.record].filterMap Record.failure? = t.errors.filterMap ErrorRecord.failure? := by
  cases h : t.ending with
  | succeeded =>
    have hstatus := Turn.record_succeeded h
    simp [Record.failure?, Turn.errors, h, hstatus]
  | skipped c =>
    have hstatus := Turn.record_skipped h
    simp [Record.failure?, Turn.errors, h, hstatus]
  | failed e =>
    obtain ⟨hstatus, herror, hended⟩ := Turn.record_failed h
    simp [Record.failure?, ErrorRecord.failure?, Turn.errors, Turn.stepError, h, hstatus, herror, hended,
      t.record_step]

namespace Session

/-- The failures that the trace tells of. -/
def failures (s : Session) : List Failure := s.trace.filterMap Record.failure?

/-- The failures that the errors tell of. -/
def notedFailures (s : Session) : List Failure := s.errors.filterMap ErrorRecord.failure?

/-- What one operation makes of a session: a run with some executor, a resumed run, or a restore. -/
inductive Becomes (s : Session) : Session → Prop
  | run {ω : Type} {x : Executor ω} {w o s' w'} (hr : x.run s w = some (o, s', w')) : Becomes s s'
  | resume {ω : Type} {x : Executor ω} {w report s' w'} (hr : x.resume s w = some (report, s', w')) : Becomes s s'
  | restore {i s'} (hs : s.restore? i = some s') : Becomes s s'

theorem run_errors_prefix {x : Executor ω} {s s' : Session} {w w' : ω} {o : Outcome}
    (h : x.run s w = some (o, s', w')) : s.errors <+: s'.errors := by
  obtain ⟨turns, m, v, es, d, hpath, -, -, rfl, -⟩ := x.run_course h
  show s.errors <+: m.errors ++ es
  rw [hpath.errors, List.append_assoc]
  exact List.prefix_append _ _

theorem Becomes.errors_prefix {s s' : Session} (h : s.Becomes s') : s.errors <+: s'.errors := by
  cases h with
  | run hr => exact run_errors_prefix hr
  | resume hr =>
    obtain ⟨o, hrun⟩ := run_of_resume hr
    exact run_errors_prefix hrun
  | restore hs =>
    obtain ⟨c, -, rfl⟩ := restore_eq hs
    exact List.prefix_refl s.errors

/-- The failures of the trace are among those noted, and all of them where no restore has been made. -/
def FailuresNoted (s : Session) (rs : List Rewind) : Prop :=
  s.failures.Sublist s.notedFailures ∧ (rs = [] → s.failures = s.notedFailures)

theorem FailuresNoted.turn {s : Session} {rs : List Rewind} (h : s.FailuresNoted rs) (t : Turn ω) :
    (t.apply s).FailuresNoted rs := by
  have htrace : (t.apply s).failures = s.failures ++ [t.record].filterMap Record.failure? := by
    rw [failures, t.apply_trace, List.filterMap_append, failures]
  have herrors : (t.apply s).notedFailures = s.notedFailures ++ [t.record].filterMap Record.failure? := by
    rw [notedFailures, t.apply_errors, List.filterMap_append, t.failures_eq, notedFailures]
  rw [FailuresNoted, htrace, herrors]
  exact ⟨h.1.append_right _, fun hrs => by rw [h.2 hrs]⟩

theorem FailuresNoted.finish {s : Session} {rs : List Rewind} (h : s.FailuresNoted rs) {es : List ErrorRecord}
    (hes : ∀ e ∈ es, e.kind ≠ .step) (o : Outcome) (d : Duration) :
    (Session.finish { s with errors := s.errors ++ es } o d).FailuresNoted rs := by
  have herrors : (Session.finish { s with errors := s.errors ++ es } o d).notedFailures = s.notedFailures := by
    show (s.errors ++ es).filterMap ErrorRecord.failure? = _
    rw [List.filterMap_append, ErrorRecord.failure?_of_kind hes, List.append_nil, notedFailures]
  rw [FailuresNoted, herrors]
  exact h

/-- A restore cuts the trace and keeps the errors. -/
theorem FailuresNoted.restore {s s' : Session} {rs : List Rewind} {i : Int} {r : Rewind} (h : s.FailuresNoted rs)
    (hs : s.restore? i = some s') : s'.FailuresNoted (r :: rs) := by
  obtain ⟨c, -, rfl⟩ := restore_eq hs
  exact ⟨((List.take_sublist _ _).filterMap _).trans h.1, nofun⟩

/-- **No failure is lost.** In every history the failed records of the trace tell, in order, of failures that the errors
tell of, and of all of them as long as no restore has been made; and whatever is done next, no error is taken back, so
that no report of failure is followed by one of success. -/
theorem History.no_failure_lost {initial : State} {s : Session} {n : Nat} {rs : List Rewind}
    (h : History initial s n rs) : s.failures.Sublist s.notedFailures ∧ (rs = [] → s.failures = s.notedFailures) ∧
      ∀ s', s.Becomes s' → s.errors <+: s'.errors ∧ (s'.report.success = true → s.report.success = true) := by
  obtain ⟨-, -, hsub, heq⟩ := h.keeps_noting (P := fun s _ rs => s.FailuresNoted rs)
    (fun _ _ _ => ⟨List.Sublist.refl [], fun _ => rfl⟩) (fun {_ _ _ _ _ t} _ _ _ _ h => h.turn t)
    (fun es o d hes h => h.finish hes o d) (fun h _ hs => h.restore hs)
  refine ⟨hsub, heq, fun s' hs' => ⟨hs'.errors_prefix, fun hsuccess => ?_⟩⟩
  have hnone : s'.errors = [] := List.isEmpty_iff.mp hsuccess
  have hprefix := hs'.errors_prefix
  rw [hnone, List.prefix_nil] at hprefix
  exact List.isEmpty_iff.mpr hprefix

theorem freshSession_fails : (panicking.run freshSession (.frozen 0 ())).isSome = true := by decide

/-- The session of three steps after a run whose first action panics. -/
def failedSession : Session := ((panicking.run freshSession (.frozen 0 ())).get freshSession_fails).2.1

theorem no_failure_lost_failed : History .empty failedSession 1 [] ∧
    failedSession.failures = [⟨some "a", some "Panicked: no more", 0⟩] ∧
    failedSession.failures = failedSession.notedFailures := by
  have hstart : History .empty freshSession 0 [] := .start "run" threeSteps { checkpoint := true }
  have hcount : 0 + captures freshSession failedSession = 1 := by decide
  have hfailed : History .empty failedSession 1 [] := hstart.run_counted (run_get freshSession_fails) hcount
  exact ⟨hfailed, by decide, hfailed.no_failure_lost.2.1 rfl⟩

end Session

end Runbook
