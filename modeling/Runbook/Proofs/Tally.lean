import Runbook.Proofs.Retained
import Runbook.Proofs.Sameness

/-!
# Records and their counts

A record is made once its step has ended, in one of three ways, and it says what belongs to that way and no more. So the
counts of a report add up, whatever a session has been through.

* `Record.Finished` : a record as the end of a step leaves it; `Performs.finished`, `Takes.finished` : every step leaves
  such a record;
* `Statistics.length_eq_counts`, `countP_changed_le` : the counts of such records;
* `Session.AddsUp` : records and counts of a session that fit; `records_add_up` : so they do in every history, and at
  every turn of a run.
-/

namespace Runbook

variable {ω : Type}

/-! ## Records -/

/-- A record as the end of a step leaves it: its status is terminal, it tells an error if and only if the step failed and
a reason if and only if it was skipped, and a step that was skipped has left the state as it was. -/
structure Record.Finished (r : Record) : Prop where
  terminal : r.status.isTerminal = true
  error_iff : r.error.isSome = true ↔ r.status = .failed
  reason_iff : r.reason.isSome = true ↔ r.status = .skipped
  untouched : r.status = .skipped → r.after = r.before

namespace Running

variable (r : Running) (endedAt : Instant) (after : State)

theorem succeed_finished : (r.succeed endedAt after).Finished where
  terminal := rfl
  error_iff := by simp [succeed, finish]
  reason_iff := by simp [succeed, finish]
  untouched := nofun

theorem fail_finished (e : StepError) : (r.fail endedAt after e).Finished where
  terminal := rfl
  error_iff := by simp [fail, finish]
  reason_iff := by simp [fail, finish]
  untouched := nofun

theorem skip_finished (reason : String) : (r.skip endedAt r.before reason).Finished where
  terminal := rfl
  error_iff := by simp [skip, finish]
  reason_iff := by simp [skip, finish]
  untouched _ := rfl

end Running

namespace Executor

variable {x : Executor ω} {started : Instant} {s : Session} {w w' : ω} {t : Turn ω}

/-- However a step is performed, its record is finished; a step whose conditions do not all hold calls nothing. -/
theorem Performs.finished (h : x.Performs t.step t.before w t.evaluations t.calls t.ending t.after w') :
    t.record.Finished := by
  unfold Turn.record
  generalize t.ending = ending at h
  generalize hafter : t.after = after at h
  generalize t.calls = calls at h
  cases h with
  | unchecked => exact t.running.fail_finished ..
  | skipped => exact t.running.skip_finished ..
  | failed => exact t.running.fail_finished ..
  | succeeded => exact t.running.succeed_finished ..

theorem Takes.finished (h : x.Takes started s w t w') : t.record.Finished := by
  obtain ⟨v, v', hperforms⟩ := h.performed
  exact hperforms.finished

/-- A path adds finished records only. -/
theorem Path.finished {m : Session} {turns : List (Turn ω)} (h : x.Path started s w turns m w')
    (hs : ∀ r ∈ s.trace, r.Finished) : ∀ r ∈ m.trace, r.Finished := by
  rw [h.trace]
  refine List.forall_mem_append.mpr ⟨hs, fun r hr => ?_⟩
  obtain ⟨t, ht, rfl⟩ := List.mem_map.mp hr
  obtain ⟨_, _, _, htakes, -⟩ := h.taken t ht
  exact htakes.finished

end Executor

/-! ## Counts -/

namespace Statistics

variable {trace : List Record}

/-- Every record with a terminal status is in one of three counts. -/
theorem length_eq_counts (h : ∀ r ∈ trace, r.status.isTerminal = true) :
    trace.length = count trace .success + count trace .failed + count trace .skipped := by
  unfold count
  induction trace with
  | nil => rfl
  | cons r rs ih =>
    obtain ⟨hr, hrs⟩ := List.forall_mem_cons.mp h
    have hrest := ih hrs
    rw [List.countP_cons, List.countP_cons, List.countP_cons, List.length_cons]
    cases hstatus : r.status with
    | pending => rw [hstatus] at hr; cases hr
    | running => rw [hstatus] at hr; cases hr
    | success => simp; omega
    | failed => simp; omega
    | skipped => simp; omega

/-- A record of a changed state is not that of a skipped step. -/
theorem countP_changed_le (h : ∀ r ∈ trace, r.status = .skipped → r.after = r.before) :
    trace.countP Record.changed + count trace .skipped ≤ trace.length := by
  have hchanged : trace.countP Record.changed ≤ trace.countP fun r => !(r.status == .skipped) := by
    refine List.countP_mono_left fun r hr hchanged => ?_
    rw [Bool.not_eq_true', beq_eq_false_iff_ne]
    intro hskipped
    rw [Record.changed, h r hr hskipped, State.same, Json.same_refl] at hchanged
    cases hchanged
  have hsplit := List.length_eq_countP_add_countP (fun r : Record => r.status == .skipped) (l := trace)
  simp only [Bool.not_eq_true, Bool.decide_eq_false] at hsplit
  unfold count
  omega

end Statistics

/-! ## Sessions -/

namespace Session

/-- The records of a session are finished, and what is told of it fits: the report has the trace, the state and the
errors of the session, its counts are those of the trace and add up, no more steps have changed the state than were
performed, and it is a success if and only if there is no error. -/
structure AddsUp (s : Session) : Prop where
  finished : ∀ r ∈ s.trace, r.Finished
  trace : s.report.trace = s.trace
  executed : s.report.statistics.executedSteps = s.report.trace.length
  parts : s.report.statistics.executedSteps = s.report.statistics.successSteps + s.report.statistics.failedSteps +
    s.report.statistics.skippedSteps
  changes : s.report.statistics.stateChanges ≤ s.report.statistics.successSteps + s.report.statistics.failedSteps
  state : s.report.finalState = s.state
  errors : s.report.errors = s.errors
  success : s.report.success = true ↔ s.report.errors = []

theorem addsUp_of_finished {s : Session} (h : ∀ r ∈ s.trace, r.Finished) : s.AddsUp := by
  have hparts := Statistics.length_eq_counts fun r hr => (h r hr).terminal
  have hchanges := Statistics.countP_changed_le fun r hr => (h r hr).untouched
  refine ⟨h, rfl, rfl, hparts, ?_, rfl, rfl, List.isEmpty_iff⟩
  show s.trace.countP Record.changed ≤ Statistics.count s.trace .success + Statistics.count s.trace .failed
  omega

/-- Runs add finished records only, and restores none. -/
theorem History.finished {initial : State} {s : Session} {n : Nat} {rs : List Rewind} (h : History initial s n rs) :
    ∀ r ∈ s.trace, r.Finished := by
  obtain ⟨-, -, hfinished⟩ : ∃ all : List Checkpoint, all.length = n ∧ ∀ r ∈ s.trace, r.Finished := by
    refine h.keeps (P := fun s _ _ => ∀ r ∈ s.trace, r.Finished) ?start ?turn ?finish ?restore
    case start => exact fun _ _ _ _ hr => absurd hr List.not_mem_nil
    case turn =>
      intro _ _ _ _ _ t _ _ _ htakes hs
      rw [t.apply_trace]
      exact List.forall_mem_append.mpr ⟨hs, List.forall_mem_singleton.mpr htakes.finished⟩
    case finish => exact fun _ _ _ hs => hs
    case restore =>
      intro _ _ _ _ _ _ hs _ hrestore
      obtain ⟨c, -, rfl⟩ := restore_eq hrestore
      exact fun r hr => hs r (List.mem_of_mem_take hr)
  exact hfinished

/-- **Records and counts.** After any sequence of runs, resumes and restores, with any executors, and at every turn of a
run that follows, also of one that breaks off: the records are finished, each with a terminal status, with an error if
and only if its step failed, with a reason if and only if it was skipped, and then with the state as it was; and the
counts of the report add up to the length of the trace. -/
theorem History.records_add_up {initial : State} {s : Session} {n : Nat} {rs : List Rewind}
    (h : History initial s n rs) : s.AddsUp ∧ ∀ (ω : Type) (x : Executor ω) (started : Instant) (w : ω)
      (turns : List (Turn ω)) (m : Session) (v : ω), x.Path started s w turns m v → m.AddsUp :=
  ⟨addsUp_of_finished h.finished, fun _ _ _ _ _ _ _ hpath => addsUp_of_finished (hpath.finished h.finished)⟩

/-- A session of a step that succeeds, one whose condition does not hold and one that fails. -/
def mixedSession : Session :=
  .start "run" ⟨"p", "g", [⟨"a", ["set a = true"], []⟩, ⟨"b", ["set b = true"], ["b exists"]⟩, ⟨"c", ["fail: no"], []⟩]⟩
    .empty { mode := .adaptive }

/-- An executor that takes conditions as they are written; a failed step is passed over. -/
def judging : Executor (World Unit) := .onWorld .ofState .vocabulary .proceed false

theorem mixedSession_runs : (judging.run mixedSession (.frozen 0 ())).isSome = true :=
  Executor.onWorld_run_isSome (fun _ _ _ => rfl)
    (fun a s w => congrArg World.clock (Dispatcher.vocabulary_world a s w)) mixedSession rfl

/-- The session after a run. -/
def judgedSession : Session := ((judging.run mixedSession (.frozen 0 ())).get mixedSession_runs).2.1

theorem judgedSession_history : History .empty judgedSession 0 [] := by
  have hstart : History .empty mixedSession 0 [] := .start "run" mixedSession.program mixedSession.options
  exact hstart.run_counted (run_get mixedSession_runs) rfl

theorem records_add_up_judged : History .empty judgedSession 0 [] ∧
    judgedSession.trace.map (·.status) = [.success, .skipped, .failed] ∧ (∀ r ∈ judgedSession.trace, r.Finished) ∧
    judgedSession.report.statistics.executedSteps = 1 + 1 + 1 ∧ judgedSession.report.statistics.stateChanges ≤ 2 := by
  have hstatuses : judgedSession.trace.map (·.status) = [.success, .skipped, .failed] := by decide +kernel
  have hcounts : judgedSession.report.statistics.successSteps = 1 ∧ judgedSession.report.statistics.failedSteps = 1 ∧
      judgedSession.report.statistics.skippedSteps = 1 := by decide +kernel
  obtain ⟨hsuccess, hfailed, hskipped⟩ := hcounts
  obtain ⟨hadds, -⟩ := History.records_add_up judgedSession_history
  have hparts := hadds.parts
  have hchanges := hadds.changes
  rw [hsuccess, hfailed] at hparts hchanges
  rw [hskipped] at hparts
  exact ⟨judgedSession_history, hstatuses, hadds.finished, hparts, hchanges⟩

end Session

end Runbook
