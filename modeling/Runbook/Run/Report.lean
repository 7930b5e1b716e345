import Runbook.Run.Session

/-!
# Reports

* `Statistics` : counts over a trace;
* `Report` : what is told of a run; `Session.report` of a session, `Report.rejected` of a run that was
  refused before it started.
-/

namespace Runbook

/-- Counts over a trace. -/
structure Statistics where
  /-- The steps of the program. -/
  totalSteps : Nat
  /-- The records of the trace, those of skipped steps included. -/
  executedSteps : Nat
  successSteps : Nat
  failedSteps : Nat
  skippedSteps : Nat
  /-- The records whose step changed the state. -/
  stateChanges : Nat
  durationMs : Nat
deriving DecidableEq, Repr, Inhabited

namespace Statistics

/-- The counts of a run that never started. -/
def none : Statistics := ⟨0, 0, 0, 0, 0, 0, 0⟩

/-- The number of records with a status. -/
def count (trace : List Record) (status : Status) : Nat := trace.countP (·.status == status)

/-- The counts of a session. -/
def ofSession (s : Session) : Statistics where
  totalSteps := s.program.steps.length
  executedSteps := s.trace.length
  successSteps := count s.trace .success
  failedSteps := count s.trace .failed
  skippedSteps := count s.trace .skipped
  stateChanges := s.trace.countP Record.changed
  durationMs := s.active.millis

/-- The counts as an object. -/
def toJson (s : Statistics) : Json :=
  let number (n : Nat) : Json := .num (.int n)
  .obj [("total_steps", number s.totalSteps), ("executed_steps", number s.executedSteps),
    ("success_steps", number s.successSteps), ("failed_steps", number s.failedSteps),
    ("skipped_steps", number s.skippedSteps), ("state_changes", number s.stateChanges),
    ("duration_ms", number s.durationMs)]

end Statistics

/-- What is told of a run. -/
structure Report where
  runId : String
  success : Bool
  /-- How the run ended, none if it was refused before it started. -/
  outcome : Option Outcome
  finalState : State
  trace : List Record
  errors : List ErrorRecord
  statistics : Statistics
deriving Repr, Inhabited

namespace Report

/-- The step that a refusal before the start is ascribed to. -/
def initializationStep : String := "initialization"

/-- The report of a run that was refused before it started. -/
def rejected (runId : String) (now : Instant) (error : Rejection) (state : State) : Report where
  runId
  success := false
  outcome := none
  finalState := state
  trace := []
  errors := [⟨.system, error.message, some initializationStep, now⟩]
  statistics := .none

/-- A report as an object. -/
def toJson (r : Report) : Json :=
  .obj [("run_id", .str r.runId), ("success", .bool r.success),
    ("outcome", match r.outcome with
      | some o => .str o.word
      | none => .null),
    ("final_state", r.finalState.toJson), ("trace", .arr (r.trace.map Record.toJson)),
    ("errors", .arr (r.errors.map ErrorRecord.toJson)), ("statistics", r.statistics.toJson)]

end Report

/-- What is told of a session as it is. -/
def Session.report (s : Session) : Report where
  runId := s.runId
  success := s.errors.isEmpty
  outcome := s.outcome
  finalState := s.state
  trace := s.trace
  errors := s.errors
  statistics := .ofSession s

end Runbook
