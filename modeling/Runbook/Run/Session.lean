import Runbook.Options.Basic
import Runbook.Program.Basic
import Runbook.Run.Checkpoint
import Runbook.Run.Record

/-!
# Sessions

A session is a program with its live state, the cursor that names the next step, and the history of
its runs.

* `Session.start` : before the first run, at the step to resume from or at the first step;
* `Session.advance`, `Session.retry`, `Session.halt` : where the cursor goes after a step;
* `Session.capture`, `Session.restore?` : checkpoints, and the way back to one of them.
-/

namespace Runbook

/-- A program that runs, and the history of its runs. -/
structure Session where
  runId : String
  program : Program
  state : State
  /-- The name of the next step, none if there is no more work. -/
  cursor : Option String
  trace : List Record
  errors : List ErrorRecord
  options : Options
  checkpoints : CheckpointStore
  /-- The number of the attempt that the next step is at, a counter of 32 bits. -/
  attempt : Nat
  /-- The time spent in all runs together. -/
  active : Duration
  /-- The outcome of the latest run. -/
  outcome : Option Outcome
deriving Repr, Inhabited

namespace Session

/-- A session before its first run. -/
def start (runId : String) (program : Program) (state : State) (options : Options) : Session where
  runId
  program
  state
  cursor := options.resumeFrom <|> program.firstName?
  trace := []
  errors := []
  options
  checkpoints := .empty options.maxCheckpoints
  attempt := 1
  active := 0
  outcome := none

/-- The step that the cursor names; none for no cursor and for a name that no step bears. -/
def currentStep? (s : Session) : Option Step := s.cursor.bind s.program.step?

/-- Whether there is nothing left to do. -/
def isEnded (s : Session) : Bool := s.state.isCompleted || s.cursor.isNone

/-- The session at the step after the current one. -/
def advance (s : Session) : Session :=
  { s with cursor := s.cursor.bind s.program.nextName?, attempt := 1 }

/-- The number of the attempt after another one. After the last number of 32 bits comes 0. -/
def nextAttempt (n : Nat) : Nat := (n + 1) % UInt32.size

/-- The session at the current step, for one more attempt. -/
def retry (s : Session) : Session := { s with attempt := nextAttempt s.attempt }

/-- The session without further work. -/
def halt (s : Session) : Session := { s with cursor := none }

/-- The session with one more record. -/
def pushRecord (s : Session) (r : Record) : Session := { s with trace := s.trace ++ [r] }

/-- The session with one more error. -/
def pushError (s : Session) (e : ErrorRecord) : Session := { s with errors := s.errors ++ [e] }

/-- The session with a checkpoint of where it stands. -/
def capture (s : Session) (now : Instant) : Session :=
  { s with checkpoints :=
      s.checkpoints.push (.capture now s.cursor s.state s.trace.length) }

/-- The session after a run. -/
def finish (s : Session) (outcome : Outcome) (duration : Duration) : Session :=
  { s with outcome := some outcome, active := s.active + duration }

/-- The session back at the checkpoint of an index, if there is one. State and cursor are those of
the checkpoint and the trace is cut; errors and checkpoints stay. -/
def restore? (s : Session) (index : Int) : Option Session :=
  (s.checkpoints.get? index).map fun c =>
    { s with state := c.state, cursor := c.cursor, trace := s.trace.take c.traceLength, attempt := 1 }

end Session

end Runbook
