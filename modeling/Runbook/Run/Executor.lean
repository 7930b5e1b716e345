import Runbook.Options.Settings
import Runbook.Program.Parse
import Runbook.Run.Report
import Runbook.Run.Strategy

/-!
# Runs

* `Executor` : the strategies of a run, its clock and its cancellation flag, over a world `ω`;
* `Executor.executeStep` : one step, its conditions first, and its record;
* `Executor.loop` : steps until the session has ended, the time budget is spent or the iteration
  ceiling is reached;
* `Session.prepare`, `Executor.run`, `Executor.resume` : a session, and one run of it;
* `Executor.execute`, `Executor.executeJson` : a run of a program text from its start.

A run has no result only where the clock cannot move on after a step.
-/

namespace Runbook

/-- The strategies of a run, its clock and its cancellation flag. The world `ω` holds whatever they
remember. -/
structure Executor (ω : Type) where
  evaluate : Evaluator ω
  dispatch : Dispatcher ω
  recover : Recovery ω
  /-- Reads the clock. -/
  now : ω → Instant × ω
  /-- Tells the clock that a step has finished. -/
  stepFinished? : ω → Option ω
  /-- Whether the run has been cancelled. -/
  isCancelled : ω → Bool

/-- How a step ended. -/
inductive StepEnd where
  | succeeded
  | skipped (condition : String)
  | failed (error : StepError)
deriving DecidableEq, Repr

/-- What a run takes from outside: an identifier, and the time for a refusal before the start. -/
structure Origin where
  runId : String
  now : Instant
deriving DecidableEq, Repr, Inhabited

/-- A session of a program text, before its first run. -/
def Session.prepare (runId text : String) (state : State) (options : Options) :
    Except Rejection Session :=
  options.validate.map fun options => .start runId (Program.parse text) state options

namespace Executor

variable {ω : Type} (x : Executor ω)

/-! ## One step -/

/-- The first condition that does not hold. -/
def firstUnmet (state : State) : List String → ω → Except StepError (Option String) × ω
  | [], w => (.ok none, w)
  | c :: cs, w =>
    let (reply, w) := x.evaluate c state w
    match reply.guarded with
    | .error e => (.error e, w)
    | .ok false => (.ok (some c), w)
    | .ok true => firstUnmet state cs w

/-- Actions in order up to the first that fails; a cancelled run starts none. -/
def applyActions : List String → State → ω → Except StepError Unit × State × ω
  | [], state, w => (.ok (), state, w)
  | a :: as, state, w =>
    if x.isCancelled w then (.error .cancelled, state, w)
    else
      let (reply, state, w) := x.dispatch a state w
      match reply.guarded with
      | .error e => (.error e, state, w)
      | .ok () => applyActions as state w

/-- The conditions of a step, and its actions if they all hold. -/
def perform (step : Step) (state : State) (w : ω) : StepEnd × State × ω :=
  match x.firstUnmet state step.conditions w with
  | (.error e, w) => (.failed e, state, w)
  | (.ok (some c), w) => (.skipped c, state, w)
  | (.ok none, w) =>
    let (result, state, w) := x.applyActions step.actions state w
    match result with
    | .error e => (.failed e, state, w)
    | .ok () => (.succeeded, state, w)

/-- The session after a step has ended, with its record and its error. -/
def note (s : Session) (r : Running) (endedAt : Instant) : StepEnd → Session
  | .succeeded => s.pushRecord (r.succeed endedAt s.state)
  | .skipped c => s.pushRecord (r.skip endedAt s.state ("Condition not met: " ++ c))
  | .failed e =>
    (s.pushError ⟨.step, e.message, some r.step, endedAt⟩).pushRecord (r.fail endedAt s.state e)

/-- One step of a session. -/
def executeStep (step : Step) (s : Session) (w : ω) : StepEnd × Session × ω :=
  let (startedAt, w) := x.now w
  let running : Running := ⟨step.name, s.attempt, startedAt, s.state⟩
  let (ending, state, w) := x.perform step s.state w
  let (endedAt, w) := x.now w
  (ending, note { s with state } running endedAt ending, w)

/-! ## The loop -/

/-- What follows the end of a step. In a strict run a failure always halts. -/
def decision (s : Session) (step : Step) : StepEnd → ω → Decision × ω
  | .failed e, w => match s.options.mode with
    | .strict => (.halt, w)
    | .adaptive => x.recover step e s.attempt w
  | _, w => (.proceed, w)

/-- The session with a checkpoint, if its options ask for one. -/
def checkpoint (s : Session) (w : ω) : Session × ω :=
  if s.options.checkpoint then
    let (now, w) := x.now w
    (s.capture now, w)
  else (s, w)

/-- The session with its cursor moved as decided. -/
def move (s : Session) : Decision → Session
  | .proceed => s.advance
  | .retry => s.retry
  | .halt => s

/-- One step of a session with all that follows it up to the end of the iteration. -/
def iterate (step : Step) (s : Session) (w : ω) : Option (Decision × Session × ω) :=
  let (ending, after, w) := x.executeStep step s w
  let (decision, w) := x.decision s step ending w
  let after := if decision = .halt then after.halt else after
  let (after, w) := x.checkpoint after w
  (x.stepFinished? w).map fun w => (decision, move after decision, w)

/-- The error of a run that has used up its time budget. -/
def timeoutError (s : Session) (now : Instant) (spent : Duration) : ErrorRecord :=
  ⟨.timeout, "Execution timed out after " ++ toString spent.millis ++ "ms (budget "
    ++ toString s.options.timeout.millis ++ "ms)", s.cursor, now⟩

/-- The error of a run that has reached its iteration ceiling. -/
def ceilingError (s : Session) (now : Instant) : ErrorRecord :=
  ⟨.iterationLimit, "Iteration limit of " ++ toString s.options.maxIterations ++ " reached",
    s.cursor, now⟩

/-- The iterations of a run that began at `started` and may still iterate `remaining` times. Where
nothing has run yet (`fresh`), the outcome of the latest run still stands. -/
def loop (started : Instant) : (remaining : Nat) → (fresh : Bool) → Session → ω →
    Option (Outcome × Session × ω)
  | remaining, fresh, s, w =>
    if s.isEnded then
      some (if fresh then s.outcome.getD .completed else .completed, s, w)
    else
      let (now, w) := x.now w
      let spent := Instant.elapsed started now
      if s.options.timeout ≤ spent then
        some (.timedOut, s.pushError (timeoutError s now spent), w)
      else
        match remaining with
        | 0 => some (.exhaustedIterations, s.pushError (ceilingError s now), w)
        | remaining + 1 =>
          match s.currentStep? with
          | none => some (.completed, s, w)
          | some step =>
            match x.iterate step s w with
            | none => none
            | some (.halt, s, w) => some (.haltedOnError, s, w)
            | some (_, s, w) => loop started remaining false s w

/-! ## Runs -/

/-- One run of a session. -/
def run (s : Session) (w : ω) : Option (Outcome × Session × ω) :=
  let (started, w) := x.now w
  (x.loop started s.options.maxIterations true s w).map fun (outcome, s, w) =>
    let (ended, w) := x.now w
    (outcome, s.finish outcome (Instant.elapsed started ended), w)

/-- One run of a session, and its report. -/
def resume (s : Session) (w : ω) : Option (Report × Session × ω) :=
  (x.run s w).map fun (_, s, w) => (s.report, s, w)

/-- A run of a program text. -/
def execute (o : Origin) (text : String) (state : State) (options : Options) (w : ω) :
    Option (Report × ω) :=
  match Session.prepare o.runId text state options with
  | .error e => some (.rejected o.runId o.now e state, w)
  | .ok s => (x.run s w).map fun (_, s, w) => (s.report, w)

/-- A run of a program text from a state and options given as values. -/
def executeJson (o : Origin) (text : String) (state options : Json) (w : ω) :
    Option (Report × ω) :=
  match State.ofJson state with
  | .error e => some (.rejected o.runId o.now (.state e) .empty, w)
  | .ok state => match Options.ofJson options with
    | .error e => some (.rejected o.runId o.now e state, w)
    | .ok options => x.execute o text state options w

end Executor

end Runbook
