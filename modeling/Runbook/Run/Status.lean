/-!
# Words of a run's history

* `Status` : how far a step has come;
* `ErrorKind` : where an error was met;
* `Outcome` : how a run ended.

Each has its words for data (`all`, `word`) and a name for people (`name`).
-/

namespace Runbook

/-- How far a step has come. -/
inductive Status where
  | pending
  | running
  | success
  | failed
  | skipped
deriving DecidableEq, Repr, Inhabited

namespace Status

/-- The word for a status. -/
def word : Status → String
  | pending => "pending"
  | running => "running"
  | success => "success"
  | failed => "failed"
  | skipped => "skipped"

/-- The name of a status. -/
def name : Status → String
  | pending => "Pending"
  | running => "Running"
  | success => "Success"
  | failed => "Failed"
  | skipped => "Skipped"

/-- The statuses under their words. -/
def all : List (String × Status) :=
  [pending, running, success, failed, skipped].map fun s => (s.word, s)

/-- Whether a step has finished. -/
def isTerminal : Status → Bool
  | success => true
  | failed => true
  | skipped => true
  | _ => false

end Status

/-- Where an error was met: before the run started, in a step, at the end of the time budget or of
the iteration ceiling. -/
inductive ErrorKind where
  | system
  | step
  | timeout
  | iterationLimit
deriving DecidableEq, Repr, Inhabited

namespace ErrorKind

/-- The word for a kind of error. -/
def word : ErrorKind → String
  | system => "SYSTEM_ERROR"
  | step => "STEP_ERROR"
  | timeout => "TIMEOUT_ERROR"
  | iterationLimit => "ITERATION_LIMIT_ERROR"

/-- The name of a kind of error. -/
def name : ErrorKind → String
  | system => "SystemError"
  | step => "StepError"
  | timeout => "TimeoutError"
  | iterationLimit => "IterationLimitError"

/-- The kinds under their words. -/
def all : List (String × ErrorKind) :=
  [system, step, timeout, iterationLimit].map fun k => (k.word, k)

end ErrorKind

/-- How a run ended. -/
inductive Outcome where
  | completed
  | haltedOnError
  | timedOut
  | exhaustedIterations
deriving DecidableEq, Repr, Inhabited

namespace Outcome

/-- The word for an outcome. -/
def word : Outcome → String
  | completed => "completed"
  | haltedOnError => "halted_on_error"
  | timedOut => "timed_out"
  | exhaustedIterations => "exhausted_iterations"

/-- The name of an outcome. -/
def name : Outcome → String
  | completed => "Completed"
  | haltedOnError => "HaltedOnError"
  | timedOut => "TimedOut"
  | exhaustedIterations => "ExhaustedIterations"

/-- The outcomes under their words. -/
def all : List (String × Outcome) :=
  [completed, haltedOnError, timedOut, exhaustedIterations].map fun o => (o.word, o)

end Outcome

end Runbook
