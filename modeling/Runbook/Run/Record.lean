import Runbook.Json.Text
import Runbook.Run.Status
import Runbook.Step.Error
import Runbook.Time.Stamp

/-!
# Records of a run

* `Running` : a step that has begun, with the state it began in;
* `Record` : a finished step, made by `Running.succeed`, `Running.fail` or `Running.skip`;
* `ErrorRecord` : an error that a run met.
-/

namespace Runbook

/-- What is known of a finished step. -/
structure Record where
  step : String
  status : Status
  /-- The number of the attempt, counted from 1 on in 32 bits. -/
  attempt : Nat
  startedAt : Instant
  endedAt : Instant
  before : State
  after : State
  error : Option String
  reason : Option String
deriving Repr, Inhabited

/-- A step that has begun and not finished. -/
structure Running where
  step : String
  attempt : Nat
  startedAt : Instant
  before : State
deriving Repr, Inhabited

namespace Running

/-- The status of a step that has begun. -/
def status (_ : Running) : Status := .running

/-- The record of a step, once it has finished. -/
def finish (r : Running) (status : Status) (endedAt : Instant) (after : State)
    (error reason : Option String) : Record :=
  ⟨r.step, status, r.attempt, r.startedAt, endedAt, r.before, after, error, reason⟩

/-- The record of a step whose actions all succeeded. -/
def succeed (r : Running) (endedAt : Instant) (after : State) : Record :=
  r.finish .success endedAt after none none

/-- The record of a step that failed. -/
def fail (r : Running) (endedAt : Instant) (after : State) (e : StepError) : Record :=
  r.finish .failed endedAt after (some e.message) none

/-- The record of a step that was skipped. -/
def skip (r : Running) (endedAt : Instant) (after : State) (reason : String) : Record :=
  r.finish .skipped endedAt after none (some reason)

end Running

/-- A field that is there only if it has a value. -/
def Fields.optional (name : String) : Option String → Fields
  | some s => [(name, .str s)]
  | none => []

namespace Record

/-- Whether the step changed the state. -/
def changed (r : Record) : Bool := !r.before.same r.after

/-- A record as an object. -/
def toJson (r : Record) : Json :=
  .obj ([("step", .str r.step), ("status", .str r.status.word), ("attempt", .num (.int r.attempt)),
    ("started_at", .str r.startedAt.text), ("ended_at", .str r.endedAt.text),
    ("state_before", r.before.toJson), ("state_after", r.after.toJson)]
    ++ Fields.optional "error" r.error ++ Fields.optional "reason" r.reason)

end Record

/-- An error that a run met. -/
structure ErrorRecord where
  kind : ErrorKind
  message : String
  step : Option String
  timestamp : Instant
deriving DecidableEq, Repr, Inhabited

/-- An error record as an object. -/
def ErrorRecord.toJson (e : ErrorRecord) : Json :=
  .obj ([("kind", .str e.kind.word), ("message", .str e.message)]
    ++ Fields.optional "step" e.step ++ [("timestamp", .str e.timestamp.text)])

end Runbook
