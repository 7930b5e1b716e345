import Runbook.State.Basic

/-!
# Failures of a step

* `StepError` : why a condition or an action of a step failed, with its wording;
* `Reply` : how a call of a plugged-in strategy ends; `Reply.guarded` : a panic becomes a step error.
-/

namespace Runbook

/-- Why a condition or an action of a step failed. -/
inductive StepError where
  | action (action message : String)
  | unknownAction (action : String)
  | invalidAction (reason : String)
  | condition (condition message : String)
  | state (error : StateError)
  | cancelled
  | panicked (message : String)
deriving DecidableEq, Repr

/-- The wording of a step error. -/
def StepError.message : StepError → String
  | action a m => "Action '" ++ a ++ "' failed: " ++ m
  | unknownAction a => "Unknown action: " ++ a
  | invalidAction r => "Invalid action: " ++ r
  | condition c m => "Condition '" ++ c ++ "' failed: " ++ m
  | state e => "State error: " ++ e.message
  | cancelled => "Execution cancelled"
  | panicked m => "Panicked: " ++ m

/-- How a call of a plugged-in strategy ends. -/
inductive Reply (α : Type) where
  | done (value : α)
  | failed (error : StepError)
  | panicked (message : String)

/-- The end of a call as the engine takes it: a panic is one of a step's errors. -/
def Reply.guarded {α : Type} : Reply α → Except StepError α
  | done a => .ok a
  | failed e => .error e
  | panicked m => .error (.panicked m)

theorem Reply.guarded_eq_ok {α : Type} {r : Reply α} {a : α} : r.guarded = .ok a ↔ r = .done a := by
  cases r <;> simp [guarded]

/-- The reply of a call that cannot panic. -/
def Reply.ofExcept {α : Type} : Except StepError α → Reply α
  | .ok a => done a
  | .error e => failed e

end Runbook
