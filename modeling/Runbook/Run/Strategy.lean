import Runbook.Action.Instruction
import Runbook.Action.Registry
import Runbook.Program.Basic
import Runbook.Step.Condition

/-!
# Strategies

What a run leaves to strategies: whether a condition holds, what an action does, and what follows a
failed step. Strategies may keep memory of any type `ω`, which each call passes on.

* `Evaluator`, `Dispatcher`, `Recovery` : the three kinds of strategies;
* `Evaluator.permissive`, `Evaluator.ofState` : every condition holds, conditions as they are written;
* `Dispatcher.vocabulary`, `Registry.dispatcher` : the built-in vocabulary, handlers by phrase;
* `Policy` : the built-in recovery policies.
-/

namespace Runbook

/-- What follows a failed step. -/
inductive Decision where
  | proceed
  | retry
  | halt
deriving DecidableEq, Repr, Inhabited

/-- Tells whether a condition holds in a state. -/
abbrev Evaluator (ω : Type) := String → State → ω → Reply Bool × ω

/-- Applies an action text to a state; what a failed call has written stays written. -/
abbrev Dispatcher (ω : Type) := String → State → ω → Reply Unit × State × ω

/-- Decides what follows a failed step, by its error and the number of the failed attempt. -/
abbrev Recovery (ω : Type) := Step → StepError → Nat → ω → Decision × ω

variable {ω : Type}

/-! ## Conditions -/

/-- Every condition holds. -/
def Evaluator.permissive : Evaluator ω := fun _ _ w => (.done true, w)

/-- Conditions hold as they are written. -/
def Evaluator.ofState : Evaluator ω := fun c s w => (.ofExcept (Condition.evaluate c s), w)

/-! ## Actions -/

/-- The built-in vocabulary. -/
def Dispatcher.vocabulary : Dispatcher ω := fun action s w =>
  match Instruction.apply action s with
  | .ok s => (.done (), s, w)
  | .error e => (.failed e, s, w)

/-- The handlers of a registry; an action that none of them takes goes to the fallback, and without
one it is unknown. -/
def Registry.dispatcher (r : Registry (Dispatcher ω)) (fallback : Option (Dispatcher ω)) :
    Dispatcher ω := fun action s w =>
  let action := Text.trim action.toList
  match r.route action with
  | some (handler, arguments) => handler arguments s w
  | none => match fallback with
    | some dispatcher => dispatcher (String.ofList action) s w
    | none => (.failed (.unknownAction (String.ofList action)), s, w)

/-! ## Recovery -/

/-- A built-in recovery policy: go on, stop, or run a failed step again up to a number of attempts
in total. -/
inductive Policy where
  | proceed
  | halt
  | retry (maxAttempts : Nat)
deriving DecidableEq, Repr, Inhabited

namespace Policy

/-- What follows an error of the attempt of a number. Cancellation is never retried. -/
def decision (p : Policy) (error : StepError) (attempt : Nat) : Decision :=
  match p with
  | proceed => .proceed
  | halt => .halt
  | retry maxAttempts =>
    if error = .cancelled then .halt else if attempt < maxAttempts then .retry else .proceed

/-- A policy as a strategy. -/
def recovery (p : Policy) : Recovery ω := fun _ error attempt w => (p.decision error attempt, w)

end Policy

end Runbook
