import Runbook.Run.Executor

/-!
# Runs on a virtual clock

* `World` : a virtual clock, a cancellation flag, and the memory of further strategies;
* `Executor.standard` : the built-in strategies on such a world.
-/

namespace Runbook

/-- A virtual clock, a cancellation flag, and the memory of further strategies. -/
structure World (σ : Type) where
  clock : VirtualClock
  cancelled : Bool
  memory : σ
deriving Repr, Inhabited

namespace World

variable {σ : Type}

/-- A world with a clock that stands still at a time. -/
def frozen (time : Instant) (memory : σ) : World σ := ⟨⟨time, none⟩, false, memory⟩

/-- The time of the clock. -/
def now (w : World σ) : Instant × World σ := (w.clock.time, w)

/-- The world after a step. -/
def stepFinished? (w : World σ) : Option (World σ) :=
  w.clock.stepFinished?.map fun clock => { w with clock }

end World

namespace Executor

variable {σ : Type}

/-- An executor on a virtual clock; `cancellable` tells whether it heeds the cancellation flag. -/
def onWorld (evaluate : Evaluator (World σ)) (dispatch : Dispatcher (World σ)) (policy : Policy)
    (cancellable : Bool) : Executor (World σ) where
  evaluate
  dispatch
  recover := policy.recovery
  now := World.now
  stepFinished? := World.stepFinished?
  isCancelled w := cancellable && w.cancelled

/-- Every condition holds, actions are those of the built-in vocabulary, and a failed step of an
adaptive run is passed over. -/
def standard : Executor (World σ) := onWorld .permissive .vocabulary .proceed false

end Executor

end Runbook
