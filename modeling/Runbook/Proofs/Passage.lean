import Runbook.Proofs.Path
import Runbook.Run.World

/-!
# What strategies keep

A relation between worlds that no question to a strategy and no look at the clock breaks holds between the start of a turn
and its end. So a run has a result whose clock goes on in all worlds that its turns lead to.

* `Executor.Carries` : such a relation;
* `Carries.checks`, `applies`, `performs`, `decides` : it holds through the questions of a step;
* `Carries.perform`, `Carries.decision`, `Carries.turn` : it holds of a step, of what follows, and of a turn;
* `Carries.run_isSome` : runs on clocks that go on; `onWorld_run_isSome` : those on a clock without a duration per step.
-/

namespace Runbook

/-- The actions of the built-in vocabulary leave the world as it is. -/
theorem Dispatcher.vocabulary_world {ω : Type} (action : String) (s : State) (w : ω) :
    (vocabulary action s w).2.2 = w := by
  unfold vocabulary
  split <;> rfl

namespace Executor

variable {ω : Type}

/-- A relation between the world in which something is asked and the one in which it has been answered: no question, and
no look at the clock, breaks it. -/
structure Carries (x : Executor ω) (R : ω → ω → Prop) : Prop where
  refl : ∀ w, R w w
  trans : ∀ {u v w}, R u v → R v w → R u w
  now : ∀ w, R w (x.now w).2
  evaluate : ∀ c s w, R w (x.evaluate c s w).2
  dispatch : ∀ a s w, R w (x.dispatch a s w).2.2
  recover : ∀ step e n w, R w (x.recover step e n w).2

namespace Carries

section Keeps
variable {x : Executor ω} {R : ω → ω → Prop} {w w' : ω} (hx : x.Carries R)
include hx

theorem checks {state : State} {cs : List String} {es : List (Evaluation ω)} {r : Except StepError (Option String)}
    (h : x.Checks state cs w es r w') : R w w' := by
  induction h with
  | nil => exact hx.refl _
  | error => exact hx.evaluate ..
  | unmet => exact hx.evaluate ..
  | met _ _ ih => exact hx.trans (hx.evaluate ..) ih

theorem applies {as : List String} {s s' : State} {cs : List (Call ω)} {r : Except StepError Unit}
    (h : x.Applies as s w cs r s' w') : R w w' := by
  induction h with
  | nil => exact hx.refl _
  | cancelled => exact hx.refl _
  | error => exact hx.dispatch ..
  | done _ _ _ ih => exact hx.trans (hx.dispatch ..) ih

theorem performs {step : Step} {s s' : State} {es : List (Evaluation ω)} {cs : List (Call ω)} {ending : StepEnd}
    (h : x.Performs step s w es cs ending s' w') : R w w' := by
  cases h with
  | unchecked hc => exact hx.checks hc
  | skipped hc => exact hx.checks hc
  | failed hc ha => exact hx.trans (hx.checks hc) (hx.applies ha)
  | succeeded hc ha => exact hx.trans (hx.checks hc) (hx.applies ha)

theorem decides {mode : Mode} {step : Step} {n : Nat} {ending : StepEnd} {rs : List (Consultation ω)} {d : Decision}
    (h : x.Decides mode step n ending w rs d w') : R w w' := by
  cases h with
  | settled => exact hx.refl _
  | strict => exact hx.refl _
  | adaptive => exact hx.recover ..

theorem perform (step : Step) (s : State) (w : ω) : R w (x.perform step s w).2.2 := by
  obtain ⟨_, _, -, hperforms⟩ := x.perform_observed step s w []
  exact hx.performs hperforms

theorem decision (s : Session) (step : Step) (ending : StepEnd) (w : ω) : R w (x.decision s step ending w).2 := by
  obtain ⟨_, -, hdecides⟩ := x.decision_observed s step ending w []
  exact hx.decides hdecides

theorem turn (step : Step) (s : Session) (w : ω) (es : List (Evaluation ω)) (cs : List (Call ω))
    (rs : List (Consultation ω)) : R w (x.turn step s w es cs rs).2 := by
  have hperformed := hx.trans (hx.now w) (hx.perform step s.state (x.now w).2)
  have hdecided := hx.trans (hx.trans hperformed (hx.now _)) (hx.decision s step (x.perform step s.state (x.now w).2).1 _)
  unfold Executor.turn
  cases s.options.checkpoint with
  | false => exact hdecided
  | true => exact hx.trans hdecided (hx.now _)

end Keeps

section Goes
variable {x : Executor ω} {P : ω → Prop} {started : Instant} {s m : Session} {w v : ω} {turns : List (Turn ω)}

theorem path (hx : x.Carries fun w v => P w → P v) (htick : ∀ w, P w → ∃ v, x.stepFinished? w = some v ∧ P v)
    (h : x.Path started s w turns m v) (hw : P w) : P v := by
  induction h with
  | nil => exact hw
  | cons first _ ih =>
    obtain ⟨v, hv, hnext⟩ := htick _ (hx.turn _ _ _ _ _ _ (hx.now _ hw))
    obtain rfl := Option.some.inj (first.ticked.symm.trans hv)
    exact ih hnext

/-- A run has a result if its clock goes on after each step in worlds that nothing but such worlds follows. -/
theorem run_isSome (hx : x.Carries fun w v => P w → P v) (htick : ∀ w, P w → ∃ v, x.stepFinished? w = some v ∧ P v)
    (s : Session) (hw : P w) : (x.run s w).isSome = true := by
  rcases x.run_ends s w with ⟨-, turns, m, v, step, hdue, hnone⟩ | ⟨o, s', w', hrun⟩
  · have hv : P v := hx.path htick hdue.course (hx.now w hw)
    obtain ⟨u, hu, -⟩ := htick _ (hx.turn step m (x.now v).2 [] [] [] (hx.now v hv))
    rw [left, hu] at hnone
    cases hnone
  · rw [hrun]
    rfl

end Goes

end Carries

section Frozen
variable {σ : Type} {evaluate : Evaluator (World σ)} {dispatch : Dispatcher (World σ)} {policy : Policy}
  {cancellable : Bool} {w : World σ}

/-- On a virtual clock without a duration per step, which no strategy moves, a run has a result. -/
theorem onWorld_run_isSome (he : ∀ c s w, (evaluate c s w).2.clock = w.clock)
    (hd : ∀ a s w, (dispatch a s w).2.2.clock = w.clock) (s : Session) (hw : w.clock.stepDuration = none) :
    ((onWorld evaluate dispatch policy cancellable).run s w).isSome = true := by
  have hx : (onWorld evaluate dispatch policy cancellable).Carries fun w v =>
      w.clock.stepDuration = none → v.clock.stepDuration = none :=
    ⟨fun _ h => h, fun h h' h₀ => h' (h h₀), fun _ h => h, fun c s w h => (congrArg _ (he c s w)).trans h,
      fun a s w h => (congrArg _ (hd a s w)).trans h, fun _ _ _ _ h => h⟩
  refine hx.run_isSome (fun w hw => ⟨w, ?_, hw⟩) s hw
  show World.stepFinished? w = some w
  rw [World.stepFinished?, VirtualClock.stepFinished?, hw]
  rfl

theorem standard_run_isSome (s : Session) (hw : w.clock.stepDuration = none) : (standard.run s w).isSome = true :=
  onWorld_run_isSome (fun _ _ _ => rfl) (fun a s w => congrArg World.clock (Dispatcher.vocabulary_world a s w)) s hw

end Frozen

end Executor

end Runbook
