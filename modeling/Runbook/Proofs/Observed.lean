import Runbook.Run.Executor

/-!
# Observed executors

An executor only meets its strategies through questions: does a condition hold, what does an action do, what follows
a failure. An observed executor puts the same questions and notes them all, in order, beside its world.

* `Evaluation`, `Call`, `Consultation` : a question to the evaluator, the dispatcher, the recovery, with the world it
  was put in; `Executor.answer`, `reply`, `effect`, `ruling` : what the strategy says to it;
* `Executor.observed` : the executor that notes its questions;
* `Executor.Checks`, `Applies`, `Performs`, `Decides` : the questions of the conditions of a step, of its actions, of
  the whole step and of what follows it, as relations that go through the texts one by one;
* `firstUnmet_observed`, `applyActions_observed`, `perform_observed`, `decision_observed` : an observed executor ends
  as the executor it observes, and has noted questions so related.
-/

namespace Runbook

/-- A condition put to the evaluator. -/
structure Evaluation (ω : Type) where
  condition : String
  state : State
  world : ω

/-- An action put to the dispatcher. -/
structure Call (ω : Type) where
  action : String
  state : State
  world : ω

/-- A failed step put to the recovery. -/
structure Consultation (ω : Type) where
  step : Step
  error : StepError
  attempt : Nat
  world : ω

/-- A question to a strategy. -/
inductive Event (ω : Type) where
  | evaluation (e : Evaluation ω)
  | call (c : Call ω)
  | consultation (c : Consultation ω)

variable {ω : Type}

/-- The calls of the dispatcher among the questions. -/
def Event.calls (log : List (Event ω)) : List (Call ω) :=
  log.filterMap fun
    | .call c => some c
    | _ => none

namespace Executor

variable (x : Executor ω)

/-- What the evaluator says to a question. -/
def answer (e : Evaluation ω) : Reply Bool := (x.evaluate e.condition e.state e.world).1

/-- What the dispatcher says to a question. -/
def reply (c : Call ω) : Reply Unit := (x.dispatch c.action c.state c.world).1

/-- The state that a call leaves when it receives a state; what a failed call has written is in it. -/
def effect (c : Call ω) (s : State) : State := (x.dispatch c.action s c.world).2.1

/-- What the recovery says to a question. -/
def ruling (c : Consultation ω) : Decision := (x.recover c.step c.error c.attempt c.world).1

/-- The executor that notes the questions it puts to its strategies, the latest last. -/
def observed : Executor (ω × List (Event ω)) where
  evaluate c s w :=
    ((x.evaluate c s w.1).1, (x.evaluate c s w.1).2, w.2 ++ [.evaluation ⟨c, s, w.1⟩])
  dispatch a s w :=
    ((x.dispatch a s w.1).1, (x.dispatch a s w.1).2.1, (x.dispatch a s w.1).2.2, w.2 ++ [.call ⟨a, s, w.1⟩])
  recover step e n w :=
    ((x.recover step e n w.1).1, (x.recover step e n w.1).2, w.2 ++ [.consultation ⟨step, e, n, w.1⟩])
  now w := ((x.now w.1).1, (x.now w.1).2, w.2)
  stepFinished? w := (x.stepFinished? w.1).map fun v => (v, w.2)
  isCancelled w := x.isCancelled w.1

/-! ## Questions of a step -/

/-- The conditions of a step, put one by one until one does not hold. -/
inductive Checks (state : State) : List String → ω → List (Evaluation ω) → Except StepError (Option String) → ω → Prop
  | nil (w) : Checks state [] w [] (.ok none) w
  | error {c cs w e} (h : (x.evaluate c state w).1.guarded = .error e) :
      Checks state (c :: cs) w [⟨c, state, w⟩] (.error e) (x.evaluate c state w).2
  | unmet {c cs w} (h : (x.evaluate c state w).1.guarded = .ok false) :
      Checks state (c :: cs) w [⟨c, state, w⟩] (.ok (some c)) (x.evaluate c state w).2
  | met {c cs w es r w'} (h : (x.evaluate c state w).1.guarded = .ok true)
      (rest : Checks state cs (x.evaluate c state w).2 es r w') :
      Checks state (c :: cs) w (⟨c, state, w⟩ :: es) r w'

/-- The actions of a step, put one by one until one fails or the run is cancelled. -/
inductive Applies : List String → State → ω → List (Call ω) → Except StepError Unit → State → ω → Prop
  | nil (s w) : Applies [] s w [] (.ok ()) s w
  | cancelled {a as s w} (h : x.isCancelled w = true) : Applies (a :: as) s w [] (.error .cancelled) s w
  | error {a as s w e} (hc : x.isCancelled w = false) (h : (x.dispatch a s w).1.guarded = .error e) :
      Applies (a :: as) s w [⟨a, s, w⟩] (.error e) (x.dispatch a s w).2.1 (x.dispatch a s w).2.2
  | done {a as s w cs r s' w'} (hc : x.isCancelled w = false) (h : (x.dispatch a s w).1.guarded = .ok ())
      (rest : Applies as (x.dispatch a s w).2.1 (x.dispatch a s w).2.2 cs r s' w') :
      Applies (a :: as) s w (⟨a, s, w⟩ :: cs) r s' w'

/-- A whole step: its conditions, and its actions if they all hold. -/
inductive Performs (step : Step) (s : State) (w : ω) :
    List (Evaluation ω) → List (Call ω) → StepEnd → State → ω → Prop
  | unchecked {es e w'} (hc : x.Checks s step.conditions w es (.error e) w') : Performs step s w es [] (.failed e) s w'
  | skipped {es c w'} (hc : x.Checks s step.conditions w es (.ok (some c)) w') :
      Performs step s w es [] (.skipped c) s w'
  | failed {es w' cs e s' w''} (hc : x.Checks s step.conditions w es (.ok none) w')
      (ha : x.Applies step.actions s w' cs (.error e) s' w'') : Performs step s w es cs (.failed e) s' w''
  | succeeded {es w' cs s' w''} (hc : x.Checks s step.conditions w es (.ok none) w')
      (ha : x.Applies step.actions s w' cs (.ok ()) s' w'') : Performs step s w es cs .succeeded s' w''

/-- What follows a step: a strict run halts on a failure, an adaptive one asks the recovery. -/
inductive Decides (mode : Mode) (step : Step) (attempt : Nat) :
    StepEnd → ω → List (Consultation ω) → Decision → ω → Prop
  | settled {ending w} (h : ∀ e, ending ≠ .failed e) : Decides mode step attempt ending w [] .proceed w
  | strict {e w} (h : mode = .strict) : Decides mode step attempt (.failed e) w [] .halt w
  | adaptive {e w} (h : mode = .adaptive) :
      Decides mode step attempt (.failed e) w [⟨step, e, attempt, w⟩] (x.ruling ⟨step, e, attempt, w⟩)
        (x.recover step e attempt w).2

/-! ## The questions that are noted -/

theorem firstUnmet_observed (state : State) (cs : List String) (w : ω) (log : List (Event ω)) :
    ∃ es, x.observed.firstUnmet state cs (w, log) =
        ((x.firstUnmet state cs w).1, (x.firstUnmet state cs w).2, log ++ es.map .evaluation) ∧
      x.Checks state cs w es (x.firstUnmet state cs w).1 (x.firstUnmet state cs w).2 := by
  induction cs generalizing w log with
  | nil => exact ⟨[], by simp [firstUnmet], .nil w⟩
  | cons c cs ih =>
    cases h : (x.evaluate c state w).1.guarded with
    | error e => exact ⟨[⟨c, state, w⟩], by simp [firstUnmet, observed, h], by simpa [firstUnmet, h] using .error h⟩
    | ok holds =>
      cases holds with
      | false => exact ⟨[⟨c, state, w⟩], by simp [firstUnmet, observed, h], by simpa [firstUnmet, h] using .unmet h⟩
      | true =>
        obtain ⟨es, heq, hes⟩ := ih (x.evaluate c state w).2 (log ++ [.evaluation ⟨c, state, w⟩])
        refine ⟨⟨c, state, w⟩ :: es, ?_, ?_⟩
        · rw [firstUnmet, firstUnmet]
          simpa [observed, h] using heq
        · rw [firstUnmet]
          simpa [h] using .met h hes

theorem applyActions_observed (as : List String) (s : State) (w : ω) (log : List (Event ω)) :
    ∃ cs, x.observed.applyActions as s (w, log) =
        ((x.applyActions as s w).1, (x.applyActions as s w).2.1, (x.applyActions as s w).2.2,
          log ++ cs.map .call) ∧
      x.Applies as s w cs (x.applyActions as s w).1 (x.applyActions as s w).2.1 (x.applyActions as s w).2.2 := by
  induction as generalizing s w log with
  | nil => exact ⟨[], by simp [applyActions], .nil s w⟩
  | cons a as ih =>
    cases hc : x.isCancelled w with
    | true => exact ⟨[], by simp [applyActions, observed, hc], by simpa [applyActions, hc] using .cancelled hc⟩
    | false =>
      cases h : (x.dispatch a s w).1.guarded with
      | error e =>
        exact ⟨[⟨a, s, w⟩], by simp [applyActions, observed, hc, h], by simpa [applyActions, hc, h] using .error hc h⟩
      | ok _ =>
        obtain ⟨cs, heq, hcs⟩ :=
          ih (x.dispatch a s w).2.1 (x.dispatch a s w).2.2 (log ++ [.call ⟨a, s, w⟩])
        refine ⟨⟨a, s, w⟩ :: cs, ?_, ?_⟩
        · rw [applyActions, applyActions]
          simpa [observed, hc, h] using heq
        · rw [applyActions]
          simpa [hc, h] using .done hc h hcs

theorem perform_observed (step : Step) (s : State) (w : ω) (log : List (Event ω)) :
    ∃ es cs, x.observed.perform step s (w, log) =
        ((x.perform step s w).1, (x.perform step s w).2.1, (x.perform step s w).2.2,
          log ++ es.map .evaluation ++ cs.map .call) ∧
      x.Performs step s w es cs (x.perform step s w).1 (x.perform step s w).2.1 (x.perform step s w).2.2 := by
  obtain ⟨es, heq, hes⟩ := x.firstUnmet_observed s step.conditions w log
  unfold perform
  rw [heq]
  rcases hr : x.firstUnmet s step.conditions w with ⟨e | c, w'⟩
  · rw [hr] at hes
    exact ⟨es, [], by simp, .unchecked hes⟩
  · rw [hr] at hes
    cases c with
    | some c => exact ⟨es, [], by simp, .skipped hes⟩
    | none =>
      obtain ⟨cs, heq', hcs⟩ := x.applyActions_observed step.actions s w' (log ++ es.map .evaluation)
      simp only [heq']
      rcases ha : x.applyActions step.actions s w' with ⟨e | _, s', w''⟩
      · rw [ha] at hcs
        exact ⟨es, cs, rfl, .failed hes hcs⟩
      · rw [ha] at hcs
        exact ⟨es, cs, rfl, .succeeded hes hcs⟩

theorem decision_observed (s : Session) (step : Step) (ending : StepEnd) (w : ω) (log : List (Event ω)) :
    ∃ rs, x.observed.decision s step ending (w, log) =
        ((x.decision s step ending w).1, (x.decision s step ending w).2, log ++ rs.map .consultation) ∧
      x.Decides s.options.mode step s.attempt ending w rs (x.decision s step ending w).1
        (x.decision s step ending w).2 := by
  cases ending with
  | succeeded => exact ⟨[], by simp [decision], .settled (by simp)⟩
  | skipped c => exact ⟨[], by simp [decision], .settled (by simp)⟩
  | failed e =>
    cases hm : s.options.mode with
    | strict => exact ⟨[], by simp [decision, hm], by simpa [decision, hm] using .strict rfl⟩
    | adaptive =>
      refine ⟨[⟨step, e, s.attempt, w⟩], by simp [decision, observed, hm], ?_⟩
      simpa [decision, hm] using .adaptive rfl

end Executor

end Runbook
