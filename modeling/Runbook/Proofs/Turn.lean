import Runbook.Proofs.Observed

/-!
# Turns

A turn is one iteration of a run: a step, how it ended, what followed, and the questions it put.

* `Turn` : what happens in one iteration; `Turn.record`, `Turn.errors`, `Turn.checkpoint?` : what it leaves behind;
* `Turn.apply` : the session after a turn, with one lemma per field;
* `Executor.turn`, `iterate_turn` : the turn that an executor makes of a step; an iteration is that turn and a tick of
  the clock;
* `Executor.Takes` : an executor takes a turn in a session; `Executor.Asks` : the questions of a turn, each in the world
  in which it was put;
* `iterate_asked`, `iterate_observed` : an iteration that ends is such a turn, and an observed executor notes its
  questions.
-/

namespace Runbook

variable {ω : Type}

/-- One iteration of a run. -/
structure Turn (ω : Type) where
  step : Step
  attempt : Nat
  startedAt : Instant
  endedAt : Instant
  before : State
  after : State
  ending : StepEnd
  decision : Decision
  /-- The time of the checkpoint, if one was captured. -/
  capturedAt : Option Instant
  evaluations : List (Evaluation ω)
  calls : List (Call ω)
  consultations : List (Consultation ω)

namespace Session

variable {s : Session}

theorem isEnded_of_cursor_none (h : s.cursor = none) : s.isEnded = true := by
  rw [isEnded, h, Option.isNone_none, Bool.or_true]

theorem isEnded_of_cursor_some {name : String} (h : s.cursor = some name) : s.isEnded = s.state.isCompleted := by
  rw [isEnded, h, Option.isNone_some, Bool.or_false]

end Session

namespace Turn

variable (t : Turn ω) (s : Session)

/-- The step as it began. -/
def running : Running := ⟨t.step.name, t.attempt, t.startedAt, t.before⟩

/-- The record of a turn. -/
def record : Record :=
  match t.ending with
  | .succeeded => t.running.succeed t.endedAt t.after
  | .skipped c => t.running.skip t.endedAt t.after ("Condition not met: " ++ c)
  | .failed e => t.running.fail t.endedAt t.after e

/-- The error of a turn whose step failed with an error. -/
def stepError (e : StepError) : ErrorRecord := ⟨.step, e.message, some t.step.name, t.endedAt⟩

/-- The errors of a turn: one if its step failed. -/
def errors : List ErrorRecord :=
  match t.ending with
  | .failed e => [t.stepError e]
  | _ => []

/-- The questions of a turn, in order. -/
def events : List (Event ω) :=
  t.evaluations.map .evaluation ++ t.calls.map .call ++ t.consultations.map .consultation

/-- The cursor of a session once the step of a turn has been decided on: gone if the turn halts the run. -/
def cursor? : Option String := if t.decision = .halt then none else s.cursor

/-- The checkpoint that a turn captures in a session. -/
def checkpoint? : Option Checkpoint :=
  t.capturedAt.map fun now => .capture now (t.cursor? s) t.after (s.trace.length + 1)

/-- The session once the step of a turn has been noted and decided on. -/
def decided : Session :=
  let noted := Executor.note { s with state := t.after } t.running t.endedAt t.ending
  if t.decision = .halt then noted.halt else noted

/-- The session after a turn. -/
def apply : Session :=
  Executor.move (match t.capturedAt with
    | some now => (t.decided s).capture now
    | none => t.decided s) t.decision

theorem record_step : t.record.step = t.step.name := by
  unfold record
  split <;> rfl

theorem record_attempt : t.record.attempt = t.attempt := by
  unfold record
  split <;> rfl

theorem record_before : t.record.before = t.before := by
  unfold record
  split <;> rfl

theorem record_after : t.record.after = t.after := by
  unfold record
  split <;> rfl

theorem record_succeeded {t : Turn ω} (h : t.ending = .succeeded) : t.record.status = .success := by
  unfold record
  rw [h]
  rfl

theorem record_skipped {t : Turn ω} {c : String} (h : t.ending = .skipped c) : t.record.status = .skipped := by
  unfold record
  rw [h]
  rfl

theorem record_failed {t : Turn ω} {e : StepError} (h : t.ending = .failed e) :
    t.record.status = .failed ∧ t.record.error = some e.message ∧ t.record.endedAt = t.endedAt := by
  unfold record
  rw [h]
  exact ⟨rfl, rfl, rfl⟩

theorem kind_of_mem_errors {e : ErrorRecord} (he : e ∈ t.errors) : e.kind = .step := by
  unfold errors at he
  split at he
  · rw [List.mem_singleton.mp he]
    rfl
  · cases he

theorem note_eq : Executor.note { s with state := t.after } t.running t.endedAt t.ending =
    { s with state := t.after, trace := s.trace ++ [t.record], errors := s.errors ++ t.errors } := by
  cases h : t.ending <;>
    simp [Executor.note, record, errors, stepError, h, Session.pushRecord, Session.pushError, running]

/-- A turn leaves its record, its errors and its checkpoint, and moves the cursor; nothing else changes. -/
theorem apply_eq : t.apply s =
    { s with
      state := t.after
      trace := s.trace ++ [t.record]
      errors := s.errors ++ t.errors
      checkpoints := (t.checkpoint? s).toList.foldl .push s.checkpoints
      cursor := (t.apply s).cursor
      attempt := (t.apply s).attempt } := by
  unfold apply decided checkpoint? cursor?
  rw [note_eq]
  cases t.capturedAt <;> cases t.decision <;>
    simp [Executor.move, Session.advance, Session.retry, Session.halt, Session.capture]

@[simp] theorem apply_state : (t.apply s).state = t.after := by rw [apply_eq]

@[simp] theorem apply_trace : (t.apply s).trace = s.trace ++ [t.record] := by rw [apply_eq]

@[simp] theorem apply_errors : (t.apply s).errors = s.errors ++ t.errors := by rw [apply_eq]

@[simp] theorem apply_checkpoints :
    (t.apply s).checkpoints = (t.checkpoint? s).toList.foldl .push s.checkpoints := by rw [apply_eq]

@[simp] theorem apply_program : (t.apply s).program = s.program := by rw [apply_eq]

@[simp] theorem apply_options : (t.apply s).options = s.options := by rw [apply_eq]

/-- Where the cursor goes: on to the next step, nowhere for a retry, away if the turn halts the run. -/
theorem apply_cursor : (t.apply s).cursor = match t.decision with
    | .proceed => s.cursor.bind s.program.nextName?
    | .retry => s.cursor
    | .halt => none := by
  unfold apply decided
  rw [note_eq]
  cases t.capturedAt <;> cases t.decision <;> rfl

/-- A retry is one more attempt, the next step begins with the first. -/
theorem apply_attempt : (t.apply s).attempt = match t.decision with
    | .proceed => 1
    | .retry => Session.nextAttempt s.attempt
    | .halt => s.attempt := by
  unfold apply decided
  rw [note_eq]
  cases t.capturedAt <;> cases t.decision <;> rfl

theorem apply_cursor_halt (h : t.decision = .halt) : (t.apply s).cursor = none := by rw [apply_cursor, h]

theorem decided_options : (t.decided s).options = s.options := by
  unfold decided
  rw [note_eq]
  split <;> rfl

end Turn

namespace Executor

variable (x : Executor ω)

/-- What an executor makes of a step in a session, and the world before the clock is told. The questions that it puts on
the way are given. -/
def turn (step : Step) (s : Session) (w : ω) (es : List (Evaluation ω)) (cs : List (Call ω))
    (rs : List (Consultation ω)) : Turn ω × ω :=
  let begun := x.now w
  let performed := x.perform step s.state begun.2
  let ended := x.now performed.2.2
  let decided := x.decision s step performed.1 ended.2
  (⟨step, s.attempt, begun.1, ended.1, s.state, performed.2.1, performed.1, decided.1,
      if s.options.checkpoint then some (x.now decided.2).1 else none, es, cs, rs⟩,
    if s.options.checkpoint then (x.now decided.2).2 else decided.2)

/-- An executor whose run began at `started` takes a turn in a session: there is work left and time for it, the cursor
names the step, and the step is performed and decided on as it stands. -/
structure Takes (started : Instant) (s : Session) (w : ω) (t : Turn ω) (w' : ω) : Prop where
  isOpen : s.isEnded = false
  inTime : Instant.elapsed started (x.now w).1 < s.options.timeout
  named : s.currentStep? = some t.step
  made : (x.turn t.step s (x.now w).2 t.evaluations t.calls t.consultations).1 = t
  iterated : x.iterate t.step s (x.now w).2 = some (t.decision, t.apply s, w')
  performed : ∃ v v', x.Performs t.step t.before v t.evaluations t.calls t.ending t.after v'
  decided : ∃ v v', x.Decides s.options.mode t.step t.attempt t.ending v t.consultations t.decision v'

theorem observed_now (w : ω) (log : List (Event ω)) :
    x.observed.now (w, log) = ((x.now w).1, (x.now w).2, log) := rfl

theorem observed_stepFinished (w : ω) (log : List (Event ω)) :
    x.observed.stepFinished? (w, log) = (x.stepFinished? w).map fun v => (v, log) := rfl

theorem checkpoint_eq (s : Session) (w : ω) : x.checkpoint s w =
    if s.options.checkpoint then (s.capture (x.now w).1, (x.now w).2) else (s, w) := rfl

theorem checkpoint_observed (s : Session) (w : ω) (log : List (Event ω)) :
    x.observed.checkpoint s (w, log) = ((x.checkpoint s w).1, (x.checkpoint s w).2, log) := by
  rw [checkpoint_eq, checkpoint_eq]
  split <;> rfl

theorem checkpoint_decided (t : Turn ω) (s : Session) (w : ω)
    (ht : t.capturedAt = if s.options.checkpoint then some (x.now w).1 else none) :
    x.checkpoint (t.decided s) w = ((match t.capturedAt with
      | some now => (t.decided s).capture now
      | none => t.decided s), if s.options.checkpoint then (x.now w).2 else w) := by
  rw [checkpoint_eq, t.decided_options, ht]
  split <;> rfl

/-- An iteration is a turn and a tick of the clock. -/
theorem iterate_turn (step : Step) (s : Session) (w : ω) (es : List (Evaluation ω)) (cs : List (Call ω))
    (rs : List (Consultation ω)) : x.iterate step s w = (x.stepFinished? (x.turn step s w es cs rs).2).map fun v =>
      ((x.turn step s w es cs rs).1.decision, (x.turn step s w es cs rs).1.apply s, v) := by
  obtain ⟨t, ht⟩ : ∃ t, (x.turn step s w es cs rs).1 = t := ⟨_, rfl⟩
  obtain ⟨u, hu⟩ : ∃ u, (x.decision s step t.ending
      (x.now (x.perform step s.state (x.now w).2).2.2).2).2 = u := ⟨_, rfl⟩
  have hchecked : x.checkpoint (t.decided s) u = ((match t.capturedAt with
      | some now => (t.decided s).capture now
      | none => t.decided s), if s.options.checkpoint then (x.now u).2 else u) := by
    refine x.checkpoint_decided t s u ?_
    subst hu ht
    rfl
  have hiterate : x.iterate step s w = (x.stepFinished? (x.checkpoint (t.decided s) u).2).map fun v =>
      (t.decision, move (x.checkpoint (t.decided s) u).1 t.decision, v) := by
    subst hu ht
    rfl
  rw [hiterate, hchecked]
  subst hu ht
  rfl

/-- The questions of a turn, from the world in which its iteration begins to the one in which it ends: those of the step,
those of what follows, then a tick of the clock. -/
def Asks (s : Session) (w : ω) (t : Turn ω) (w' : ω) : Prop :=
  ∃ v u, x.Performs t.step t.before (x.now (x.now w).2).2 t.evaluations t.calls t.ending t.after v ∧
    x.Decides s.options.mode t.step t.attempt t.ending (x.now v).2 t.consultations t.decision u ∧
    x.stepFinished? (if s.options.checkpoint then (x.now u).2 else u) = some w'

/-- An iteration that ends is a turn, and an observed executor notes the questions of that turn as they were put. -/
theorem iterate_asked {started : Instant} {s : Session} {w : ω} {step : Step} {d : Decision} {s' : Session} {w' : ω}
    (log : List (Event ω)) (ho : s.isEnded = false)
    (ht : Instant.elapsed started (x.now w).1 < s.options.timeout) (hs : s.currentStep? = some step)
    (h : x.iterate step s (x.now w).2 = some (d, s', w')) :
    ∃ t, x.Takes started s w t w' ∧ x.Asks s w t w' ∧ t.decision = d ∧ t.apply s = s' ∧
      x.observed.iterate step s ((x.now w).2, log) = some (d, s', w', log ++ t.events) := by
  obtain ⟨v, hv⟩ : ∃ v, (x.now w).2 = v := ⟨_, rfl⟩
  rw [hv] at h ⊢
  obtain ⟨es, cs, hp, hperf⟩ := x.perform_observed step s.state (x.now v).2 log
  obtain ⟨rs, hd, hdec⟩ := x.decision_observed s step (x.perform step s.state (x.now v).2).1
    (x.now (x.perform step s.state (x.now v).2).2.2).2 (log ++ es.map .evaluation ++ cs.map .call)
  -- Only the step and the decision put questions; the clock and the checkpoint leave the log as it is.
  have hobs : x.observed.iterate step s (v, log) = (x.iterate step s v).map fun r =>
      (r.1, r.2.1, r.2.2, log ++ (x.turn step s v es cs rs).1.events) := by
    unfold iterate executeStep
    simp only [observed_now, observed_stepFinished, hp, hd, checkpoint_observed, Option.map_map]
    simp only [Turn.events, ← List.append_assoc]
    rfl
  obtain ⟨u, htick, hturn⟩ := Option.map_eq_some_iff.mp ((x.iterate_turn step s v es cs rs).symm.trans h)
  simp only [Prod.mk.injEq] at hturn
  obtain ⟨hdecision, happly, rfl⟩ := hturn
  refine ⟨_, ⟨ho, ht, hs, by rw [hv]; rfl, ?_, ⟨_, _, hperf⟩, ⟨_, _, hdec⟩⟩, ⟨_, _, ?_, hdec, htick⟩, hdecision, happly,
    ?_⟩
  · rw [hv, hdecision, happly]
    exact h
  · rw [hv]
    exact hperf
  · rw [hobs, h]
    rfl

/-- An iteration that ends is a turn, and an observed executor notes the questions of that turn. -/
theorem iterate_observed {started : Instant} {s : Session} {w : ω} {step : Step} {d : Decision} {s' : Session} {w' : ω}
    (log : List (Event ω)) (ho : s.isEnded = false)
    (ht : Instant.elapsed started (x.now w).1 < s.options.timeout) (hs : s.currentStep? = some step)
    (h : x.iterate step s (x.now w).2 = some (d, s', w')) :
    ∃ t, x.Takes started s w t w' ∧ t.decision = d ∧ t.apply s = s' ∧
      x.observed.iterate step s ((x.now w).2, log) = some (d, s', w', log ++ t.events) := by
  obtain ⟨t, htakes, -, hrest⟩ := x.iterate_asked log ho ht hs h
  exact ⟨t, htakes, hrest⟩

namespace Takes

variable {x} {started : Instant} {s : Session} {w w' : ω} {t : Turn ω}

theorem attempt (h : x.Takes started s w t w') : t.attempt = s.attempt := congrArg Turn.attempt h.made.symm

theorem before (h : x.Takes started s w t w') : t.before = s.state := congrArg Turn.before h.made.symm

theorem captured (h : x.Takes started s w t w') : t.capturedAt.isSome = s.options.checkpoint := by
  have hcaptured := congrArg Turn.capturedAt h.made.symm
  cases hc : s.options.checkpoint <;> simp [hcaptured, turn, hc]

/-- The world after a turn is the one that the step left, after a tick of its clock. -/
theorem ticked (h : x.Takes started s w t w') :
    x.stepFinished? (x.turn t.step s (x.now w).2 t.evaluations t.calls t.consultations).2 = some w' := by
  obtain ⟨v, hv, heq⟩ := Option.map_eq_some_iff.mp ((x.iterate_turn ..).symm.trans h.iterated)
  simp only [Prod.mk.injEq] at heq
  rw [hv, heq.2.2]

end Takes

end Executor

end Runbook
