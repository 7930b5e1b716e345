import Runbook.Proofs.Retained

/-!
# The cause of an outcome

A run ends because its time is up, because it may not iterate further, because a decision halted it, or because there is
nothing left to do. What it leaves behind fits one of these causes only, the one that its outcome names.

* `Executor.Decided` : the decision on a turn is the one that the mode and the recovery make;
* `Cause` : what each cause leaves behind; `Cause.eq_told` : no two causes leave the same;
* `Executor.stops_cause` : a path and a stop leave what their cause does; `Ran.cause` : so does a run, and `Ticks.cause` :
  every run on a clock that always moves on;
* `outcome_tells_cause` : the outcome of a run names its cause, and a session without errors has completed.
-/

namespace Runbook

variable {ω : Type}

/-! ## Decisions -/

namespace Executor

variable {x : Executor ω}

/-- The decision on a turn is made in a mode, and the recovery has been asked what it depends on. -/
def Decided (x : Executor ω) (mode : Mode) (t : Turn ω) : Prop :=
  ∃ v v', x.Decides mode t.step t.attempt t.ending v t.consultations t.decision v'

/-- What is not simply gone on from has failed. -/
theorem Decided.failed {mode : Mode} {t : Turn ω} (h : x.Decided mode t) (hd : t.decision ≠ .proceed) :
    ∃ e, t.ending = .failed e := by
  obtain ⟨v, v', h⟩ := h
  generalize t.ending = ending at h ⊢
  generalize t.decision = d at h hd
  generalize t.consultations = cs at h
  cases h with
  | settled _ => exact absurd rfl hd
  | strict _ => exact ⟨_, rfl⟩
  | adaptive _ => exact ⟨_, rfl⟩

theorem Decided.proceed {mode : Mode} {t : Turn ω} (h : x.Decided mode t) (hs : t.record.status ≠ .failed) :
    t.decision = .proceed := by
  by_cases hd : t.decision = .proceed
  · exact hd
  · obtain ⟨e, he⟩ := h.failed hd
    exact absurd (t.record_failed he).1 hs

theorem Decided.failed_of_halt {mode : Mode} {t : Turn ω} (h : x.Decided mode t) (hh : t.decision = .halt) :
    ∃ e, t.ending = .failed e := h.failed (by rw [hh]; decide)

theorem Decided.halt_of_strict {t : Turn ω} (h : x.Decided .strict t) (hs : t.record.status = .failed) :
    t.decision = .halt := by
  obtain ⟨v, v', h⟩ := h
  cases hend : t.ending with
  | succeeded =>
    rw [Turn.record_succeeded hend] at hs
    cases hs
  | skipped c =>
    rw [Turn.record_skipped hend] at hs
    cases hs
  | failed e =>
    rw [hend] at h
    generalize t.decision = d at h ⊢
    generalize t.consultations = cs at h
    cases h with
    | settled hn => exact absurd rfl (hn e)
    | strict _ => rfl
    | adaptive hm => cases hm

end Executor

/-! ## Causes -/

/-- What each cause of an end leaves behind, by the outcome it has: the turns and the errors of the run, and the
session. A spent time budget and a reached iteration limit leave an error of their own kind, after those of steps. -/
inductive Cause (limit : Nat) (turns : List (Turn ω)) (errors : List ErrorRecord) (s : Session) : Outcome → Prop
  | timedOut {es e} (he : errors = es ++ [e]) (hk : e.kind = .timeout) (hs : ∀ d ∈ es, d.kind = .step) :
      Cause limit turns errors s .timedOut
  | exhausted {es e} (hn : turns.length = limit) (he : errors = es ++ [e]) (hk : e.kind = .iterationLimit)
      (hs : ∀ d ∈ es, d.kind = .step) : Cause limit turns errors s .exhaustedIterations
  | halted {ts t es e} (ht : turns = ts ++ [t]) (hh : t.decision = .halt) (hr : t.record.status = .failed)
      (he : errors = es ++ [e]) (hk : e.kind = .step) (hm : t.record.error = some e.message)
      (hn : e.step = some t.record.step) (ha : e.timestamp = t.record.endedAt) (hs : ∀ d ∈ es, d.kind = .step)
      (hc : s.cursor = none) : Cause limit turns errors s .haltedOnError
  | completed (hs : ∀ d ∈ errors, d.kind = .step) (hd : ∀ t ∈ turns, t.decision ≠ .halt)
      (he : s.state.isCompleted = true ∨ s.cursor = none ∨ ∃ name, s.cursor = some name ∧ s.program.step? name = none) :
      Cause limit turns errors s .completed

namespace Cause

variable {limit : Nat} {turns : List (Turn ω)} {errors : List ErrorRecord} {s : Session} {c d : Outcome}

/-- The outcome that the last error and the last decision tell. -/
def told (turns : List (Turn ω)) (errors : List ErrorRecord) : Outcome :=
  match errors.getLast?.map (·.kind) with
  | some ErrorKind.timeout => .timedOut
  | some ErrorKind.iterationLimit => .exhaustedIterations
  | _ => if turns.getLast?.map (·.decision) = some .halt then .haltedOnError else .completed

/-- A cause leaves what tells it. -/
theorem eq_told (h : Cause limit turns errors s c) : c = told turns errors := by
  unfold told
  cases h with
  | timedOut he hk hs => rw [he, List.getLast?_concat, Option.map_some, hk]
  | exhausted hn he hk hs => rw [he, List.getLast?_concat, Option.map_some, hk]
  | halted ht hh hr he hk hm hn ha hs hc =>
    rw [he, List.getLast?_concat, Option.map_some, hk, ht, List.getLast?_concat, Option.map_some, hh]
    exact (if_pos rfl).symm
  | completed hs hd he =>
    have hlast : turns.getLast?.map (·.decision) ≠ some .halt := by
      intro hh
      obtain ⟨t, ht, hdec⟩ := Option.map_eq_some_iff.mp hh
      exact hd t (List.mem_of_getLast? ht) hdec
    rw [if_neg hlast]
    cases hl : errors.getLast? with
    | none => rfl
    | some e =>
      have hstep := hs e (List.mem_of_getLast? hl)
      rw [Option.map_some, hstep]

/-- Whatever the cause, at most one error of the run is not that of a step. -/
theorem countP_le_one (h : Cause limit turns errors s c) : errors.countP (·.kind ≠ .step) ≤ 1 := by
  have hsteps : ∀ {es : List ErrorRecord}, (∀ d ∈ es, d.kind = .step) → es.countP (·.kind ≠ .step) = 0 := fun hs => by
    rw [List.countP_eq_zero]
    intro d hd
    simp [hs d hd]
  have hlast : ∀ {es : List ErrorRecord} (e : ErrorRecord), (∀ d ∈ es, d.kind = .step) →
      (es ++ [e]).countP (·.kind ≠ .step) ≤ 1 := fun e hs => by
    rw [List.countP_append, hsteps hs, Nat.zero_add]
    exact List.countP_le_length
  cases h with
  | timedOut he hk hs => exact he ▸ hlast _ hs
  | exhausted hn he hk hs => exact he ▸ hlast _ hs
  | halted ht hh hr he hk hm hn ha hs hc => exact he ▸ hlast _ hs
  | completed hs hd he =>
    rw [hsteps hs]
    exact Nat.zero_le 1

end Cause

/-! ## Runs -/

namespace Executor

variable {x : Executor ω} {s s' m : Session} {w w' v : ω} {turns : List (Turn ω)}

/-- The turns of a path were decided on in the mode of its session. -/
theorem Path.decidedOn {started : Instant} (h : x.Path started s w turns m v) :
    ∀ t ∈ turns, x.Decided s.options.mode t := by
  intro t ht
  obtain ⟨r, u, u', htakes, -, hoptions⟩ := h.taken t ht
  rw [← hoptions]
  exact htakes.decided

/-- A path from a session with work to do and a stop after it leave what the cause of the outcome does. -/
theorem stops_cause {started : Instant} {limit : Nat} {resting o : Outcome} {es : List ErrorRecord} {d : Duration}
    (ho : s.isEnded = false) (hp : x.Path started s w turns m v) (hs : Stops limit resting turns m o es) :
    Cause limit turns (turns.flatMap Turn.errors ++ es) (Session.finish { m with errors := m.errors ++ es } o d) o := by
  have hsteps : ∀ e ∈ turns.flatMap Turn.errors, e.kind = .step := errors_step
  cases hs with
  | resting he ht =>
    subst ht
    cases hp
    rw [he] at ho
    cases ho
  | completed he ht hd =>
    refine .completed (by rw [List.append_nil]; exact hsteps) hd ?_
    rcases Bool.or_eq_true_iff.mp he with hcompleted | hcursor
    · exact Or.inl hcompleted
    · exact Or.inr (Or.inl (Option.isNone_iff_eq_none.mp hcursor))
  | dangling he hn hd =>
    refine .completed (by rw [List.append_nil]; exact hsteps) hd (Or.inr ?_)
    cases hcursor : m.cursor with
    | none => exact Or.inl rfl
    | some name =>
      unfold Session.currentStep? at hn
      rw [hcursor, Option.bind_some] at hn
      exact Or.inr ⟨name, rfl, hn⟩
  | timedOut now spent he hd => exact .timedOut rfl rfl hsteps
  | exhausted now he hn hd => exact .exhausted hn rfl rfl hsteps
  | @halted ts t ht hh hd =>
    -- Only a failed step halts a run, so its error is the last one.
    obtain ⟨e, hfailed⟩ := (hp.decidedOn t (by simp [ht])).failed_of_halt hh
    obtain ⟨hstatus, herror, hended⟩ := Turn.record_failed hfailed
    have herrors : turns.flatMap Turn.errors ++ [] = ts.flatMap Turn.errors ++ [t.stepError e] := by
      rw [List.append_nil, ht, List.flatMap_append, List.flatMap_singleton, Turn.errors, hfailed]
    refine .halted ht hh hstatus herrors rfl herror ?_ hended.symm errors_step (hp.cursor_halt ht hh)
    rw [t.record_step]
    rfl

/-- A run that leaves no error began without one; it completed, or took no turn and kept the outcome it found. -/
theorem run_clean {o : Outcome} (h : x.run s w = some (o, s', w')) (he : s'.errors = []) :
    s.errors = [] ∧ s'.outcome = some o ∧ (o = .completed ∨ o = s.outcome.getD .completed) := by
  obtain ⟨turns, m, v, es, d, hpath, -, hstop, rfl, -⟩ := x.run_course h
  obtain ⟨hm, hes⟩ := List.append_eq_nil_iff.mp (show m.errors ++ es = [] from he)
  rw [hpath.errors] at hm
  obtain ⟨hs, hturns⟩ := List.append_eq_nil_iff.mp hm
  refine ⟨hs, rfl, ?_⟩
  cases hstop with
  | resting he ht => exact Or.inr rfl
  | completed he ht hd => exact Or.inl rfl
  | dangling he hn hd => exact Or.inl rfl
  | timedOut now spent he hd => cases hes
  | exhausted now he hn hd => cases hes
  | @halted ts t ht hh hd =>
    have hmem : t ∈ turns := by simp [ht]
    obtain ⟨e, hfailed⟩ := (hpath.decidedOn t hmem).failed_of_halt hh
    have hnone := List.flatMap_eq_nil_iff.mp hturns t hmem
    rw [Turn.errors, hfailed] at hnone
    cases hnone

/-- In every history a session without errors has not run, or has completed. -/
theorem clean_outcome {initial : State} {n : Nat} {rs : List Rewind} (h : Session.History initial s n rs)
    (he : s.errors = []) : s.outcome = none ∨ s.outcome = some .completed := by
  have run : ∀ {s s' : Session} {ω : Type} {x : Executor ω} {w o w'},
      (s.errors = [] → s.outcome = none ∨ s.outcome = some .completed) → x.run s w = some (o, s', w') →
      s'.errors = [] → s'.outcome = none ∨ s'.outcome = some .completed := by
    intro s s' ω x w o w' ih hrun he
    obtain ⟨hs, ho, rfl | rfl⟩ := run_clean hrun he
    · exact Or.inr ho
    · refine Or.inr (ho.trans ?_)
      rcases ih hs with hnone | hcompleted
      · rw [hnone, Option.getD_none]
      · rw [hcompleted, Option.getD_some]
  induction h with
  | start runId program options => exact Or.inl rfl
  | run before hr ih => exact run ih hr he
  | resume before hr ih =>
    obtain ⟨o, hrun⟩ := Session.run_of_resume hr
    exact run ih hrun he
  | restore before hk hs ih =>
    obtain ⟨c, -, rfl⟩ := Session.restore_eq hs
    exact ih he

/-- What a run with work to do leaves fits the one cause that its outcome names. -/
theorem Ran.cause {o : Outcome} (h : x.Ran s w turns o s' w') (ho : s.isEnded = false) :
    ∃ errors : List ErrorRecord, s'.errors = s.errors ++ errors ∧ errors.countP (·.kind ≠ .step) ≤ 1 ∧
      (∀ t ∈ turns, x.Decided s.options.mode t ∧
        (s.options.mode = .strict → t.record.status = .failed → t.decision = .halt)) ∧
      ∀ c, Cause s.options.maxIterations turns errors s' c ↔ c = o := by
  obtain ⟨m, v, es, d, hpath, hstop, rfl⟩ := h.stops
  have hcause := stops_cause (d := d) ho hpath hstop
  have hdecided := hpath.decidedOn
  refine ⟨turns.flatMap Turn.errors ++ es, ?_, hcause.countP_le_one, fun t ht => ⟨hdecided t ht, fun hm hf => ?_⟩,
    fun c => ⟨fun hc => ?_, fun hc => ?_⟩⟩
  · show m.errors ++ es = _
    rw [hpath.errors, List.append_assoc]
  · have hstrict := hdecided t ht
    rw [hm] at hstrict
    exact hstrict.halt_of_strict hf
  · rw [hc.eq_told, hcause.eq_told]
  · rw [hc]
    exact hcause

/-- On a clock that always moves on, a run with work to do ends for the one cause that its outcome names. -/
theorem Ticks.cause (hx : x.Ticks) (ho : s.isEnded = false) (w : ω) : ∃ turns errors o s' w',
    x.Ran s w turns o s' w' ∧ s'.errors = s.errors ++ errors ∧
      ∀ c, Cause s.options.maxIterations turns errors s' c ↔ c = o := by
  obtain ⟨turns, o, s', w', hran⟩ := hx.ran s w
  obtain ⟨errors, herrors, -, -, hcause⟩ := hran.cause ho
  exact ⟨turns, errors, o, s', w', hran, herrors, hcause⟩

/-- **An outcome tells its cause.** A run with work to do ends, unless its clock breaks off. It takes no more turns than
its options allow, decided on in their mode, and notes at most one error that is not that of a step. Of all causes, what
it leaves fits exactly the one that its outcome names. In every history a report of success tells of no outcome, or of
completion. -/
theorem outcome_tells_cause :
    (∀ (ω : Type) (x : Executor ω) (s : Session) (w : ω), s.isEnded = false →
      x.BreaksOff s w ∨ ∃ o s' w', ∃ (turns : List (Turn ω)) (errors : List ErrorRecord),
        x.run s w = some (o, s', w') ∧ s'.outcome = some o ∧
        x.observed.run s (w, []) = some (o, s', w', turns.flatMap Turn.events) ∧
        s'.trace = s.trace ++ turns.map Turn.record ∧ s'.errors = s.errors ++ errors ∧
        turns.length ≤ s.options.maxIterations ∧ errors.countP (·.kind ≠ .step) ≤ 1 ∧
        (∀ t ∈ turns, x.Decided s.options.mode t ∧
          (s.options.mode = .strict → t.record.status = .failed → t.decision = .halt)) ∧
        ∀ c, Cause s.options.maxIterations turns errors s' c ↔ c = o) ∧
    ∀ (initial : State) (s : Session) (n : Nat) (rs : List Rewind), Session.History initial s n rs →
      s.report.success = true → s.report.outcome = none ∨ s.report.outcome = some .completed := by
  refine ⟨fun ω x s w ho => ?_, fun initial s n rs h hsuccess => ?_⟩
  · rcases x.breaksOff_or_ran s w with hbreak | ⟨turns, o, s', w', hran⟩
    · exact Or.inl hbreak
    obtain ⟨errors, herrors, hcount, hdecided, hcause⟩ := hran.cause ho
    exact Or.inr ⟨o, s', w', turns, errors, hran.ends, hran.outcome_eq, hran.noted, hran.trace, herrors, hran.within,
      hcount, hdecided, hcause⟩
  · exact clean_outcome h (List.isEmpty_iff.mp hsuccess)

theorem outcome_tells_cause_ran : Session.freshSession.isEnded = false ∧ Session.ranSession.report.success = true ∧
    (∃ o s' w', ∃ (turns : List (Turn (World Unit))) (errors : List ErrorRecord),
      standard.run Session.freshSession (.frozen 0 ()) = some (o, s', w') ∧
      ∀ c, Cause Session.freshSession.options.maxIterations turns errors s' c ↔ c = o) ∧
    (Session.ranSession.report.outcome = none ∨ Session.ranSession.report.outcome = some .completed) := by
  have hopen : Session.freshSession.isEnded = false := by decide +kernel
  have hsuccess : Session.ranSession.report.success = true := by decide +kernel
  refine ⟨hopen, hsuccess, ?_, outcome_tells_cause.2 _ _ _ _ Session.ranSession_history hsuccess⟩
  rcases outcome_tells_cause.1 _ standard Session.freshSession (.frozen 0 ()) hopen with hbreak | hrun
  · have hruns := Session.freshSession_runs
    rw [hbreak.1] at hruns
    cases hruns
  · obtain ⟨o, s', w', turns, errors, hrun, -, -, -, -, -, -, -, hcause⟩ := hrun
    exact ⟨o, s', w', turns, errors, hrun, hcause⟩

end Executor

end Runbook
