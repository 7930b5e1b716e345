import Runbook.Proofs.Likeness
import Runbook.Run.World

/-!
# Journeys

A session may be run again and again, and a run be interrupted by a spent time budget or by a reached ceiling. What such
runs do is a journey: their turns, with pauses between them.

* `Executor.IgnoresClock` : strategies that depend on what they remember only, which the clock does not change;
* `Session.Paused`, `Session.AtRest` : a session after a pause, and one with nothing left to do;
* `Executor.Reruns` : runs one after the other, of which all but the last are interrupted;
* `Executor.Journey` : the turns of several runs, with a pause after each, and what they leave;
* `Turn.verdict`, `Reruns.journey` : interrupted runs are a journey to a session at rest, whose turns tell the outcome.
-/

namespace Runbook

variable {ω μ : Type}

/-! ## What does not count -/

/-- Worlds are alike if they hold the same memory, states if they are the same, and all times are. -/
def Likeness.ofMemory (memory : ω → μ) : Likeness ω :=
  ⟨fun _ => True, fun w v => memory w = memory v, Eq, fun _ _ => True⟩

/-- A run that was interrupted: its time budget was spent, or its ceiling reached. -/
def Outcome.isInterruption : Outcome → Bool
  | timedOut => true
  | exhaustedIterations => true
  | _ => false

/-- Strategies that do not read the clock: they answer, decide and remember by what they remember, with the cancellation
flag, and the clock does not change that. -/
structure Executor.IgnoresClock (x : Executor ω) (memory : ω → μ) : Prop where
  evaluate : ∀ c s {w v}, memory w = memory v →
    (x.evaluate c s w).1 = (x.evaluate c s v).1 ∧ memory (x.evaluate c s w).2 = memory (x.evaluate c s v).2
  dispatch : ∀ a s {w v}, memory w = memory v →
    (x.dispatch a s w).1 = (x.dispatch a s v).1 ∧ (x.dispatch a s w).2.1 = (x.dispatch a s v).2.1 ∧
      memory (x.dispatch a s w).2.2 = memory (x.dispatch a s v).2.2
  recover : ∀ step e n {w v}, memory w = memory v →
    (x.recover step e n w).1 = (x.recover step e n v).1 ∧
      memory (x.recover step e n w).2 = memory (x.recover step e n v).2
  isCancelled : ∀ {w v}, memory w = memory v → x.isCancelled w = x.isCancelled v
  now : ∀ w, memory (x.now w).2 = memory w
  tick : ∀ {w v}, x.stepFinished? w = some v → memory v = memory w

theorem Executor.IgnoresClock.respects {x : Executor ω} {memory : ω → μ} (hx : x.IgnoresClock memory) :
    x.Respects (.ofMemory memory) where
  evaluate _ _ hs hw := by cases hs; exact hx.evaluate _ _ hw
  dispatch _ _ hs hw := by cases hs; exact hx.dispatch _ _ hw
  recover _ hw := hx.recover _ _ _ hw
  isCancelled hw := hx.isCancelled hw
  now hw := ⟨trivial, ((hx.now _).trans hw).trans (hx.now _).symm⟩
  tick hw h h' := ((hx.tick h).trans hw).trans (hx.tick h').symm
  completed hs := by cases hs; rfl

/-- What strategies on a virtual clock remember, and the cancellation flag. -/
def World.recalled {σ : Type} (w : World σ) : σ × Bool := (w.memory, w.cancelled)

/-- On a virtual clock strategies ignore the clock if evaluator and dispatcher do. -/
theorem Executor.onWorld_ignoresClock {σ : Type} {evaluate : Evaluator (World σ)} {dispatch : Dispatcher (World σ)}
    {policy : Policy} {cancellable : Bool}
    (he : ∀ c s {w v : World σ}, w.recalled = v.recalled → (evaluate c s w).1 = (evaluate c s v).1 ∧
      (evaluate c s w).2.recalled = (evaluate c s v).2.recalled)
    (hd : ∀ a s {w v : World σ}, w.recalled = v.recalled → (dispatch a s w).1 = (dispatch a s v).1 ∧
      (dispatch a s w).2.1 = (dispatch a s v).2.1 ∧ (dispatch a s w).2.2.recalled = (dispatch a s v).2.2.recalled) :
    (Executor.onWorld evaluate dispatch policy cancellable).IgnoresClock World.recalled where
  evaluate := he
  dispatch := hd
  recover _ _ _ _ _ h := ⟨rfl, h⟩
  isCancelled h := congrArg (fun r : σ × Bool => cancellable && r.2) h
  now _ := rfl
  tick h := by
    obtain ⟨c, -, rfl⟩ := Option.map_eq_some_iff.mp h
    rfl

namespace Session

/-- The errors of steps. -/
def stepErrors (s : Session) : List ErrorRecord := s.errors.filter (·.kind == .step)

/-- Nothing is left to do: the session has ended, or its cursor names no step. -/
def AtRest (s : Session) : Prop := s.isEnded = true ∨ s.currentStep? = none

/-- A session as another is after a pause: errors that are not of steps have been noted, an outcome and the time. -/
def Paused (s m : Session) : Prop :=
  ∃ es o d, (∀ e ∈ es, e.kind ≠ .step) ∧ m = { s with errors := s.errors ++ es, outcome := o, active := d }

theorem Paused.refl (s : Session) : s.Paused s := ⟨[], s.outcome, s.active, by simp, by simp⟩

theorem Paused.finish (s : Session) (o : Outcome) (d : Duration) : s.Paused (s.finish o d) :=
  ⟨[], some o, s.active + d, by simp, by simp [Session.finish]⟩

theorem Paused.error (s : Session) (e : ErrorRecord) (o : Outcome) (d : Duration) (he : e.kind ≠ .step) :
    s.Paused ((s.pushError e).finish o d) :=
  ⟨[e], some o, s.active + d, by simpa using he, rfl⟩

theorem Paused.trans {s m r : Session} (h : s.Paused m) (h' : m.Paused r) : s.Paused r := by
  obtain ⟨es, _, _, hes, rfl⟩ := h
  obtain ⟨es', o, d, hes', rfl⟩ := h'
  refine ⟨es ++ es', o, d, fun e he => ?_, by rw [List.append_assoc]⟩
  rcases List.mem_append.mp he with he | he
  · exact hes e he
  · exact hes' e he

theorem Paused.isEnded {s m : Session} (h : s.Paused m) : m.isEnded = s.isEnded := by
  obtain ⟨-, -, -, -, rfl⟩ := h
  rfl

theorem Paused.atRest {s m : Session} (h : s.Paused m) (hs : s.AtRest) : m.AtRest := by
  obtain ⟨-, -, -, -, rfl⟩ := h
  exact hs

theorem Paused.trace {s m : Session} (h : s.Paused m) : m.trace = s.trace := by
  obtain ⟨-, -, -, -, rfl⟩ := h
  rfl

theorem Paused.checkpoints {s m : Session} (h : s.Paused m) : m.checkpoints = s.checkpoints := by
  obtain ⟨-, -, -, -, rfl⟩ := h
  rfl

theorem Paused.stepErrors {s m : Session} (h : s.Paused m) : m.stepErrors = s.stepErrors := by
  obtain ⟨es, -, -, hes, rfl⟩ := h
  have hnone : es.filter (·.kind == .step) = [] := List.filter_eq_nil_iff.mpr fun e he => by simpa using hes e he
  unfold Session.stepErrors
  rw [List.filter_append, hnone, List.append_nil]

theorem Paused.alike {R : Likeness ω} {s m f : Session} (h : s.Paused m) (ha : s.Alike R f) : m.Alike R f := by
  obtain ⟨-, -, -, -, rfl⟩ := h
  exact ⟨ha.programs, ha.state, ha.cursor, ha.attempt, ha.mode, ha.checkpoint⟩

end Session

namespace Turn

/-- The outcome of turns that are not interrupted: a decision has halted them, or they have completed. -/
def verdict : List (Turn ω) → Outcome
  | [] => .completed
  | t :: ts => if t.decision = .halt then .haltedOnError else verdict ts

theorem verdict_append {ts us : List (Turn ω)} (h : ∀ t ∈ ts, t.decision ≠ .halt) :
    verdict (ts ++ us) = verdict us := by
  induction ts with
  | nil => rfl
  | cons t ts ih =>
    obtain ⟨ht, hts⟩ := List.forall_mem_cons.mp h
    rw [List.cons_append, verdict, if_neg ht, ih hts]

theorem verdict_completed {ts : List (Turn ω)} (h : ∀ t ∈ ts, t.decision ≠ .halt) : verdict ts = .completed := by
  rw [← List.append_nil ts, verdict_append h, verdict]

theorem verdict_halted {ts : List (Turn ω)} {t : Turn ω} (h : ∀ u ∈ ts, u.decision ≠ .halt) (ht : t.decision = .halt) :
    verdict (ts ++ [t]) = .haltedOnError := by
  rw [verdict_append h, verdict, if_pos ht]

end Turn

namespace Executor

/-! ## Runs with interruptions -/

/-- Runs of one executor on one session, each interrupted but for the last, which has an outcome and leaves a session.
Between two runs the world may change, but for what the strategies remember. -/
inductive Reruns (x : Executor ω) (memory : ω → μ) : Session → ω → Outcome → Session → Prop
  | last {s w o s' w'} (hr : x.run s w = some (o, s', w')) (ho : o.isInterruption = false) : Reruns x memory s w o s'
  | again {s w o m v w' o' s'} (hr : x.run s w = some (o, m, w')) (ho : o.isInterruption = true)
      (hv : memory v = memory w') (rest : Reruns x memory m v o' s') : Reruns x memory s w o' s'

/-- The turns that lead from a session to another, in one run or in several, with a pause after each run. -/
inductive Journey (x : Executor ω) (memory : ω → μ) : Session → ω → List (Turn ω) → Session → ω → Prop
  | nil (s w) : Journey x memory s w [] s w
  | run {started s w ts m v r u us s' w'} (course : x.Path started s w ts m v) (pause : m.Paused r)
      (hu : memory u = memory v) (rest : Journey x memory r u us s' w') : Journey x memory s w (ts ++ us) s' w'

variable {x : Executor ω} {memory : ω → μ} {s s' m : Session} {w w' v : ω} {o : Outcome} {ts : List (Turn ω)}

theorem Path.journey {started : Instant} {r : Session} (hp : x.Path started s w ts m v) (hm : m.Paused r) :
    x.Journey memory s w ts r v := by
  have h : x.Journey memory s w (ts ++ []) r v := .run hp hm rfl (.nil r v)
  rwa [List.append_nil] at h

theorem Path.stepErrors {started : Instant} (h : x.Path started s w ts m v) :
    m.stepErrors = s.stepErrors ++ ts.flatMap Turn.errors := by
  have hkept : (ts.flatMap Turn.errors).filter (·.kind == .step) = ts.flatMap Turn.errors :=
    List.filter_eq_self.mpr fun e he => beq_iff_eq.mpr (errors_step e he)
  rw [Session.stepErrors, h.errors, List.filter_append, hkept, Session.stepErrors]

/-- A run pauses after its turns, with work left if it is interrupted, and at rest otherwise. -/
theorem run_paused (hx : x.IgnoresClock memory) (hr : x.run s w = some (o, s', w'))
    (hs : s.isEnded = true → s.outcome = none) :
    ∃ turns m v, x.Path (x.now w).1 s (x.now w).2 turns m v ∧ m.Paused s' ∧ memory w' = memory v ∧
      s'.outcome = some o ∧
      (o.isInterruption = true → m.isEnded = false ∧ ∀ t ∈ turns, t.decision ≠ .halt) ∧
      (o.isInterruption = false → m.AtRest ∧ o = Turn.verdict turns) := by
  obtain ⟨turns, m, v, s₁, v₁, hp, -, hcloses, rfl, rfl, -⟩ := x.run_closes hr
  cases hcloses with
  | resting he ht =>
    subst ht
    cases hp
    rw [hs he]
    exact ⟨_, _, _, .nil _ _, .finish _ _ _, hx.now _, rfl, nofun, fun _ => ⟨Or.inl he, rfl⟩⟩
  | completed he ht hd =>
    exact ⟨_, _, _, hp, .finish _ _ _, hx.now _, rfl, nofun, fun _ => ⟨Or.inl he, (Turn.verdict_completed hd).symm⟩⟩
  | dangling he hl hn hnone hd =>
    exact ⟨_, _, _, hp, .finish _ _ _, (hx.now _).trans (hx.now _), rfl, nofun,
      fun _ => ⟨Or.inr hnone, (Turn.verdict_completed hd).symm⟩⟩
  | timedOut he hl hd =>
    exact ⟨_, _, _, hp, .error _ _ _ _ nofun, (hx.now _).trans (hx.now _), rfl, fun _ => ⟨he, hd⟩, nofun⟩
  | exhausted he hl hn hd =>
    exact ⟨_, _, _, hp, .error _ _ _ _ nofun, (hx.now _).trans (hx.now _), rfl, fun _ => ⟨he, hd⟩, nofun⟩
  | @halted ts t ht hh hd =>
    have hended := Session.isEnded_of_cursor_none (hp.cursor_halt ht hh)
    refine ⟨_, _, _, hp, .finish _ _ _, hx.now _, rfl, nofun, fun _ => ⟨Or.inl hended, ?_⟩⟩
    rw [ht, Turn.verdict_halted hd hh]

/-- Interrupted runs are a journey to a session at rest. -/
theorem Reruns.journey (hx : x.IgnoresClock memory) (h : x.Reruns memory s w o s')
    (hs : s.isEnded = true → s.outcome = none) :
    ∃ ts v, x.Journey memory s (x.now w).2 ts s' v ∧ s'.AtRest ∧ s'.outcome = some o ∧ o = Turn.verdict ts := by
  induction h with
  | last hr ho =>
    obtain ⟨turns, m, v, hp, hpaused, -, houtcome, -, hlast⟩ := run_paused hx hr hs
    obtain ⟨hrest, hverdict⟩ := hlast ho
    exact ⟨turns, v, hp.journey hpaused, hpaused.atRest hrest, houtcome, hverdict⟩
  | again hr ho hv rest ih =>
    obtain ⟨turns, m, v, hp, hpaused, hmemory, -, hinterrupted, -⟩ := run_paused hx hr hs
    obtain ⟨hopen, hd⟩ := hinterrupted ho
    -- An interrupted run leaves work to do, so the outcome it leaves behind never stands in for that of the next run.
    obtain ⟨us, u, hjourney, hrest, houtcome, hverdict⟩ := ih fun hended => by
      rw [hpaused.isEnded, hopen] at hended
      cases hended
    refine ⟨turns ++ us, u, .run hp hpaused ((hx.now _).trans (hv.trans hmemory)) hjourney, hrest, houtcome, ?_⟩
    rw [hverdict, Turn.verdict_append hd]

/-! ## What a journey leaves -/

namespace Journey

theorem trace (h : x.Journey memory s w ts m v) : m.trace = s.trace ++ ts.map Turn.record := by
  induction h with
  | nil => simp
  | run course pause _ _ ih => rw [ih, pause.trace, course.trace, List.append_assoc, List.map_append]

theorem stepErrors (h : x.Journey memory s w ts m v) : m.stepErrors = s.stepErrors ++ ts.flatMap Turn.errors := by
  induction h with
  | nil => simp
  | run course pause _ _ ih => rw [ih, pause.stepErrors, course.stepErrors, List.append_assoc, List.flatMap_append]

theorem checkpoints (h : x.Journey memory s w ts m v) :
    m.checkpoints = (Turn.captured s.trace.length ts).foldl .push s.checkpoints := by
  induction h with
  | nil => rfl
  | run course pause _ _ ih =>
    rw [ih, pause.checkpoints, pause.trace, course.checkpoints, course.trace, Turn.captured_append, List.foldl_append,
      List.length_append, List.length_map]

theorem of_ended (h : x.Journey memory s w ts m v) (he : s.isEnded = true) : ts = [] ∧ s.Paused m := by
  induction h with
  | nil => exact ⟨rfl, .refl _⟩
  | run course pause _ _ ih =>
    obtain ⟨rfl, rfl⟩ := course.of_ended he
    obtain ⟨rfl, hpaused⟩ := ih (pause.isEnded.trans he)
    exact ⟨rfl, pause.trans hpaused⟩

end Journey

end Executor

end Runbook
