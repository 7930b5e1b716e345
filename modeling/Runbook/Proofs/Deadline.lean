import Runbook.Proofs.Instants
import Runbook.Proofs.Restored

/-!
# Deadlines

The time budget of a run counts from the start of that run, and is looked at before each step. On a virtual clock no
time passes between this look and the start of the step, whatever actions and steps do to the clock.

* `Path.in_time` : every step of a run starts within the budget;
* `Ran.late`, `Ran.at_rest`, `Ran.opens` : the error of a run whose time is up, a run of a session without work, and the
  first step of one with work;
* `ran_without_time` : a run without any time takes no step;
* `no_step_past_deadline` : all of this for runs on a virtual clock; `timedOut_within_budget` : a session without work
  that a restore has brought back ends as timed out, within its budget.
-/

namespace Runbook

variable {ω : Type}

theorem Turn.record_startedAt (t : Turn ω) : t.record.startedAt = t.startedAt := by
  unfold record
  split <;> rfl

namespace Executor

/-! ## Runs and their budget -/

section Budget
variable {x : Executor ω} {s s' m : Session} {w w' v : ω} {turns : List (Turn ω)} {o : Outcome}

/-- A run of a session with work to do that ends because its time is up notes this last, when the budget has been used
up. -/
theorem Ran.late (h : x.Ran s w turns .timedOut s' w') (ho : s.isEnded = false) :
    ∃ e, s'.errors = s.errors ++ turns.flatMap Turn.errors ++ [e] ∧ e.kind = .timeout ∧
      s.options.timeout ≤ Instant.elapsed (x.now w).1 e.timestamp := by
  obtain ⟨m, v, s₁, v₁, hasked, hcloses, rfl, -⟩ := h.course
  have hpath := hasked.path
  generalize s.outcome.getD .completed = resting at hcloses
  cases hcloses with
  | resting he hnil =>
    subst hnil
    cases hpath
    rw [ho] at he
    cases he
  | timedOut _ hl _ =>
    rw [hpath.options] at hl
    rw [← hpath.errors]
    exact ⟨timeoutError m (x.now v).1 (Instant.elapsed (x.now w).1 (x.now v).1), rfl, rfl, hl⟩

theorem Ran.at_rest (h : x.Ran s w turns o s' w') (he : s.isEnded = true) :
    turns = [] ∧ o = s.outcome.getD .completed ∧ s'.errors = s.errors := by
  obtain ⟨m, v, es, d, hpath, -, -⟩ := h.stops
  have hrun := h.ends
  rw [run_eq, x.loop_ended he, Option.map_some, Option.some.injEq, Prod.mk.injEq, Prod.mk.injEq] at hrun
  obtain ⟨rfl, rfl, -⟩ := hrun
  exact ⟨(hpath.of_ended he).1, rfl, rfl⟩

theorem Path.of_no_time {started : Instant} (h : x.Path started s w turns m v) (ht : s.options.timeout = 0) :
    turns = [] := by
  cases h with
  | nil => rfl
  | cons first rest =>
    have hlt := first.inTime
    rw [ht] at hlt
    exact absurd hlt (Nat.not_lt_zero _)

/-- A run without any time takes no step, and ends: as timed out, if there is work to do. -/
theorem ran_without_time (x : Executor ω) (w : ω) (ht : s.options.timeout = 0) :
    ∃ o s' w', x.Ran s w [] o s' w' ∧ (s.isEnded = false → o = .timedOut) := by
  have hloop : ∃ o s₁ v₁, x.loop (x.now w).1 s.options.maxIterations true s (x.now w).2 = some (o, s₁, v₁) ∧
      (s.isEnded = false → o = .timedOut) := by
    by_cases he : s.isEnded = true
    · exact ⟨_, _, _, x.loop_ended he, fun ho => by rw [he] at ho; cases ho⟩
    · rw [Bool.not_eq_true] at he
      exact ⟨_, _, _, x.loop_late he (by rw [ht]; exact Nat.zero_le _), fun _ => rfl⟩
  obtain ⟨o, s₁, v₁, hloop, ho⟩ := hloop
  have hrun := x.run_eq s w
  rw [hloop, Option.map_some] at hrun
  obtain ⟨turns, hran⟩ := x.run_ran hrun
  obtain ⟨m, v, es, d, hpath, -, -⟩ := hran.stops
  obtain rfl := hpath.of_no_time ht
  exact ⟨_, _, _, hran, ho⟩

end Budget

/-! ## Runs on a virtual clock -/

section World
variable {σ : Type} {x : Executor (World σ)} {s s' m : Session} {w w' v : World σ} {turns : List (Turn (World σ))}
  {t : Turn (World σ)} {o : Outcome}

/-- No time passes between the look at the clock and the start of the step. -/
theorem Takes.startedAt_eq {started : Instant} (h : x.Takes started s w t v) (hx : x.now = World.now) :
    t.record.startedAt = w.clock.time := by
  have hstarted : t.startedAt = (x.now (x.now w).2).1 := congrArg Turn.startedAt h.made.symm
  rw [t.record_startedAt, hstarted, hx]
  rfl

theorem Path.in_time {started : Instant} (h : x.Path started s w turns m v) (hx : x.now = World.now) :
    ∀ t ∈ turns, Instant.elapsed started t.record.startedAt < s.options.timeout := by
  intro t ht
  obtain ⟨r, u, u', htakes, -, hoptions⟩ := h.taken t ht
  have hlt := htakes.inTime
  rw [hx] at hlt
  rw [htakes.startedAt_eq hx, ← hoptions]
  exact hlt

theorem Ran.opens (h : x.Ran s w turns o s' w') (hx : x.now = World.now) {step : Step} (ho : s.isEnded = false)
    (hs : s.currentStep? = some step) (ht : 0 < s.options.timeout) (hn : 0 < s.options.maxIterations) :
    ∃ t ts, turns = t :: ts ∧ t.step = step ∧ t.record.startedAt = w.clock.time := by
  obtain ⟨m, v, s₁, v₁, hasked, hcloses, -, -⟩ := h.course
  have hpath := hasked.path
  rw [hx] at hpath hcloses
  cases hpath with
  | nil =>
    generalize s.outcome.getD .completed = resting at hcloses
    cases hcloses with
    | resting he _ => rw [ho] at he; cases he
    | completed he _ _ => rw [ho] at he; cases he
    | dangling _ _ _ hnone _ => rw [hs] at hnone; cases hnone
    | timedOut _ hl _ =>
      rw [hx, show (World.now (World.now w).2).1 = (World.now w).1 from rfl, Instant.elapsed_self] at hl
      exact absurd hl (Nat.not_le_of_lt ht)
    | exhausted _ _ hlimit _ => exact absurd hlimit (Nat.ne_of_lt hn)
    | halted hnil _ _ => simp at hnil
  | cons first rest =>
    have hstep := Option.some.inj (first.named.symm.trans hs)
    exact ⟨_, _, rfl, hstep, first.startedAt_eq hx⟩

/-- **No step past the deadline.** A run on a virtual clock, of any session and whatever actions and steps do to the
clock, counts its time from its own start. Every step that it takes starts before its time is up, also where it breaks
off in the end; without any time it takes none, and ends. It breaks off, or ends: a session without work is left as it
is, and the outcome of its latest run still stands; one with work and time for it is given its first step at once; and
where one with work ends as timed out, the error that tells so is the last, at a time when the budget has been used
up. -/
theorem no_step_past_deadline (hx : x.now = World.now) (s : Session) (w : World σ) :
    let spent := Instant.elapsed w.clock.time
    (∀ turns m v, x.Path w.clock.time s w turns m v → ∀ t ∈ turns, spent t.record.startedAt < s.options.timeout) ∧
    (s.options.timeout = 0 → ∃ o s' w', x.Ran s w [] o s' w' ∧ (s.isEnded = false → o = .timedOut)) ∧
    (x.BreaksOff s w ∨ ∃ turns o s' w', x.Ran s w turns o s' w' ∧ x.resume s w = some (s'.report, s', w') ∧
      s'.trace = s.trace ++ turns.map Turn.record ∧
      (∀ r ∈ turns.map Turn.record, spent r.startedAt < s.options.timeout) ∧
      (s.isEnded = true → turns = [] ∧ o = s.outcome.getD .completed ∧ s'.errors = s.errors) ∧
      (∀ step, s.isEnded = false → s.currentStep? = some step → 0 < s.options.timeout → 0 < s.options.maxIterations →
        ∃ t ts, turns = t :: ts ∧ t.step = step ∧ t.record.startedAt = w.clock.time) ∧
      (s.isEnded = false → o = .timedOut → ∃ e, s'.errors = s.errors ++ turns.flatMap Turn.errors ++ [e] ∧
        e.kind = .timeout ∧ s.options.timeout ≤ spent e.timestamp)) := by
  intro spent
  refine ⟨fun turns m v hpath => hpath.in_time hx, ran_without_time x w, ?_⟩
  rcases x.breaksOff_or_ran s w with hbreak | ⟨turns, o, s', w', hran⟩
  · exact Or.inl hbreak
  have hresumed : x.resume s w = some (s'.report, s', w') := by
    rw [resume, hran.ends, Option.map_some]
  have hstarted : (x.now w).1 = w.clock.time := by rw [hx]; rfl
  refine Or.inr ⟨turns, o, s', w', hran, hresumed, hran.trace, ?_, hran.at_rest, fun _ => hran.opens hx, ?_⟩
  · intro r hr
    obtain ⟨t, ht, rfl⟩ := List.mem_map.mp hr
    obtain ⟨m, v, es, d, hpath, -, -⟩ := hran.stops
    rw [hstarted] at hpath
    exact hpath.in_time hx t ht
  · intro ho hlate
    subst hlate
    have hlast := hran.late ho
    rw [hstarted] at hlast
    exact hlast

end World

end Executor

/-! ## A budget that is used up, and one that is not -/

namespace Session

/-- A world whose clock moves on by twenty seconds after each step. -/
def slowWorld : World Unit := ⟨⟨0, some (Duration.ofMillis 20000)⟩, false, ()⟩

/-- Of the three steps, the third would start past the deadline. -/
theorem no_step_past_deadline_slow : (Executor.standard : Executor (World Unit)).now = World.now ∧ ∃ turns s' w',
    Executor.standard.Ran freshSession slowWorld turns .timedOut s' w' ∧ turns.length = 2 ∧
      (∀ t ∈ turns, Instant.elapsed 0 t.record.startedAt < Duration.ofMillis 30000) ∧
      ∃ e ∈ s'.errors, Duration.ofMillis 30000 ≤ Instant.elapsed 0 e.timestamp := by
  refine ⟨rfl, ?_⟩
  have hseen : (Executor.standard.run freshSession slowWorld).map (fun r => (r.1, r.2.1.trace.length)) =
      some (.timedOut, 2) := by decide +kernel
  rcases (Executor.no_step_past_deadline (x := Executor.standard) rfl freshSession slowWorld).2.2 with
    ⟨hnone, -⟩ | ⟨turns, o, s', w', hran, -, htrace, htime, -, -, hlate⟩
  · rw [hnone] at hseen
    cases hseen
  rw [hran.ends, Option.map_some] at hseen
  obtain ⟨rfl, hlength⟩ := Prod.mk.inj (Option.some.inj hseen)
  obtain ⟨e, herrors, -, hspent⟩ := hlate (by decide +kernel) rfl
  rw [htrace, List.length_append, List.length_map] at hlength
  have hfew : 0 + turns.length = 2 := hlength
  refine ⟨turns, s', w', hran, by omega, fun t ht => htime _ (List.mem_map_of_mem ht), e, ?_, hspent⟩
  rw [herrors]
  exact List.mem_append_right _ List.mem_cons_self

/-- A world whose clock moves on by a whole budget after each step. -/
def lateWorld : World Unit := ⟨⟨0, some (Duration.ofMillis 30000)⟩, false, ()⟩

theorem returnedSession_late : (Executor.standard.run returnedSession lateWorld).isSome = true := by decide +kernel

/-- The session that had completed its state and went back to its first step, after a run whose time was up. -/
def lateSession : Session := ((Executor.standard.run returnedSession lateWorld).get returnedSession_late).2.1

theorem lateSession_restores : (lateSession.restore? 1).isSome = true := by decide +kernel

/-- The same session back in its completed state. -/
def expiredSession : Session := (lateSession.restore? 1).get lateSession_restores

theorem expiredSession_history : History .empty expiredSession 3 [⟨1, 3⟩, ⟨0, 2⟩] := by
  have hcount : 2 + captures returnedSession lateSession = 3 := by decide +kernel
  have hlate : History .empty lateSession 3 [⟨0, 2⟩] :=
    returnedSession_history.run_counted (run_get returnedSession_late) hcount
  exact hlate.restore (by decide +kernel) (Option.some_get lateSession_restores).symm

/-- After a run whose time was up, a restore brings a completed state back. The next run starts with a whole budget,
takes no step and notes no error, and ends as timed out. -/
theorem timedOut_within_budget : History .empty expiredSession 3 [⟨1, 3⟩, ⟨0, 2⟩] ∧ ∃ s' w',
    Executor.standard.run expiredSession (.frozen (.ofMillis 30000) ()) = some (.timedOut, s', w') ∧
      s'.trace.length = expiredSession.trace.length ∧ s'.errors ≠ [] ∧ ∀ e ∈ s'.errors, e.kind = .timeout ∧
        Instant.elapsed (.ofMillis 30000) e.timestamp < s'.options.timeout := by
  have hseen : (Executor.standard.run expiredSession (.frozen (.ofMillis 30000) ())).map (fun r =>
      (r.1, r.2.1.trace.length, r.2.1.errors.isEmpty, r.2.1.errors.all fun e => e.kind = .timeout &&
        Instant.elapsed (.ofMillis 30000) e.timestamp < r.2.1.options.timeout)) =
      some (.timedOut, expiredSession.trace.length, false, true) := by decide +kernel
  obtain ⟨⟨o, s', w'⟩, hrun, heq⟩ := Option.map_eq_some_iff.mp hseen
  simp only [Prod.mk.injEq, List.all_eq_true, Bool.and_eq_true, decide_eq_true_eq] at heq
  obtain ⟨rfl, htrace, hnoted, herrors⟩ := heq
  exact ⟨expiredSession_history, s', w', hrun, htrace, by simpa using hnoted, herrors⟩

end Session

end Runbook
