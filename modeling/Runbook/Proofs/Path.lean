import Runbook.Proofs.Turn

/-!
# The course of a run

* `Executor.Path` : the turns of a run, each taken in the session that the one before left; `Executor.Asked` : a path
  with its questions as they were put;
* `Executor.Closes` : how a run ends after its last turn, with the time and the turns it had left;
* `Executor.Stops` : why no further turn is taken, with the outcome and the error that this gives; `Stops.halts` : only
  the last turn can halt a run;
* `Executor.Ran`, `run_ran` : a run that ends is a path and its end, and an observed executor notes the questions of
  its turns; `run_closes`, `run_course` : the same in parts;
* `Executor.Due`, `Executor.left` : a step that is due after some turns, and the world that it leaves;
* `Executor.BreaksOff`, `run_ends` : a run ends, unless its clock cannot move on after a step that is due;
  `run_eq_none_iff` : and if that is so, it has no result;
* `Executor.Ticks`, `Ticks.ran` : runs on a clock that moves on after every step all end.
-/

namespace Runbook.Executor

variable {ω : Type} (x : Executor ω)

/-- The turns of a run that began at `started`, one after the other. -/
inductive Path (started : Instant) : Session → ω → List (Turn ω) → Session → ω → Prop
  | nil (s w) : Path started s w [] s w
  | cons {s w t w₁ ts m w₂} (first : x.Takes started s w t w₁) (rest : Path started (t.apply s) w₁ ts m w₂) :
      Path started s w (t :: ts) m w₂

/-- A path with the questions of its turns as they were put. -/
inductive Asked (started : Instant) : Session → ω → List (Turn ω) → Session → ω → Prop
  | nil (s w) : Asked started s w [] s w
  | cons {s w t w₁ ts m w₂} (first : x.Takes started s w t w₁) (asks : x.Asks s w t w₁)
      (rest : Asked started (t.apply s) w₁ ts m w₂) : Asked started s w (t :: ts) m w₂

variable {x} in
theorem Asked.path {started : Instant} {s m : Session} {w v : ω} {turns : List (Turn ω)}
    (h : x.Asked started s w turns m v) : x.Path started s w turns m v := by
  induction h with
  | nil => exact .nil _ _
  | cons first _ _ ih => exact .cons first ih

/-- After some turns of a run a step is due: there is work left, and a turn and time for it. -/
structure Due (started : Instant) (s : Session) (w : ω) (turns : List (Turn ω)) (m : Session) (v : ω) (step : Step) :
    Prop where
  course : x.Path started s w turns m v
  room : turns.length < s.options.maxIterations
  isOpen : m.isEnded = false
  inTime : Instant.elapsed started (x.now v).1 < m.options.timeout
  named : m.currentStep? = some step

/-- The world that a step leaves in a session, before the clock is told that it has finished. -/
def left (step : Step) (m : Session) (v : ω) : ω := (x.turn step m (x.now v).2 [] [] []).2

/-- Why a run that may take `limit` turns and ends as `resting` without any takes none after the given ones, which
led to the session `m`: its outcome and the error that it notes last. -/
inductive Stops (limit : Nat) (resting : Outcome) (turns : List (Turn ω)) (m : Session) :
    Outcome → List ErrorRecord → Prop
  | resting (he : m.isEnded = true) (ht : turns = []) : Stops limit resting turns m resting []
  | completed (he : m.isEnded = true) (ht : turns ≠ []) (hd : ∀ t ∈ turns, t.decision ≠ .halt) :
      Stops limit resting turns m .completed []
  | dangling (he : m.isEnded = false) (hs : m.currentStep? = none) (hd : ∀ t ∈ turns, t.decision ≠ .halt) :
      Stops limit resting turns m .completed []
  | timedOut (now spent) (he : m.isEnded = false) (hd : ∀ t ∈ turns, t.decision ≠ .halt) :
      Stops limit resting turns m .timedOut [timeoutError m now spent]
  | exhausted (now) (he : m.isEnded = false) (hn : turns.length = limit) (hd : ∀ t ∈ turns, t.decision ≠ .halt) :
      Stops limit resting turns m .exhaustedIterations [ceilingError m now]
  | halted {ts t} (ht : turns = ts ++ [t]) (hh : t.decision = .halt) (hd : ∀ u ∈ ts, u.decision ≠ .halt) :
      Stops limit resting turns m .haltedOnError []

/-- How a run that began at `started`, may take `limit` turns and ends as `resting` without any ends after the given
ones, which led to the session `m` in the world `v`: its outcome, the session and the world. -/
inductive Closes (started : Instant) (limit : Nat) (resting : Outcome) (turns : List (Turn ω)) (m : Session) (v : ω) :
    Outcome → Session → ω → Prop
  | resting (he : m.isEnded = true) (ht : turns = []) : Closes started limit resting turns m v resting m v
  | completed (he : m.isEnded = true) (ht : turns ≠ []) (hd : ∀ t ∈ turns, t.decision ≠ .halt) :
      Closes started limit resting turns m v .completed m v
  | dangling (he : m.isEnded = false) (hl : Instant.elapsed started (x.now v).1 < m.options.timeout)
      (hn : turns.length < limit) (hs : m.currentStep? = none) (hd : ∀ t ∈ turns, t.decision ≠ .halt) :
      Closes started limit resting turns m v .completed m (x.now v).2
  | timedOut (he : m.isEnded = false) (hl : m.options.timeout ≤ Instant.elapsed started (x.now v).1)
      (hd : ∀ t ∈ turns, t.decision ≠ .halt) : Closes started limit resting turns m v .timedOut
        (m.pushError (timeoutError m (x.now v).1 (Instant.elapsed started (x.now v).1))) (x.now v).2
  | exhausted (he : m.isEnded = false) (hl : Instant.elapsed started (x.now v).1 < m.options.timeout)
      (hn : turns.length = limit) (hd : ∀ t ∈ turns, t.decision ≠ .halt) :
      Closes started limit resting turns m v .exhaustedIterations (m.pushError (ceilingError m (x.now v).1)) (x.now v).2
  | halted {ts t} (ht : turns = ts ++ [t]) (hh : t.decision = .halt) (hd : ∀ u ∈ ts, u.decision ≠ .halt) :
      Closes started limit resting turns m v .haltedOnError m v

/-- The outcome of a run of a session that takes no turn: the latest one still stands. -/
def restingOutcome (fresh : Bool) (s : Session) : Outcome := if fresh then s.outcome.getD .completed else .completed

section Closes
variable {x} {started : Instant} {limit : Nat} {r o : Outcome} {m s' : Session} {v w' : ω}

/-- One more turn in front, and a run ends as before. -/
theorem Closes.cons {t : Turn ω} {ts : List (Turn ω)} (h : x.Closes started limit .completed ts m v o s' w')
    (ht : t.decision ≠ .halt) : x.Closes started (limit + 1) r (t :: ts) m v o s' w' := by
  have hcons : ∀ {us : List (Turn ω)}, (∀ u ∈ us, u.decision ≠ .halt) → ∀ u ∈ t :: us, u.decision ≠ .halt := fun hd =>
    List.forall_mem_cons.mpr ⟨ht, hd⟩
  cases h with
  | resting he hts => exact .completed he (by simp) (hcons (by simp [hts]))
  | completed he _ hd => exact .completed he (by simp) (hcons hd)
  | dangling he hl hn hs hd => exact .dangling he hl (by simpa using hn) hs (hcons hd)
  | timedOut he hl hd => exact .timedOut he hl (hcons hd)
  | exhausted he hl hn hd => exact .exhausted he hl (by simp [hn]) (hcons hd)
  | @halted us u hts hh hd =>
    subst hts
    exact .halted (show t :: (us ++ [u]) = (t :: us) ++ [u] from rfl) hh (hcons hd)

theorem errors_nil (m : Session) : m = { m with errors := m.errors ++ [] } := by simp

/-- What ends a run stops it, and nothing changes but for an error noted last. -/
theorem Closes.stops {turns : List (Turn ω)} (h : x.Closes started limit r turns m v o s' w') :
    ∃ es, Stops limit r turns m o es ∧ s' = { m with errors := m.errors ++ es } := by
  cases h with
  | resting he ht => exact ⟨[], .resting he ht, errors_nil m⟩
  | completed he ht hd => exact ⟨[], .completed he ht hd, errors_nil m⟩
  | dangling he _ _ hs hd => exact ⟨[], .dangling he hs hd, errors_nil m⟩
  | timedOut he _ hd => exact ⟨_, .timedOut _ _ he hd, rfl⟩
  | exhausted he _ hn hd => exact ⟨_, .exhausted _ he hn hd, rfl⟩
  | halted ht hh hd => exact ⟨[], .halted ht hh hd, errors_nil m⟩

/-- The error that a stop notes tells of a limit. -/
theorem Stops.kind_of_mem {turns : List (Turn ω)} {es : List ErrorRecord} (h : Stops limit r turns m o es) :
    ∀ e ∈ es, e.kind = .timeout ∨ e.kind = .iterationLimit := by
  cases h with
  | resting | completed | dangling | halted => simp
  | timedOut | exhausted => simp [timeoutError, ceilingError]

theorem Stops.kind_ne_step {turns : List (Turn ω)} {es : List ErrorRecord} (h : Stops limit r turns m o es) :
    ∀ e ∈ es, e.kind ≠ .step := by
  intro e he
  rcases h.kind_of_mem e he with hk | hk <;> rw [hk] <;> exact nofun

/-- Either no turn halts the run, or the last one alone does, and the outcome tells so. -/
theorem Stops.halts {turns : List (Turn ω)} {es : List ErrorRecord} (h : Stops limit r turns m o es) :
    (∀ t ∈ turns, t.decision ≠ .halt) ∨ ∃ ts t, turns = ts ++ [t] ∧ t.decision = .halt ∧
      (∀ u ∈ ts, u.decision ≠ .halt) ∧ o = .haltedOnError := by
  cases h with
  | resting _ ht => exact Or.inl (by simp [ht])
  | completed _ _ hd | dangling _ _ hd => exact Or.inl hd
  | timedOut _ _ _ hd | exhausted _ _ _ hd => exact Or.inl hd
  | halted ht hh hd => exact Or.inr ⟨_, _, ht, hh, hd, rfl⟩

theorem Stops.halt_last {turns : List (Turn ω)} {es : List ErrorRecord} (h : Stops limit r turns m o es) :
    ∀ t ∈ turns.dropLast, t.decision ≠ .halt := by
  intro t ht
  rcases h.halts with hd | ⟨ts, u, hturns, -, hd, -⟩
  · exact hd t (List.dropLast_subset _ ht)
  · rw [hturns, List.dropLast_concat] at ht
    exact hd t ht

end Closes

/-! ## One look at the loop -/

section Loop
variable {started : Instant} {n : Nat} {fresh : Bool} {s : Session} {w : ω}

theorem loop_ended (he : s.isEnded = true) :
    x.loop started n fresh s w = some (restingOutcome fresh s, s, w) := by
  rw [loop, if_pos he]
  rfl

theorem loop_late (he : s.isEnded = false) (hl : s.options.timeout ≤ Instant.elapsed started (x.now w).1) :
    x.loop started n fresh s w = some (.timedOut,
      s.pushError (timeoutError s (x.now w).1 (Instant.elapsed started (x.now w).1)), (x.now w).2) := by
  rw [loop, if_neg (by simp [he])]
  exact if_pos hl

theorem loop_zero (he : s.isEnded = false) (hl : ¬ s.options.timeout ≤ Instant.elapsed started (x.now w).1) :
    x.loop started 0 fresh s w =
      some (.exhaustedIterations, s.pushError (ceilingError s (x.now w).1), (x.now w).2) := by
  rw [loop, if_neg (by simp [he])]
  exact if_neg hl

theorem loop_dangling (he : s.isEnded = false) (hl : ¬ s.options.timeout ≤ Instant.elapsed started (x.now w).1)
    (hs : s.currentStep? = none) :
    x.loop started (n + 1) fresh s w = some (.completed, s, (x.now w).2) := by
  rw [loop, if_neg (by simp [he])]
  simp only [if_neg hl, hs]

theorem loop_step {step : Step} (he : s.isEnded = false)
    (hl : ¬ s.options.timeout ≤ Instant.elapsed started (x.now w).1) (hs : s.currentStep? = some step) :
    x.loop started (n + 1) fresh s w = (x.iterate step s (x.now w).2).bind fun (d, s', w') =>
      if d = .halt then some (.haltedOnError, s', w') else x.loop started n false s' w' := by
  rw [loop, if_neg (by simp [he])]
  simp only [if_neg hl, hs]
  rcases x.iterate step s (x.now w).2 with _ | ⟨d, s', w'⟩
  · rfl
  · cases d <;> rfl

/-- Where the cursor names a step, a run has no end, or is interrupted, or takes a turn. -/
theorem loop_open (started : Instant) (n : Nat) (fresh : Bool) (w : ω) {step : Step} (he : s.isEnded = false)
    (hs : s.currentStep? = some step) :
    x.loop started n fresh s w = none ∨
    (s.options.timeout ≤ Instant.elapsed started (x.now w).1 ∧
      ∃ s' w', x.loop started n fresh s w = some (.timedOut, s', w')) ∨
    (n = 0 ∧ ∃ s' w', x.loop started n fresh s w = some (.exhaustedIterations, s', w')) ∨
    ∃ k t w', n = k + 1 ∧ x.Takes started s w t w' ∧ x.loop started n fresh s w =
      if t.decision = .halt then some (.haltedOnError, t.apply s, w') else x.loop started k false (t.apply s) w' := by
  by_cases hl : s.options.timeout ≤ Instant.elapsed started (x.now w).1
  · exact Or.inr (Or.inl ⟨hl, _, _, x.loop_late he hl⟩)
  cases n with
  | zero => exact Or.inr (Or.inr (Or.inl ⟨rfl, _, _, x.loop_zero he hl⟩))
  | succ n =>
    rw [x.loop_step he hl hs]
    cases hi : x.iterate step s (x.now w).2 with
    | none => exact Or.inl rfl
    | some r =>
      obtain ⟨t, ht, hd, happly, -⟩ := x.iterate_observed [] he (Nat.lt_of_not_le hl) hs hi
      refine Or.inr (Or.inr (Or.inr ⟨n, t, r.2.2, rfl, ht, ?_⟩))
      rw [Option.bind_some, hd, happly]

end Loop

/-- The iterations of a run that ends are a path and its end, and an observed executor notes the questions of the
turns as they were put. -/
theorem loop_asked {started : Instant} (n : Nat) {fresh : Bool} {s : Session} {w : ω} {o : Outcome} {s' : Session}
    {w' : ω} (log : List (Event ω)) (h : x.loop started n fresh s w = some (o, s', w')) :
    ∃ turns m v, x.Asked started s w turns m v ∧ turns.length ≤ n ∧
      x.Closes started n (restingOutcome fresh s) turns m v o s' w' ∧
      x.observed.loop started n fresh s (w, log) = some (o, s', w', log ++ turns.flatMap Turn.events) := by
  -- By recursion on the turns left: each way out of the loop is one way to close, and a turn goes in front of the rest.
  by_cases he : s.isEnded = true
  · rw [x.loop_ended he] at h
    obtain ⟨rfl, rfl, rfl⟩ : restingOutcome fresh s = o ∧ s = s' ∧ w = w' := by simpa using h
    refine ⟨[], s, w, .nil s w, Nat.zero_le n, .resting he rfl, ?_⟩
    rw [x.observed.loop_ended he, List.flatMap_nil, List.append_nil]
  rw [Bool.not_eq_true] at he
  by_cases hl : s.options.timeout ≤ Instant.elapsed started (x.now w).1
  · rw [x.loop_late he hl] at h
    simp only [Option.some.injEq, Prod.mk.injEq] at h
    obtain ⟨rfl, rfl, rfl⟩ := h
    refine ⟨[], s, w, .nil s w, Nat.zero_le n, .timedOut he hl (by simp), ?_⟩
    have hlate : s.options.timeout ≤ Instant.elapsed started (x.observed.now (w, log)).1 := hl
    rw [x.observed.loop_late he hlate, List.flatMap_nil, List.append_nil]
    rfl
  have htime : ¬ s.options.timeout ≤ Instant.elapsed started (x.observed.now (w, log)).1 := hl
  cases n with
  | zero =>
    rw [x.loop_zero he hl] at h
    simp only [Option.some.injEq, Prod.mk.injEq] at h
    obtain ⟨rfl, rfl, rfl⟩ := h
    refine ⟨[], s, w, .nil s w, Nat.le_refl 0, .exhausted he (Nat.lt_of_not_le hl) rfl (by simp), ?_⟩
    rw [x.observed.loop_zero he htime, List.flatMap_nil, List.append_nil]
    rfl
  | succ n =>
    cases hs : s.currentStep? with
    | none =>
      rw [x.loop_dangling he hl hs] at h
      simp only [Option.some.injEq, Prod.mk.injEq] at h
      obtain ⟨rfl, rfl, rfl⟩ := h
      refine ⟨[], s, w, .nil s w, Nat.zero_le _, .dangling he (Nat.lt_of_not_le hl) (Nat.succ_pos n) hs (by simp), ?_⟩
      rw [x.observed.loop_dangling he htime hs, List.flatMap_nil, List.append_nil]
      rfl
    | some step =>
      rw [x.loop_step he hl hs] at h
      obtain ⟨⟨d, s₁, w₁⟩, hi, h⟩ := Option.bind_eq_some_iff.mp h
      obtain ⟨t, ht, hasks, rfl, rfl, hobs⟩ := x.iterate_asked log he (Nat.lt_of_not_le hl) hs hi
      rw [x.observed.loop_step he htime hs, observed_now, hobs, Option.bind_some]
      by_cases hd : t.decision = .halt
      · simp only [if_pos hd, Option.some.injEq, Prod.mk.injEq] at h ⊢
        obtain ⟨rfl, rfl, rfl⟩ := h
        refine ⟨[t], t.apply s, w₁, .cons ht hasks (.nil _ _), by simp, ?_, ⟨rfl, rfl, rfl, ?_⟩⟩
        · exact .halted (show [t] = [] ++ [t] from rfl) hd (by simp)
        · rw [List.flatMap_singleton]
      · simp only [if_neg hd] at h ⊢
        obtain ⟨ts, m, v, hp, hn, hcloses, hobs'⟩ := loop_asked n (log ++ t.events) h
        refine ⟨t :: ts, m, v, .cons ht hasks hp, by simpa using hn, hcloses.cons hd, ?_⟩
        rw [hobs', List.flatMap_cons, List.append_assoc]

/-- Iterations without an end lead, within the turns that are left, to a session with work to do and time for it, whose
next iteration has no end. -/
theorem loop_breaks {started : Instant} (n : Nat) {fresh : Bool} {s : Session} {w : ω}
    (h : x.loop started n fresh s w = none) :
    ∃ turns m v step, x.Path started s w turns m v ∧ turns.length < n ∧ m.isEnded = false ∧
      Instant.elapsed started (x.now v).1 < m.options.timeout ∧ m.currentStep? = some step ∧
      x.iterate step m (x.now v).2 = none := by
  by_cases he : s.isEnded = true
  · rw [x.loop_ended he] at h
    cases h
  rw [Bool.not_eq_true] at he
  by_cases hl : s.options.timeout ≤ Instant.elapsed started (x.now w).1
  · rw [x.loop_late he hl] at h
    cases h
  cases n with
  | zero =>
    rw [x.loop_zero he hl] at h
    cases h
  | succ n =>
    cases hs : s.currentStep? with
    | none =>
      rw [x.loop_dangling he hl hs] at h
      cases h
    | some step =>
      rw [x.loop_step he hl hs] at h
      cases hi : x.iterate step s (x.now w).2 with
      | none => exact ⟨[], s, w, step, .nil s w, Nat.succ_pos n, he, Nat.lt_of_not_le hl, hs, hi⟩
      | some r =>
        obtain ⟨t, ht, hd, hs₁, -⟩ := x.iterate_observed [] he (Nat.lt_of_not_le hl) hs hi
        simp only [hi, Option.bind_some] at h
        split at h
        · cases h
        · obtain ⟨ts, m, v, step', hp, hn, hrest⟩ := loop_breaks n h
          rw [← hs₁] at hp
          exact ⟨t :: ts, m, v, step', .cons ht hp, Nat.succ_lt_succ hn, hrest⟩

/-! ## Whole runs -/

theorem run_eq (s : Session) (w : ω) :
    x.run s w = (x.loop (x.now w).1 s.options.maxIterations true s (x.now w).2).map fun r =>
      (r.1, r.2.1.finish r.1 (Instant.elapsed (x.now w).1 (x.now r.2.2).1), (x.now r.2.2).2) := rfl

/-- A run that ends: its turns, with the questions as they were put and noted, how they close, and two looks at the
clock more. -/
structure Ran (s : Session) (w : ω) (turns : List (Turn ω)) (o : Outcome) (s' : Session) (w' : ω) : Prop where
  ends : x.run s w = some (o, s', w')
  noted : x.observed.run s (w, []) = some (o, s', w', turns.flatMap Turn.events)
  within : turns.length ≤ s.options.maxIterations
  course : ∃ m v s₁ v₁, x.Asked (x.now w).1 s (x.now w).2 turns m v ∧
    x.Closes (x.now w).1 s.options.maxIterations (s.outcome.getD .completed) turns m v o s₁ v₁ ∧
    s' = s₁.finish o (Instant.elapsed (x.now w).1 (x.now v₁).1) ∧ w' = (x.now v₁).2

theorem run_ran {s : Session} {w : ω} {o : Outcome} {s' : Session} {w' : ω} (h : x.run s w = some (o, s', w')) :
    ∃ turns, x.Ran s w turns o s' w' := by
  have hrun := h
  rw [run_eq] at hrun
  obtain ⟨⟨o₁, s₁, v₁⟩, hloop, heq⟩ := Option.map_eq_some_iff.mp hrun
  obtain ⟨turns, m, v, hasked, hn, hcloses, hobs⟩ := x.loop_asked _ [] hloop
  simp only [Prod.mk.injEq] at heq
  obtain ⟨rfl, rfl, rfl⟩ := heq
  refine ⟨turns, h, ?_, hn, m, v, s₁, v₁, hasked, hcloses, rfl, rfl⟩
  rw [run_eq, observed_now, hobs, Option.map_some, observed_now, List.nil_append]

/-- A run that ends is a path from its session and its end, told by two looks at the clock more, and an observed
executor notes the questions of the turns. -/
theorem run_closes {s : Session} {w : ω} {o : Outcome} {s' : Session} {w' : ω} (h : x.run s w = some (o, s', w')) :
    ∃ turns m v s₁ v₁, x.Path (x.now w).1 s (x.now w).2 turns m v ∧ turns.length ≤ s.options.maxIterations ∧
      x.Closes (x.now w).1 s.options.maxIterations (s.outcome.getD .completed) turns m v o s₁ v₁ ∧
      s' = s₁.finish o (Instant.elapsed (x.now w).1 (x.now v₁).1) ∧ w' = (x.now v₁).2 ∧
      x.observed.run s (w, []) = some (o, s', w', turns.flatMap Turn.events) := by
  obtain ⟨turns, hran⟩ := x.run_ran h
  obtain ⟨m, v, s₁, v₁, hasked, hcloses, hs', hw'⟩ := hran.course
  exact ⟨turns, m, v, s₁, v₁, hasked.path, hran.within, hcloses, hs', hw', hran.noted⟩

variable {x} in
/-- The turns of a run are a path and a stop. -/
theorem Ran.stops {s s' : Session} {w w' : ω} {turns : List (Turn ω)} {o : Outcome} (h : x.Ran s w turns o s' w') :
    ∃ m v es d, x.Path (x.now w).1 s (x.now w).2 turns m v ∧
      Stops s.options.maxIterations (s.outcome.getD .completed) turns m o es ∧
      s' = Session.finish { m with errors := m.errors ++ es } o d := by
  obtain ⟨m, v, s₁, v₁, hasked, hcloses, hs', -⟩ := h.course
  obtain ⟨es, hstops, rfl⟩ := hcloses.stops
  exact ⟨m, v, es, _, hasked.path, hstops, hs'⟩

/-- A run that ends is a path from its session and a stop, and an observed executor notes the questions of the
turns. -/
theorem run_course {s : Session} {w : ω} {o : Outcome} {s' : Session} {w' : ω} (h : x.run s w = some (o, s', w')) :
    ∃ turns m v es d, x.Path (x.now w).1 s (x.now w).2 turns m v ∧ turns.length ≤ s.options.maxIterations ∧
      Stops s.options.maxIterations (s.outcome.getD .completed) turns m o es ∧
      s' = Session.finish { m with errors := m.errors ++ es } o d ∧
      x.observed.run s (w, []) = some (o, s', w', turns.flatMap Turn.events) := by
  obtain ⟨turns, hran⟩ := x.run_ran h
  obtain ⟨m, v, es, d, hpath, hstops, hs'⟩ := hran.stops
  exact ⟨turns, m, v, es, d, hpath, hran.within, hstops, hs', hran.noted⟩

/-! ## Runs that break off -/

theorem iterate_eq_none_iff {x : Executor ω} {step : Step} {m : Session} {v : ω} :
    x.iterate step m (x.now v).2 = none ↔ x.stepFinished? (x.left step m v) = none := by
  rw [x.iterate_turn step m _ [] [] [], Option.map_eq_none_iff, left]

/-- A run has no end: after some of its turns a step is due that leaves a world whose clock cannot move on. -/
def BreaksOff (s : Session) (w : ω) : Prop :=
  x.run s w = none ∧ ∃ turns m v step, x.Due (x.now w).1 s (x.now w).2 turns m v step ∧
    x.stepFinished? (x.left step m v) = none

theorem breaksOff_of_run_eq_none {x : Executor ω} {s : Session} {w : ω} (h : x.run s w = none) : x.BreaksOff s w := by
  obtain ⟨turns, m, v, step, hpath, hroom, hopen, htime, hnamed, hnone⟩ := x.loop_breaks _ (Option.map_eq_none_iff.mp h)
  exact ⟨h, turns, m, v, step, ⟨hpath, hroom, hopen, htime, hnamed⟩, iterate_eq_none_iff.mp hnone⟩

/-- A run ends, unless it breaks off. -/
theorem run_ends (s : Session) (w : ω) : x.BreaksOff s w ∨ ∃ o s' w', x.run s w = some (o, s', w') := by
  cases h : x.run s w with
  | none => exact Or.inl (breaksOff_of_run_eq_none h)
  | some r => exact Or.inr ⟨r.1, r.2.1, r.2.2, rfl⟩

/-- A run breaks off, or has run to its end. -/
theorem breaksOff_or_ran (s : Session) (w : ω) :
    x.BreaksOff s w ∨ ∃ turns o s' w', x.Ran s w turns o s' w' := by
  rcases x.run_ends s w with hbreak | ⟨o, s', w', hrun⟩
  · exact Or.inl hbreak
  · obtain ⟨turns, hran⟩ := x.run_ran hrun
    exact Or.inr ⟨turns, o, s', w', hran⟩

/-! ## What a path leaves -/

theorem errors_step {turns : List (Turn ω)} : ∀ e ∈ turns.flatMap Turn.errors, e.kind = .step := by
  intro e he
  obtain ⟨t, -, he⟩ := List.mem_flatMap.mp he
  exact t.kind_of_mem_errors he

namespace Path

variable {x} {started : Instant} {s m : Session} {w v : ω} {turns : List (Turn ω)}

theorem trace (h : x.Path started s w turns m v) : m.trace = s.trace ++ turns.map Turn.record := by
  induction h with
  | nil => simp
  | cons first rest ih => rw [ih, Turn.apply_trace, List.append_assoc, List.map_cons, List.singleton_append]

theorem errors (h : x.Path started s w turns m v) : m.errors = s.errors ++ turns.flatMap Turn.errors := by
  induction h with
  | nil => simp
  | cons first rest ih => rw [ih, Turn.apply_errors, List.append_assoc, List.flatMap_cons]

theorem program (h : x.Path started s w turns m v) : m.program = s.program := by
  induction h with
  | nil => rfl
  | cons first rest ih => rw [ih, Turn.apply_program]

theorem options (h : x.Path started s w turns m v) : m.options = s.options := by
  induction h with
  | nil => rfl
  | cons first rest ih => rw [ih, Turn.apply_options]

/-- Every turn of a path was taken in a session of the same program and options. -/
theorem taken (h : x.Path started s w turns m v) : ∀ t ∈ turns, ∃ r u u',
    x.Takes started r u t u' ∧ r.program = s.program ∧ r.options = s.options := by
  induction h with
  | nil => simp
  | cons first rest ih =>
    intro u hu
    rcases List.mem_cons.mp hu with rfl | hu
    · exact ⟨_, _, _, first, rfl, rfl⟩
    · obtain ⟨r, v, v', ht, hp, ho⟩ := ih u hu
      exact ⟨r, v, v', ht, hp.trans (Turn.apply_program _ _), ho.trans (Turn.apply_options _ _)⟩

theorem of_ended (h : x.Path started s w turns m v) (he : s.isEnded = true) : turns = [] ∧ m = s := by
  cases h with
  | nil => exact ⟨rfl, rfl⟩
  | cons first rest => exact absurd (he.symm.trans first.isOpen) (by decide)

/-- A path whose last turn halts the run leaves no cursor. -/
theorem cursor_halt (h : x.Path started s w turns m v) {ts : List (Turn ω)} {t : Turn ω} (ht : turns = ts ++ [t])
    (hh : t.decision = .halt) : m.cursor = none := by
  induction h generalizing ts with
  | nil => simp at ht
  | cons first rest ih =>
    cases ts with
    | nil =>
      obtain ⟨rfl, rfl⟩ := List.cons.inj ht
      cases rest
      exact Turn.apply_cursor_halt _ _ hh
    | cons u us => exact ih (List.cons.inj ht).2

/-- What the first state has and every turn leaves, the last state has. -/
theorem state_keeps (h : x.Path started s w turns m v) {P : State → Prop} (hs : P s.state)
    (ht : ∀ t ∈ turns, P t.after) : P m.state := by
  induction h with
  | nil => exact hs
  | @cons s w t w₁ ts m v first rest ih =>
    obtain ⟨hfirst, hrest⟩ := List.forall_mem_cons.mp ht
    exact ih (by rw [Turn.apply_state]; exact hfirst) hrest

/-- A turn that halts the run leaves no work. -/
theorem not_halt (h : x.Path started s w turns m v) (hm : m.isEnded = false) : ∀ t ∈ turns, t.decision ≠ .halt := by
  induction h with
  | nil => simp
  | @cons s w t w₁ ts m v first rest ih =>
    refine List.forall_mem_cons.mpr ⟨fun hd => ?_, ih hm⟩
    have hended : (t.apply s).isEnded = true := Session.isEnded_of_cursor_none (t.apply_cursor_halt s hd)
    obtain ⟨-, rfl⟩ := rest.of_ended hended
    rw [hended] at hm
    cases hm

/-- Iterations go on after some turns as if they began there. -/
theorem loop_eq (h : x.Path started s w turns m v) (hm : m.isEnded = false) (n : Nat) (fresh : Bool) :
    ∃ fresh', x.loop started (turns.length + n) fresh s w = x.loop started n fresh' m v := by
  have hd := h.not_halt hm
  induction h generalizing fresh with
  | nil s w => exact ⟨fresh, by rw [List.length_nil, Nat.zero_add]⟩
  | @cons s w t w₁ ts m v first rest ih =>
    obtain ⟨hfirst, hrest⟩ := List.forall_mem_cons.mp hd
    obtain ⟨fresh', hloop⟩ := ih hm false hrest
    refine ⟨fresh', ?_⟩
    rw [List.length_cons, Nat.add_right_comm, x.loop_step first.isOpen (Nat.not_le_of_lt first.inTime) first.named,
      first.iterated, Option.bind_some]
    simp only [if_neg hfirst]
    exact hloop

end Path

/-- A run has no result if and only if its clock cannot move on after a step that is due. -/
theorem run_eq_none_iff {x : Executor ω} {s : Session} {w : ω} : x.run s w = none ↔
    ∃ turns m v step, x.Due (x.now w).1 s (x.now w).2 turns m v step ∧ x.stepFinished? (x.left step m v) = none := by
  refine ⟨fun h => (breaksOff_of_run_eq_none h).2, ?_⟩
  rintro ⟨turns, m, v, step, hdue, hnone⟩
  obtain ⟨n, hn⟩ := Nat.exists_eq_add_of_lt hdue.room
  obtain ⟨fresh', hloop⟩ := hdue.course.loop_eq hdue.isOpen (n + 1) true
  rw [run_eq, Option.map_eq_none_iff, hn, Nat.add_assoc, hloop,
    x.loop_step hdue.isOpen (Nat.not_le_of_lt hdue.inTime) hdue.named, iterate_eq_none_iff.mpr hnone]
  rfl

/-- An executor whose clock moves on after every step. -/
def Ticks : Prop := ∀ w, (x.stepFinished? w).isSome = true

theorem Ticks.not_breaksOff {x : Executor ω} (hx : x.Ticks) (s : Session) (w : ω) : ¬ x.BreaksOff s w := by
  rintro ⟨-, turns, m, v, step, -, hnone⟩
  have hsome := hx (x.left step m v)
  rw [hnone] at hsome
  nomatch hsome

/-- A run ends whose clock moves on after every step. -/
theorem Ticks.ran {x : Executor ω} (hx : x.Ticks) (s : Session) (w : ω) : ∃ turns o s' w', x.Ran s w turns o s' w' :=
  (x.breaksOff_or_ran s w).resolve_left (hx.not_breaksOff s w)

namespace Ran

variable {x} {s s' : Session} {w w' : ω} {turns : List (Turn ω)} {o : Outcome}

theorem trace (h : x.Ran s w turns o s' w') : s'.trace = s.trace ++ turns.map Turn.record := by
  obtain ⟨m, v, es, d, hpath, -, rfl⟩ := h.stops
  exact hpath.trace

theorem options (h : x.Ran s w turns o s' w') : s'.options = s.options := by
  obtain ⟨m, v, es, d, hpath, -, rfl⟩ := h.stops
  exact hpath.options

theorem program (h : x.Ran s w turns o s' w') : s'.program = s.program := by
  obtain ⟨m, v, es, d, hpath, -, rfl⟩ := h.stops
  exact hpath.program

/-- A run leaves its outcome in the session. -/
theorem outcome_eq (h : x.Ran s w turns o s' w') : s'.outcome = some o := by
  obtain ⟨m, v, es, d, -, -, rfl⟩ := h.stops
  rfl

/-- A run notes the errors of its steps, and that of a limit it has met. -/
theorem kind_of_mem (h : x.Ran s w turns o s' w') {e : ErrorRecord} (he : e ∈ s'.errors) :
    e ∈ s.errors ∨ e.kind = .step ∨ e.kind = .timeout ∨ e.kind = .iterationLimit := by
  obtain ⟨m, v, es, d, hpath, hstops, rfl⟩ := h.stops
  rcases List.mem_append.mp (show e ∈ m.errors ++ es from he) with he | he
  · rw [hpath.errors] at he
    rcases List.mem_append.mp he with he | he
    · exact Or.inl he
    · exact Or.inr (Or.inl (errors_step e he))
  · exact Or.inr (Or.inr (hstops.kind_of_mem e he))

end Ran

end Runbook.Executor
