import Mathlib.Algebra.Order.Floor.Div
import Runbook.Proofs.Deadline
import Runbook.Proofs.Passage
import Runbook.Proofs.Remainder

/-!
# The pace of a steady clock

A clock that starts outside leap seconds and only moves on after a step, each time by the same duration, leaves a run as
many steps as its budget holds of that duration, a broken part counted as a whole.

* `VirtualClock.Steady`, `VirtualClock.after` : a clock that moves on by one duration, and where it is after some steps;
* `Executor.KeepsTime`, `KeepsTime.turn` : strategies that leave the clock alone, and so a turn does;
* `Executor.Marched`, `Takes.marches`, `Path.marches` : where a run stands after some steps that were each followed by the
  next one;
* `Executor.GoesOn`, `Ran.goesOn` : a run of such steps only, as can be told from its turns, because there is but one
  course for it (`Takes.unique`, `Path.among`); `Ran.goesOn_of_records` : and from its records;
* `Closes.first_limit` : the limit at which a run ends;
* `steady_clock_counts` : the records, the outcome and the time of a run on a steady clock; `leap_second_gains_a_step` : a
  run that starts in a leap second takes a step more.
-/

namespace Runbook

/-! ## Steady clocks -/

namespace VirtualClock

variable {c : VirtualClock} {d : Duration}

/-- A clock within the calendar that moves on by a duration after each step. -/
structure Steady (c : VirtualClock) (d : Duration) : Prop where
  moves : c.stepDuration = some d
  positive : 0 < d
  short : d ≤ Duration.maxMove
  begun : Instant.first ≤ c.time

/-- The clock after a number of steps, each of the given duration. -/
def after (c : VirtualClock) (d : Duration) (n : Nat) : VirtualClock := { c with time := c.time + (n * d : Duration) }

theorem after_zero (c : VirtualClock) (d : Duration) : c.after d 0 = c := by simp [after, Instant.add_zero]

theorem after_after (c : VirtualClock) (d : Duration) (m n : Nat) : (c.after d m).after d n = c.after d (m + n) := by
  unfold after
  rw [Nat.add_mul, ← Instant.add_add]

theorem time_after_le (c : VirtualClock) (d : Duration) {m n : Nat} (h : m ≤ n) :
    (c.after d m).time ≤ (c.after d n).time :=
  c.time.add_le_add_left (Nat.mul_le_mul_right d h)

/-- From a time outside leap seconds the steps take their durations. -/
theorem elapsed_after (hc : c.time.isLeap = false) (d : Duration) (n : Nat) :
    Instant.elapsed c.time (c.after d n).time = n * d := Instant.elapsed_add hc _

namespace Steady

theorem after (h : c.Steady d) (n : Nat) : (c.after d n).Steady d :=
  ⟨h.moves, h.positive, h.short, h.begun.trans (c.time.le_add _)⟩

/-- A step has an end up to the end of the calendar, and then the clock has moved on by one duration. -/
theorem stepFinished?_eq (h : c.Steady d) :
    c.stepFinished? = if (c.after d 1).time ≤ Instant.last then some (c.after d 1) else none := by
  have hforward : c.stepFinished? = c.forward? d := by
    unfold stepFinished?
    rw [h.moves]
  have htime : (c.after d 1).time = c.time + d := by
    unfold VirtualClock.after
    rw [Nat.one_mul]
  have hheld : Instant.isRepresentable (c.time + d) = decide ((c.after d 1).time ≤ Instant.last) := by
    rw [Instant.isRepresentable, ← htime, decide_eq_true (h.after 1).begun, Bool.true_and]
  rw [hforward, forward?, if_pos h.short, Instant.represented?, hheld, ← htime]
  by_cases hlast : (c.after d 1).time ≤ Instant.last
  · rw [decide_eq_true hlast, if_pos hlast]
    rfl
  · rw [decide_eq_false hlast, if_neg hlast]
    rfl

theorem eq_after (h : c.Steady d) {c' : VirtualClock} (hc : c.stepFinished? = some c') : c' = c.after d 1 := by
  rw [h.stepFinished?_eq] at hc
  split at hc
  · exact (Option.some.inj hc).symm
  · cases hc

end Steady

end VirtualClock

namespace Executor

/-! ## Strategies that leave the clock alone -/

section Time
variable {σ : Type} {x : Executor (World σ)} {w w' : World σ}

/-- A virtual clock that no strategy moves. -/
structure KeepsTime (x : Executor (World σ)) : Prop where
  now : x.now = World.now
  tick : x.stepFinished? = World.stepFinished?
  evaluate : ∀ c s w, (x.evaluate c s w).2.clock = w.clock
  dispatch : ∀ a s w, (x.dispatch a s w).2.2.clock = w.clock
  recover : ∀ step e n w, (x.recover step e n w).2.clock = w.clock

/-- On a virtual clock time is kept if evaluator and dispatcher do so. -/
theorem onWorld_keepsTime {evaluate : Evaluator (World σ)} {dispatch : Dispatcher (World σ)} {policy : Policy}
    {cancellable : Bool} (he : ∀ c s w, (evaluate c s w).2.clock = w.clock)
    (hd : ∀ a s w, (dispatch a s w).2.2.clock = w.clock) :
    (onWorld evaluate dispatch policy cancellable).KeepsTime := ⟨rfl, rfl, he, hd, fun _ _ _ _ => rfl⟩

theorem standard_keepsTime : (standard : Executor (World σ)).KeepsTime := by
  refine onWorld_keepsTime (fun _ _ _ => rfl) fun a s w => ?_
  rw [Dispatcher.vocabulary_world]

namespace KeepsTime

variable (hx : x.KeepsTime)
include hx

/-- No question moves the clock. -/
theorem carries : x.Carries fun w v => v.clock = w.clock where
  refl _ := rfl
  trans h h' := h'.trans h
  now w := by rw [hx.now]; rfl
  evaluate := hx.evaluate
  dispatch := hx.dispatch
  recover := hx.recover

theorem now_world (w : World σ) : (x.now w).2 = w := by
  rw [hx.now]
  rfl

theorem now_time (w : World σ) : (x.now w).1 = w.clock.time := by
  rw [hx.now]
  rfl

/-- The looks at the clock that end a run leave the world as it is. -/
theorem closes {started : Instant} {limit : Nat} {r o : Outcome} {turns : List (Turn (World σ))} {m s' : Session}
    (h : x.Closes started limit r turns m w o s' w') : w' = w := by
  cases h with
  | resting | completed | halted => rfl
  | dangling | timedOut | exhausted => exact hx.now_world w

/-- Whatever a step does, no time passes in it. -/
theorem turn (step : Step) (s : Session) (w : World σ) (es : List (Evaluation (World σ)))
    (cs : List (Call (World σ))) (rs : List (Consultation (World σ))) :
    (x.turn step s w es cs rs).2.clock = w.clock := hx.carries.turn step s w es cs rs

end KeepsTime

end Time

/-! ## A march through the program -/

section March
variable {σ : Type} {x : Executor (World σ)} {started : Instant} {s m : Session} {w v : World σ}
  {turns : List (Turn (World σ))} {d : Duration}

/-- The clock is told once in a turn. -/
theorem Takes.ticks {t : Turn (World σ)} (h : x.Takes started s w t v) (hx : x.KeepsTime) :
    w.clock.stepFinished? = some v.clock := by
  have hticked := h.ticked
  rw [hx.tick, hx.now_world] at hticked
  obtain ⟨c, hc, rfl⟩ := Option.map_eq_some_iff.mp hticked
  rwa [hx.turn] at hc

/-- A turn takes one duration. -/
theorem Takes.clock {t : Turn (World σ)} (h : x.Takes started s w t v) (hx : x.KeepsTime) (hw : w.clock.Steady d) :
    v.clock = w.clock.after d 1 := hw.eq_after (h.ticks hx)

/-- A budget holds more steps than a number if and only if these have not used it up. -/
theorem lt_ceilDiv {n : Nat} {timeout : Duration} (hd : 0 < d) : n < timeout ⌈/⌉ d ↔ n * d < timeout := by
  rw [← not_le, ceilDiv_le_iff_le_mul hd, not_le, Nat.mul_comm]

/-- Where a run stands after a number of steps, each followed by the next one, that began when the clock was `c`: at the
step of that number, with its state not completed, at the time that the steps have taken; and there was time for all of
them. -/
structure Marched (p : Program) (options : Options) (c : VirtualClock) (d : Duration) (n : Nat) (m : Session)
    (v : World σ) : Prop where
  within : n ≤ p.steps.length
  inTime : n ≤ options.timeout ⌈/⌉ d
  program : m.program = p
  options : m.options = options
  isOpen : m.state.isCompleted = false
  cursor : m.cursor = p.steps[n]?.map (·.name)
  clock : v.clock = c.after d n

namespace Marched

variable {p : Program} {options : Options} {c : VirtualClock} {n : Nat}

theorem isEnded_iff (h : Marched p options c d n m v) : m.isEnded = true ↔ p.steps.length ≤ n := by
  rw [Session.isEnded, h.isOpen, Bool.false_or, h.cursor, Option.isNone_map, Option.isNone_iff_eq_none,
    List.getElem?_eq_none_iff]

theorem currentStep?_eq (h : Marched p options c d n m v) (hn : (p.steps.map (·.name)).Nodup) :
    m.currentStep? = p.steps[n]? := by
  rw [Session.currentStep?, h.cursor, h.program]
  cases hstep : p.steps[n]? with
  | none => rfl
  | some step => exact Program.step?_getElem hn hstep

theorem elapsed_eq (h : Marched p options c d n m v) (hx : x.KeepsTime) (hleap : c.time.isLeap = false) :
    Instant.elapsed c.time (x.now v).1 = n * d := by
  rw [hx.now_time, h.clock, VirtualClock.elapsed_after hleap]

theorem late_iff (h : Marched p options c d n m v) (hx : x.KeepsTime) (hleap : c.time.isLeap = false) (hd : 0 < d) :
    m.options.timeout ≤ Instant.elapsed c.time (x.now v).1 ↔ options.timeout ⌈/⌉ d ≤ n := by
  rw [h.options, h.elapsed_eq hx hleap, ← not_lt, ← lt_ceilDiv hd, not_lt]

/-- No step breaks off that ends within the calendar. -/
theorem iterate_isSome (h : Marched p options c d n m v) (hx : x.KeepsTime) (hc : c.Steady d)
    (hlast : (c.after d (n + 1)).time ≤ Instant.last) (step : Step) : (x.iterate step m (x.now v).2).isSome = true := by
  have hclock := (hx.turn step m v [] [] []).trans h.clock
  rw [hx.now_world, x.iterate_turn step m v [] [] [], Option.isSome_map, hx.tick, World.stepFinished?,
    Option.isSome_map, hclock, (hc.after n).stepFinished?_eq, VirtualClock.after_after, if_pos hlast]
  rfl

end Marched

/-- A turn that goes on leads one step further. -/
theorem Takes.marches {p : Program} {options : Options} {c : VirtualClock} {n : Nat} {t : Turn (World σ)}
    (h : x.Takes c.time m v t w) (hm : Marched p options c d n m v) (hx : x.KeepsTime) (hc : c.Steady d)
    (hleap : c.time.isLeap = false) (hn : (p.steps.map (·.name)).Nodup) (hs : t.record.after.isCompleted = false)
    (hd : t.decision = .proceed) :
    Marched p options c d (n + 1) (t.apply m) w := by
  -- The turn was taken before the run had ended and in time, so neither the steps nor the budget had been used up.
  have hopen : ¬ p.steps.length ≤ n := by
    rw [← hm.isEnded_iff, h.isOpen]
    exact Bool.false_ne_true
  have htime : ¬ options.timeout ⌈/⌉ d ≤ n := by
    rw [← hm.late_iff hx hleap hc.positive]
    exact Nat.not_le_of_lt h.inTime
  have hstep := List.getElem?_eq_getElem (Nat.lt_of_not_le hopen)
  have hcursor := hm.cursor
  have hprogram := hm.program
  rw [hstep, Option.map_some] at hcursor
  subst hprogram
  obtain ⟨-, hnext⟩ := h.place hn hstep hcursor
  rw [hd] at hnext
  have hsteady := hc.after n
  rw [← hm.clock] at hsteady
  refine ⟨Nat.lt_of_not_le hopen, Nat.lt_of_not_le htime, t.apply_program m, (t.apply_options m).trans hm.options, ?_,
    hnext, ?_⟩
  · rw [t.apply_state, ← t.record_after]
    exact hs
  · rw [h.clock hx hsteady, hm.clock, VirtualClock.after_after]

/-- A path that only goes on leads as many steps further as it has turns. -/
theorem Path.marches {p : Program} {options : Options} {c : VirtualClock} {n : Nat}
    (h : x.Path c.time s w turns m v) (hs : Marched p options c d n s w) (hx : x.KeepsTime) (hc : c.Steady d)
    (hleap : c.time.isLeap = false) (hn : (p.steps.map (·.name)).Nodup)
    (ht : ∀ t ∈ turns, t.record.after.isCompleted = false ∧ t.decision = .proceed) :
    Marched p options c d (n + turns.length) m v := by
  induction h generalizing n with
  | nil => exact hs
  | cons first rest ih =>
    obtain ⟨⟨hopen, hgoes⟩, hrest⟩ := List.forall_mem_cons.mp ht
    have hmarched := ih (first.marches hs hx hc hleap hn hopen hgoes) hrest
    rwa [Nat.add_assoc, Nat.add_comm 1] at hmarched

end March

/-! ## Runs that only go on -/

section Course
variable {ω : Type} {x : Executor ω} {started : Instant} {s s' m m' : Session} {w w' v v' : ω}
  {ts us turns : List (Turn ω)} {o : Outcome}

/-- In a run of a session the state is never completed, and every step is followed by the next one: so it is at every
turn of a path that a run may take. -/
def GoesOn (x : Executor ω) (s : Session) (w : ω) : Prop :=
  s.state.isCompleted = false ∧ ∀ turns m v, x.Path (x.now w).1 s (x.now w).2 turns m v →
    turns.length ≤ s.options.maxIterations → ∀ t ∈ turns, t.record.after.isCompleted = false ∧ t.decision = .proceed

theorem apply_silent (t : Turn ω) (s : Session) : t.silent.apply s = t.apply s := rfl

theorem record_silent (t : Turn ω) : t.silent.record = t.record := rfl

theorem decision_silent (t : Turn ω) : t.silent.decision = t.decision := rfl

/-- There is only one turn to take, but for the questions that are told of it. -/
theorem Takes.unique {t u : Turn ω} (ht : x.Takes started s w t v) (hu : x.Takes started s w u v') :
    u.silent = t.silent ∧ v' = v := by
  have halike : s.Alike (.same : Likeness ω) s := .of_eq (fun _ => trivial) (fun _ => rfl) rfl rfl rfl rfl rfl rfl
  obtain ⟨hlike, hworld⟩ := x.respects_same.takes halike (rfl : w = w) hu ht
  exact ⟨hlike.silent_eq, hworld⟩

/-- So there is only one path: one that is not longer than another, or goes on from where no further turn can be taken,
has no other turns. -/
theorem Path.among (h : x.Path started s w ts m v) (hu : x.Path started s w us m' v')
    (hend : us.length ≤ ts.length ∨ ∀ t v', ¬ x.Takes started m v t v') : ∀ u ∈ us, ∃ t ∈ ts, u.silent = t.silent := by
  induction h generalizing us with
  | nil =>
    cases hu with
    | nil => simp
    | cons first rest =>
      rcases hend with hle | hnone
      · exact absurd hle (Nat.not_succ_le_zero _)
      · exact absurd first (hnone _ _)
  | @cons s w t w₁ ts m v first rest ih =>
    cases hu with
    | nil => simp
    | @cons _ _ u _ us _ _ first' rest' =>
      obtain ⟨hsilent, rfl⟩ := first.unique first'
      rw [← apply_silent u, hsilent, apply_silent] at rest'
      have hrest := ih rest' (hend.imp_left Nat.le_of_succ_le_succ)
      refine List.forall_mem_cons.mpr ⟨⟨t, List.mem_cons_self, hsilent⟩, fun r hr => ?_⟩
      obtain ⟨q, hq, heq⟩ := hrest r hr
      exact ⟨q, List.mem_cons_of_mem _ hq, heq⟩

/-- Where a run has ended, no further turn can be taken, unless it has taken as many as it may. -/
theorem Closes.no_turn {limit : Nat} {r : Outcome} (h : x.Closes started limit r turns m v o s' w')
    (hp : x.Path started s w turns m v) : turns.length = limit ∨ ∀ t v', ¬ x.Takes started m v t v' := by
  have hended : m.isEnded = true → ∀ t v', ¬ x.Takes started m v t v' := fun he t v' ht => by
    rw [ht.isOpen] at he
    cases he
  cases h with
  | resting he _ => exact Or.inr (hended he)
  | completed he _ _ => exact Or.inr (hended he)
  | dangling _ _ _ hs _ =>
    refine Or.inr fun t v' ht => ?_
    rw [ht.named] at hs
    cases hs
  | timedOut _ hl _ => exact Or.inr fun t v' ht => Nat.not_lt_of_le hl ht.inTime
  | exhausted _ _ hn _ => exact Or.inl hn
  | halted ht hh _ => exact Or.inr (hended (Session.isEnded_of_cursor_none (hp.cursor_halt ht hh)))

/-- Whether a run goes on can be told from its turns. -/
theorem Ran.goesOn (h : x.Ran s w turns o s' w') (hs : s.state.isCompleted = false)
    (ht : ∀ t ∈ turns, t.record.after.isCompleted = false ∧ t.decision = .proceed) : x.GoesOn s w := by
  obtain ⟨m, v, s₁, v₁, hasked, hcloses, -, -⟩ := h.course
  refine ⟨hs, fun us m' v' hpath hlimit u hu => ?_⟩
  have hend := (hcloses.no_turn hasked.path).imp_left fun hlength => hlimit.trans (Nat.le_of_eq hlength.symm)
  obtain ⟨t, htmem, hsilent⟩ := hasked.path.among hpath hend u hu
  rw [← record_silent, ← decision_silent, hsilent]
  exact ht t htmem

/-- So it can from the records that it leaves: if none of them tells a completed state or a failed step, the run has gone
on. -/
theorem Ran.goesOn_of_records (h : x.Ran s w turns o s' w') (hs : s.state.isCompleted = false)
    (hr : ∀ r ∈ s'.trace, r.after.isCompleted = false ∧ r.status ≠ .failed) : x.GoesOn s w := by
  obtain ⟨m, v, es, d, hpath, -, -⟩ := h.stops
  refine h.goesOn hs fun t ht => ?_
  have hmem : t.record ∈ s'.trace := by
    rw [h.trace]
    exact List.mem_append_right _ (List.mem_map_of_mem ht)
  obtain ⟨hafter, hstatus⟩ := hr t.record hmem
  exact ⟨hafter, (hpath.decidedOn t ht).proceed hstatus⟩

/-- A run that no turn halts ends at the first of its limits: its steps, its time and its turns. -/
theorem Closes.first_limit {limit n k : Nat} {r : Outcome} (h : x.Closes started limit r turns m v o s' w')
    (hr : r = .completed) (hd : ∀ t ∈ turns, t.decision ≠ .halt) (hended : m.isEnded = true ↔ n ≤ turns.length)
    (hnamed : m.isEnded = false → m.currentStep? ≠ none)
    (hlate : m.options.timeout ≤ Instant.elapsed started (x.now v).1 ↔ k ≤ turns.length) (hn : turns.length ≤ n)
    (hk : turns.length ≤ k) (hlimit : turns.length ≤ limit) : turns.length = min n (min k limit) ∧
      o = if n ≤ k ∧ n ≤ limit then .completed else if k ≤ limit then .timedOut else .exhaustedIterations := by
  have hopen : m.isEnded = false → turns.length < n := fun he => by
    refine Nat.lt_of_not_le fun hle => ?_
    rw [hended.mpr hle] at he
    cases he
  have hcompleted : m.isEnded = true → turns.length = min n (min k limit) ∧ Outcome.completed =
      if n ≤ k ∧ n ≤ limit then .completed else if k ≤ limit then .timedOut else .exhaustedIterations := fun he => by
    have hle := hended.mp he
    rw [if_pos ⟨by omega, by omega⟩]
    exact ⟨by omega, rfl⟩
  cases h with
  | resting he _ =>
    rw [hr]
    exact hcompleted he
  | completed he _ _ => exact hcompleted he
  | dangling he _ _ hs _ => exact absurd hs (hnamed he)
  | timedOut he hl _ =>
    have hlt := hopen he
    have hle := hlate.mp hl
    rw [if_neg (by omega), if_pos (by omega)]
    exact ⟨by omega, rfl⟩
  | exhausted he hl hlength _ =>
    have hlt := hopen he
    have htime : turns.length < k := Nat.lt_of_not_le fun hle => Nat.not_lt_of_le (hlate.mpr hle) hl
    rw [if_neg (by omega), if_neg (by omega)]
    exact ⟨by omega, rfl⟩
  | @halted us t ht hh _ => exact absurd hh (hd t (by simp [ht]))

end Course

/-! ## Runs on a steady clock -/

section Pace
variable {σ : Type} {x : Executor (World σ)} {p : Program} {runId : String} {initial : State} {options : Options}
  {w : World σ} {d : Duration}

namespace GoesOn

variable (hgo : x.GoesOn (.start runId p initial options) w) (hx : x.KeepsTime) (hn : (p.steps.map (·.name)).Nodup)
  (hfirst : (Session.start runId p initial options).cursor = p.firstName?) (hc : w.clock.Steady d)
  (hleap : w.clock.time.isLeap = false)
include hgo hx hn hfirst hc hleap

theorem marches {turns : List (Turn (World σ))} {m : Session} {v : World σ}
    (hpath : x.Path (x.now w).1 (.start runId p initial options) (x.now w).2 turns m v)
    (hlimit : turns.length ≤ options.maxIterations) : Marched p options w.clock d turns.length m v := by
  have hturns := hgo.2 turns m v hpath hlimit
  have hcursor : (Session.start runId p initial options).cursor = p.steps[0]?.map (·.name) := by
    rw [hfirst, Program.firstName?, List.head?_eq_getElem?]
  have hclock : w.clock = w.clock.after d 0 := by rw [VirtualClock.after_zero]
  rw [hx.now_time, hx.now_world] at hpath
  have hmarched := hpath.marches ⟨Nat.zero_le _, Nat.zero_le _, rfl, rfl, hgo.1, hcursor, hclock⟩ hx hc hleap hn hturns
  rwa [Nat.zero_add] at hmarched

/-- If the calendar goes on to the last step for which there is room, then the run ends. -/
theorem run_isSome (hlast : (w.clock.after d (min p.steps.length
    (min (options.timeout ⌈/⌉ d) options.maxIterations))).time ≤ Instant.last) :
    (x.run (.start runId p initial options) w).isSome = true := by
  by_contra hsome
  have hrun := Option.not_isSome_iff_eq_none.mp hsome
  obtain ⟨turns, m, v, step, hdue, hnone⟩ := run_eq_none_iff.mp hrun
  have hlimit : turns.length < options.maxIterations := hdue.room
  have hm := hgo.marches hx hn hfirst hc hleap hdue.course (Nat.le_of_lt hlimit)
  have htime := hdue.inTime
  rw [hx.now_time w] at htime
  -- There was room for one step more, and the clock can move on after it.
  have hsteps : turns.length < p.steps.length := Nat.lt_of_not_le fun hle => by
    have hopen := hdue.isOpen
    rw [hm.isEnded_iff.mpr hle] at hopen
    cases hopen
  have hbudget : turns.length < options.timeout ⌈/⌉ d := Nat.lt_of_not_le fun hle =>
    Nat.not_lt_of_le ((hm.late_iff hx hleap hc.positive).mpr hle) htime
  have hroom : turns.length + 1 ≤ min p.steps.length (min (options.timeout ⌈/⌉ d) options.maxIterations) :=
    le_min hsteps (le_min hbudget hlimit)
  have hends := hm.iterate_isSome hx hc ((VirtualClock.time_after_le _ d hroom).trans hlast) step
  rw [iterate_eq_none_iff.mpr hnone] at hends
  cases hends

/-- The turns of the run, its outcome and its time. -/
theorem counts {turns : List (Turn (World σ))} {o : Outcome} {s' : Session} {w' : World σ}
    (hran : x.Ran (.start runId p initial options) w turns o s' w') :
    let n := p.steps.length
    let k := options.timeout ⌈/⌉ d
    let limit := options.maxIterations
    turns.length = min n (min k limit) ∧
      (o = if n ≤ k ∧ n ≤ limit then .completed else if k ≤ limit then .timedOut else .exhaustedIterations) ∧
      s'.active = turns.length * d := by
  intro n k limit
  obtain ⟨m, v, s₁, v₁, hasked, hcloses, rfl, -⟩ := hran.course
  have hlimit : turns.length ≤ limit := hran.within
  have hm := hgo.marches hx hn hfirst hc hleap hasked.path hlimit
  rw [hx.now_time w] at hcloses
  have hnamed : m.isEnded = false → m.currentStep? ≠ none := fun he hnone => by
    rw [hm.currentStep?_eq hn, List.getElem?_eq_none_iff, ← hm.isEnded_iff, he] at hnone
    cases hnone
  have hnohalt : ∀ t ∈ turns, t.decision ≠ .halt := fun t ht => by
    rw [(hgo.2 turns m v hasked.path hlimit t ht).2]
    decide
  obtain ⟨hlength, ho⟩ :=
    hcloses.first_limit rfl hnohalt hm.isEnded_iff hnamed (hm.late_iff hx hleap hc.positive) hm.within hm.inTime hlimit
  refine ⟨hlength, ho, ?_⟩
  -- Neither the turns nor the end of the run have added to the time spent before.
  have hspent : s₁.active = 0 := by
    obtain ⟨es, -, rfl⟩ := hcloses.stops
    exact congrArg Session.active hasked.path.constant
  rw [Session.finish, hspent, hx.closes hcloses, hx.now_time w, hm.elapsed_eq hx hleap]
  exact Nat.zero_add _

end GoesOn

/-- **The pace of a steady clock.** Take a program of `n` steps, all with different names, and run it from its first
step on a virtual clock that nothing moves but the end of a step, each time by the same duration `d`. Let the clock start
outside leap seconds, with room in the calendar for as many steps as the run may take. Let `k` be the number of these
durations that the time budget holds, a broken part counted as a whole. If the state is never completed and every step is
followed by the next one, then the run ends, with one record for each step up to the least of `n`, `k` and the number of
iterations that it may take. It completes if both limits leave room for all steps; otherwise its time is up, also where
both limits are met at once, unless the iterations are fewer. The time that it has spent is `d` for every record. -/
theorem steady_clock_counts (hx : x.KeepsTime) (hn : (p.steps.map (·.name)).Nodup)
    (hfirst : (Session.start runId p initial options).cursor = p.firstName?) (hc : w.clock.Steady d)
    (hleap : w.clock.time.isLeap = false)
    (hlast : (w.clock.after d (min p.steps.length (min (options.timeout ⌈/⌉ d) options.maxIterations))).time ≤
      Instant.last)
    (hgo : x.GoesOn (.start runId p initial options) w) :
    let n := p.steps.length
    let k := options.timeout ⌈/⌉ d
    let limit := options.maxIterations
    ∃ o s' w', x.run (.start runId p initial options) w = some (o, s', w') ∧ s'.trace.length = min n (min k limit) ∧
      (o = if n ≤ k ∧ n ≤ limit then .completed else if k ≤ limit then .timedOut else .exhaustedIterations) ∧
      s'.active = s'.trace.length * d := by
  intro n k limit
  obtain ⟨⟨o, s', w'⟩, hrun⟩ := Option.isSome_iff_exists.mp (hgo.run_isSome hx hn hfirst hc hleap hlast)
  obtain ⟨turns, hran⟩ := x.run_ran hrun
  obtain ⟨hlength, ho, hactive⟩ := hgo.counts hx hn hfirst hc hleap hran
  have htrace : s'.trace.length = turns.length := by
    rw [hran.trace, List.length_append, List.length_map]
    exact Nat.zero_add _
  rw [← htrace] at hlength hactive
  exact ⟨o, s', w', hrun, hlength, ho, hactive⟩

end Pace

/-- Whether a run goes on can be seen from the records that it leaves. -/
theorem goesOn_of_seen {ω : Type} {x : Executor ω} {s : Session} {w : ω} (hs : s.state.isCompleted = false)
    (hseen : (x.run s w).map (fun r => r.2.1.trace.all fun r => !r.after.isCompleted && r.status != .failed) =
      some true) : x.GoesOn s w := by
  obtain ⟨⟨o, s', w'⟩, hrun, hall⟩ := Option.map_eq_some_iff.mp hseen
  obtain ⟨turns, hran⟩ := x.run_ran hrun
  refine hran.goesOn_of_records hs fun r hr => ?_
  have hrecord := List.all_eq_true.mp hall r hr
  rw [Bool.and_eq_true, Bool.not_eq_true', bne_iff_ne] at hrecord
  exact hrecord

/-- A budget of thirty seconds lasts for two of three steps that take twenty seconds each. -/
theorem steady_clock_counts_slow : (standard : Executor (World Unit)).KeepsTime ∧
    (Session.threeSteps.steps.map (·.name)).Nodup ∧ Session.freshSession.cursor = Session.threeSteps.firstName? ∧
    Session.slowWorld.clock.Steady (.ofMillis 20000) ∧ Session.slowWorld.clock.time.isLeap = false ∧
    standard.GoesOn Session.freshSession Session.slowWorld ∧
    ∃ s' w', standard.run Session.freshSession Session.slowWorld = some (.timedOut, s', w') ∧ s'.trace.length = 2 ∧
      s'.active = .ofMillis 40000 := by
  have hnodup : (Session.threeSteps.steps.map (·.name)).Nodup := by decide
  have hfirst : Session.freshSession.cursor = Session.threeSteps.firstName? := by decide
  have hsteady : Session.slowWorld.clock.Steady (.ofMillis 20000) := ⟨rfl, by decide, by decide, by decide⟩
  have hleap : Session.slowWorld.clock.time.isLeap = false := by decide
  have hgoes : standard.GoesOn Session.freshSession Session.slowWorld := goesOn_of_seen (by decide) (by decide +kernel)
  refine ⟨standard_keepsTime, hnodup, hfirst, hsteady, hleap, hgoes, ?_⟩
  obtain ⟨o, s', w', hrun, hlength, ho, hactive⟩ :=
    steady_clock_counts standard_keepsTime hnodup hfirst hsteady hleap (by decide) hgoes
  have hrecords : s'.trace.length = 2 := hlength.trans (by decide)
  obtain rfl : o = .timedOut := ho.trans (by decide)
  rw [hrecords] at hactive
  exact ⟨s', w', hrun, hrecords, hactive⟩

/-- A world whose clock starts with the leap second of the year 2016, and moves on by fifteen seconds after each step. -/
def leapWorld : World Unit := ⟨⟨⟨1483228799, 1000000000, by decide⟩, some (.ofMillis 15000)⟩, false, ()⟩

/-- A budget of thirty seconds holds fifteen seconds twice. Yet from a leap second at the end of a day it lasts for three
steps that take them: the next day begins without any time gone, so the run completes, and has taken a second less than
its steps. And where the calendar ends before the last step does, the run has no result. -/
theorem leap_second_gains_a_step : (standard : Executor (World Unit)).KeepsTime ∧
    (Session.threeSteps.steps.map (·.name)).Nodup ∧ Session.freshSession.cursor = Session.threeSteps.firstName? ∧
    leapWorld.clock.Steady (.ofMillis 15000) ∧ (leapWorld.clock.after (.ofMillis 15000) 3).time ≤ Instant.last ∧
    standard.GoesOn Session.freshSession leapWorld ∧
    Session.freshSession.options.timeout ⌈/⌉ Duration.ofMillis 15000 = 2 ∧
    (∃ s' w', standard.run Session.freshSession leapWorld = some (.completed, s', w') ∧ s'.trace.length = 3 ∧
      s'.active = .ofMillis 44000) ∧
    standard.run Session.freshSession ⟨⟨.ofMillis 8210266876797999, some (.ofMillis 1000)⟩, false, ()⟩ = none := by
  have hgoes : standard.GoesOn Session.freshSession leapWorld := goesOn_of_seen (by decide) (by decide +kernel)
  have hseen : (standard.run Session.freshSession leapWorld).map (fun r =>
      (r.1, r.2.1.trace.length, r.2.1.active)) = some (.completed, 3, .ofMillis 44000) := by decide +kernel
  have hends : (standard.run Session.freshSession
      ⟨⟨.ofMillis 8210266876797999, some (.ofMillis 1000)⟩, false, ()⟩).isNone = true := by decide +kernel
  obtain ⟨⟨o, s', w'⟩, hrun, heq⟩ := Option.map_eq_some_iff.mp hseen
  simp only [Prod.mk.injEq] at heq
  obtain ⟨rfl, hlength, hactive⟩ := heq
  exact ⟨standard_keepsTime, by decide, by decide, ⟨rfl, by decide, by decide, by decide⟩, by decide, hgoes, by decide,
    ⟨s', w', hrun, hlength, hactive⟩, Option.isNone_iff_eq_none.mp hends⟩

end Executor

end Runbook
