import Mathlib.Data.List.Nodup
import Mathlib.Data.Nat.Find
import Runbook.Proofs.Progress

/-!
# Cycles

The cursor is a name, and a name stands for the first step that bears it. A program that repeats a name therefore never
gets past the repetition: a run that nothing stops goes back to the first step of that name, again and again.

* `Program.FirstRepeat` : the first repetition of a name; `firstRepeat_of_not_nodup` : a program with a repeated name
  has one;
* `cyclePlace` : the places that the iterations of such a run are at; `cyclePlace_succ` : a place is followed by the next
  one, the last one by the first of the cycle;
* `Path.cycles` : the turns of a path that only goes on are of the steps at those places;
* `repeated_names_cycle` : a run that nothing stops fills its iterations with them.
-/

namespace Runbook

variable {ω : Type}

/-! ## Places -/

/-- The place that the iteration of a number is at, counted from 0, where the step at `j` sends the run back to `i`. -/
def cyclePlace (i j r : Nat) : Nat := if r < j then r else i + (r - j) % (j - i)

theorem cyclePlace_lt {i j : Nat} (h : i < j) (r : Nat) : cyclePlace i j r < j := by
  unfold cyclePlace
  split
  · assumption
  · have hlt : (r - j) % (j - i) < j - i := Nat.mod_lt _ (by omega)
    omega

theorem succ_mod_eq {n : Nat} (hn : 0 < n) (a : Nat) : (a + 1) % n = if a % n + 1 < n then a % n + 1 else 0 := by
  have hlt : a % n < n := Nat.mod_lt a hn
  rw [← Nat.mod_add_mod]
  split
  · exact Nat.mod_eq_of_lt ‹_›
  · have heq : a % n + 1 = n := by omega
    rw [heq, Nat.mod_self]

theorem cyclePlace_succ {i j : Nat} (h : i < j) (r : Nat) :
    cyclePlace i j (r + 1) = if cyclePlace i j r + 1 < j then cyclePlace i j r + 1 else i := by
  unfold cyclePlace
  by_cases hr : r < j
  · by_cases hr' : r + 1 < j
    · simp only [if_pos hr, if_pos hr']
    · have hend : r + 1 - j = 0 := by omega
      simp only [if_pos hr, if_neg hr', hend, Nat.zero_mod, Nat.add_zero]
  · have hr' : ¬ r + 1 < j := by omega
    have hsucc : r + 1 - j = r - j + 1 := by omega
    simp only [if_neg hr, if_neg hr', hsucc, succ_mod_eq (show 0 < j - i by omega)]
    split <;> split <;> omega

/-! ## The first repetition -/

namespace Program

/-- The step at the place `j` is the first one whose name has occurred before, and it has occurred at the place `i`. -/
structure FirstRepeat (p : Program) (i j : Nat) : Prop where
  before : i < j
  distinct : ((p.steps.map (·.name)).take j).Nodup
  repeated : ∃ a b, p.steps[i]? = some a ∧ p.steps[j]? = some b ∧ a.name = b.name

variable {p : Program} {i j k : Nat} {step : Step}

theorem firstRepeat_of_not_nodup (h : ¬ (p.steps.map (·.name)).Nodup) : ∃ i j, p.FirstRepeat i j := by
  have hsome : ∃ n, ¬ ((p.steps.map (·.name)).take n).Nodup :=
    ⟨(p.steps.map (·.name)).length, by rwa [List.take_length]⟩
  -- The shortest beginning that repeats a name ends with the step in question.
  obtain ⟨n, hn, hleast⟩ : ∃ n, ¬ ((p.steps.map (·.name)).take n).Nodup ∧
      ∀ m < n, ((p.steps.map (·.name)).take m).Nodup :=
    ⟨Nat.find hsome, Nat.find_spec hsome, fun m hm => not_not.mp (Nat.find_min hsome hm)⟩
  cases n with
  | zero => exact absurd List.nodup_nil hn
  | succ j =>
    have hdistinct := hleast j (Nat.lt_succ_self j)
    rw [List.take_add_one, List.getElem?_map] at hn
    cases hj : p.steps[j]? with
    | none =>
      rw [hj, Option.map_none, Option.toList_none, List.append_nil] at hn
      exact absurd hdistinct hn
    | some b =>
      rw [hj, Option.map_some, Option.toList_some, ← List.concat_eq_append] at hn
      have hmem : b.name ∈ (p.steps.map (·.name)).take j := by
        by_contra hnot
        exact hn (hdistinct.concat hnot)
      obtain ⟨i, hi⟩ := List.getElem?_of_mem hmem
      have hlt : i < j := by
        have hlength := (List.getElem?_eq_some_iff.mp hi).1
        rw [List.length_take] at hlength
        omega
      rw [List.getElem?_take_of_lt hlt, List.getElem?_map] at hi
      obtain ⟨a, ha, hname⟩ := Option.map_eq_some_iff.mp hi
      exact ⟨i, j, hlt, hdistinct, a, b, ha, hj, hname⟩

namespace FirstRepeat

theorem getElem?_eq (h : p.FirstRepeat i j) (hk : k ≤ j) : ∃ step, p.steps[k]? = some step := by
  obtain ⟨a, b, -, hb, -⟩ := h.repeated
  have hlt := (List.getElem?_eq_some_iff.mp hb).1
  exact ⟨_, List.getElem?_eq_getElem (Nat.lt_of_le_of_lt hk hlt)⟩

/-- Up to the repetition every step is the first of its name. -/
theorem first (h : p.FirstRepeat i j) (hk : k < j) (hs : p.steps[k]? = some step) :
    ∀ l < k, ∀ a, p.steps[l]? = some a → a.name ≠ step.name := by
  intro l hl a ha hname
  have hat : ∀ {q : Nat} {c : Step}, q < j → p.steps[q]? = some c →
      ((p.steps.map (·.name)).take j)[q]? = some c.name := fun hq hc => by
    rw [List.getElem?_take_of_lt hq, List.getElem?_map, hc, Option.map_some]
  have hleft := hat (hl.trans hk) ha
  rw [hname] at hleft
  have heq := (List.getElem?_inj (List.getElem?_eq_some_iff.mp hleft).1 h.distinct).mp (hleft.trans (hat hk hs).symm)
  omega

theorem step?_eq (h : p.FirstRepeat i j) (hk : k < j) (hs : p.steps[k]? = some step) : p.step? step.name = some step :=
  step?_of_first hs (h.first hk hs)

/-- The step after the one at a place of the cycle, by name, is the one at the next place of the cycle. -/
theorem nextName?_eq (h : p.FirstRepeat i j) {r : Nat} (hs : p.steps[cyclePlace i j r]? = some step) :
    p.nextName? step.name = p.steps[cyclePlace i j (r + 1)]?.map (·.name) := by
  have hlt := cyclePlace_lt h.before r
  rw [nextName?, position?_of_first hs (h.first hlt hs), Option.bind_some, cyclePlace_succ h.before]
  split
  · rfl
  · have hend : cyclePlace i j r + 1 = j := by omega
    obtain ⟨a, b, ha, hb, hname⟩ := h.repeated
    rw [hend, ha, hb, Option.map_some, Option.map_some, hname]

end FirstRepeat

end Program

/-! ## Paths and runs -/

namespace Executor

variable {x : Executor ω} {started : Instant} {s m : Session} {w v : ω} {turns : List (Turn ω)} {i j r : Nat}

/-- A turn of the step at a place of the cycle that goes on leaves the cursor at the next place of the cycle. -/
theorem Takes.cycle {t : Turn ω} (h : x.Takes started s w t v) (hp : s.program.FirstRepeat i j)
    (hc : s.cursor = s.program.steps[cyclePlace i j r]?.map (·.name)) (hd : t.decision = .proceed) :
    s.program.steps[cyclePlace i j r]? = some t.step ∧
      (t.apply s).cursor = s.program.steps[cyclePlace i j (r + 1)]?.map (·.name) := by
  have hlt := cyclePlace_lt hp.before r
  obtain ⟨step, hstep⟩ := hp.getElem?_eq (Nat.le_of_lt hlt)
  rw [hstep, Option.map_some] at hc
  have hnamed := h.named
  rw [Session.currentStep?, hc, Option.bind_some, hp.step?_eq hlt hstep] at hnamed
  obtain rfl := Option.some.inj hnamed
  refine ⟨hstep, ?_⟩
  rw [t.apply_cursor, hd, hc]
  exact hp.nextName?_eq hstep

/-- The turns of a path that only goes on are of the steps at the places of the cycle, and so is its cursor. -/
theorem Path.cycles (h : x.Path started s w turns m v) (hp : s.program.FirstRepeat i j)
    (hc : s.cursor = s.program.steps[cyclePlace i j r]?.map (·.name)) (hd : ∀ t ∈ turns, t.decision = .proceed) :
    (∀ n t, turns[n]? = some t → s.program.steps[cyclePlace i j (r + n)]? = some t.step) ∧
      m.cursor = s.program.steps[cyclePlace i j (r + turns.length)]?.map (·.name) := by
  induction h generalizing r with
  | nil => exact ⟨by simp, hc⟩
  | @cons s w t w₁ ts m v first rest ih =>
    obtain ⟨hgoes, hrest⟩ := List.forall_mem_cons.mp hd
    obtain ⟨hstep, hcursor⟩ := first.cycle hp hc hgoes
    have hprogram := t.apply_program s
    obtain ⟨hplaces, hend⟩ := ih (r := r + 1) (by rwa [hprogram]) (by rwa [hprogram]) hrest
    rw [hprogram] at hplaces hend
    have hshift : ∀ n, r + 1 + n = r + (n + 1) := fun n => by omega
    refine ⟨fun n u hu => ?_, by rw [hend, hshift, List.length_cons]⟩
    cases n with
    | zero =>
      obtain rfl := Option.some.inj hu
      exact hstep
    | succ n =>
      rw [← hshift]
      exact hplaces n u hu

/-- A run stops in a session with work to do, without a turn that halts it, only at one of its limits. -/
theorem Stops.limited {limit : Nat} {resting o : Outcome} {es : List ErrorRecord} (h : Stops limit resting turns m o es)
    (he : m.isEnded = false) {step : Step} (hs : m.currentStep? = some step) (hd : ∀ t ∈ turns, t.decision ≠ .halt) :
    o = .timedOut ∨ (o = .exhaustedIterations ∧ turns.length = limit) := by
  cases h with
  | resting hended _ => rw [he] at hended; cases hended
  | completed hended _ _ => rw [he] at hended; cases hended
  | dangling _ hnone _ => rw [hs] at hnone; cases hnone
  | timedOut => exact Or.inl rfl
  | exhausted _ _ hn _ => exact Or.inr ⟨rfl, hn⟩
  | @halted ts t ht hh _ => exact absurd hh (hd t (by simp [ht]))

/-- **Repeated names cycle.** Where names of steps are repeated, let `j` be the first place whose name has occurred
before, and `i` the place where it has. A run from the first step breaks off with its clock, or ends; and if its state is
never completed, every decision is to go on and its time is not up, then it takes as many turns as it may and ends because
of their number, and its turn of number `r` is of the step at `r`, or, from `j` on, of that at `i + (r - j) % (j - i)`:
of none at `j` or behind it. -/
theorem repeated_names_cycle {p : Program} (hp : ¬ (p.steps.map (·.name)).Nodup) :
    ∃ i j, p.FirstRepeat i j ∧ ∀ (ω : Type) (x : Executor ω) (s : Session) (w : ω), s.program = p →
      s.cursor = p.firstName? → x.BreaksOff s w ∨ ∃ turns o s' w', x.Ran s w turns o s' w' ∧
        s'.trace = s.trace ++ turns.map Turn.record ∧
        (s.state.isCompleted = false → (∀ t ∈ turns, t.record.after.isCompleted = false ∧ t.decision = .proceed) →
          o ≠ .timedOut → turns.length = s.options.maxIterations ∧ o = .exhaustedIterations ∧
            ∀ r t, turns[r]? = some t → cyclePlace i j r < j ∧ p.steps[cyclePlace i j r]? = some t.step ∧
              t.record.step = t.step.name) := by
  obtain ⟨i, j, hrepeat⟩ := Program.firstRepeat_of_not_nodup hp
  refine ⟨i, j, hrepeat, fun ω x s w hs hc => ?_⟩
  subst hs
  rcases x.breaksOff_or_ran s w with hbreak | ⟨turns, o, s', w', hran⟩
  · exact Or.inl hbreak
  refine Or.inr ⟨turns, o, s', w', hran, hran.trace, fun hopen hturns htime => ?_⟩
  have hd : ∀ t ∈ turns, t.decision = .proceed := fun t ht => (hturns t ht).2
  obtain ⟨m, v, es, d, hpath, hstops, -⟩ := hran.stops
  -- The first step is at the place of iteration 0.
  have hfirst : s.cursor = s.program.steps[cyclePlace i j 0]?.map (·.name) := by
    rw [hc, Program.firstName?, cyclePlace, if_pos (Nat.zero_lt_of_lt hrepeat.before), List.head?_eq_getElem?]
  obtain ⟨hplaces, hcursor⟩ := hpath.cycles hrepeat hfirst hd
  simp only [Nat.zero_add] at hplaces hcursor
  -- So the cursor names a step wherever the path ends, and only a limit stops it.
  have hlt := cyclePlace_lt hrepeat.before turns.length
  obtain ⟨step, hstep⟩ := hrepeat.getElem?_eq (Nat.le_of_lt hlt)
  rw [hstep, Option.map_some] at hcursor
  have hstate : m.state.isCompleted = false :=
    hpath.state_keeps (P := fun s => s.isCompleted = false) hopen fun t ht => by
      rw [← t.record_after]
      exact (hturns t ht).1
  have hended : m.isEnded = false := by rw [Session.isEnded_of_cursor_some hcursor, hstate]
  have hnamed : m.currentStep? = some step := by
    rw [Session.currentStep?, hcursor, Option.bind_some, hpath.program, hrepeat.step?_eq hlt hstep]
  rcases hstops.limited hended hnamed (fun t ht => by rw [hd t ht]; decide) with hlate | ⟨hexhausted, hlength⟩
  · exact absurd hlate htime
  · exact ⟨hlength, hexhausted, fun r t ht => ⟨cyclePlace_lt hrepeat.before r, hplaces r t ht, t.record_step⟩⟩

/-- A program whose last step, which would complete the state, has the name of the second one. -/
def circlingSteps : Program :=
  ⟨"p", "g", [⟨"a", ["set a = true"], []⟩, ⟨"b", ["set b = true"], []⟩, ⟨"c", ["set c = true"], []⟩,
    ⟨"b", ["set completed = true"], []⟩]⟩

/-- A session of it, with seven iterations to a run. -/
def circlingSession : Session := .start "run" circlingSteps .empty { maxIterations := 7 }

theorem repeated_names_cycle_circling : ¬ (circlingSteps.steps.map (·.name)).Nodup ∧
    ∃ i j, circlingSteps.FirstRepeat i j ∧ ∃ turns o s' w',
      standard.Ran circlingSession (.frozen 0 ()) turns o s' w' ∧ turns.length = 7 ∧ o = .exhaustedIterations ∧
      ∀ r t, turns[r]? = some t → circlingSteps.steps[cyclePlace i j r]? = some t.step := by
  have hrepeats : ¬ (circlingSteps.steps.map (·.name)).Nodup := by decide
  have hruns : (standard.run circlingSession (.frozen 0 ())).map (fun r => (r.1, r.2.1.trace.all fun r =>
      !r.after.isCompleted && r.status != .failed)) = some (.exhaustedIterations, true) := by decide +kernel
  refine ⟨hrepeats, ?_⟩
  obtain ⟨i, j, hrepeat, hcycles⟩ := repeated_names_cycle hrepeats
  refine ⟨i, j, hrepeat, ?_⟩
  rcases hcycles (World Unit) standard circlingSession (.frozen 0 ()) rfl rfl with
    ⟨hnone, -⟩ | ⟨turns, o, s', w', hran, htrace, hcycle⟩
  · rw [hnone] at hruns
    cases hruns
  rw [hran.ends, Option.map_some] at hruns
  obtain ⟨ho, hall⟩ := Prod.mk.inj (Option.some.inj hruns)
  obtain ⟨m, v, es, d, hpath, -, -⟩ := hran.stops
  have hturns : ∀ t ∈ turns, t.record.after.isCompleted = false ∧ t.decision = .proceed := fun t ht => by
    have hmem : t.record ∈ s'.trace := by
      rw [htrace]
      exact List.mem_append_right _ (List.mem_map_of_mem ht)
    have hrecord := List.all_eq_true.mp hall _ hmem
    rw [Bool.and_eq_true, Bool.not_eq_true', bne_iff_ne] at hrecord
    exact ⟨hrecord.1, (hpath.decidedOn t ht).proceed hrecord.2⟩
  obtain ⟨hlength, hexhausted, hplaces⟩ := hcycle (by decide) hturns (by rw [show o = _ from ho]; decide)
  exact ⟨turns, o, s', w', hran, hlength, hexhausted, fun r t ht => (hplaces r t ht).2.1⟩

end Executor

end Runbook
