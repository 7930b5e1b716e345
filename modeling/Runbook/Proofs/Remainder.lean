import Runbook.Proofs.Progress
import Runbook.Proofs.Restored

/-!
# The remainder of a program

Where all names of steps are different, a run that starts at a step looks at nothing before it. It is the run of the
program that begins there.

* `Program.rest`, `rest_agrees` : the steps of a program from a position on, found by name as in the whole program;
* `Path.constant` : what no path changes;
* `run_same` : sessions that differ in nothing a run looks at are run to the same;
* `resumed_runs_rest` : a session that starts at a step is run as one of the rest of its program.
-/

namespace Runbook

variable {ω : Type}

/-! ## Steps from a position on -/

namespace Program

variable {p : Program}

/-- The program without the steps before a position. -/
def rest (p : Program) (k : Nat) : Program := { p with steps := p.steps.drop k }

theorem rest_getElem? (p : Program) (k j : Nat) : (p.rest k).steps[j]? = p.steps[k + j]? := List.getElem?_drop

theorem rest_nodup (hn : (p.steps.map (·.name)).Nodup) (k : Nat) : ((p.rest k).steps.map (·.name)).Nodup := by
  have hdrop : (p.rest k).steps.map (·.name) = (p.steps.map (·.name)).drop k := List.map_drop
  rw [hdrop]
  exact hn.sublist (List.drop_sublist k _)

theorem rest_firstName? {k : Nat} {step : Step} (hk : p.steps[k]? = some step) :
    (p.rest k).firstName? = some step.name := by
  rw [firstName?, List.head?_eq_getElem?, rest_getElem?, Nat.add_zero, hk, Option.map_some]

/-- The whole program and the rest agree on the names of the rest, which are followed by such names. -/
theorem rest_agrees (hn : (p.steps.map (·.name)).Nodup) (k : Nat) :
    AgreeOn (fun _ => True) (fun name => ∃ j step, p.steps[k + j]? = some step ∧ step.name = name) p (p.rest k) where
  step := by
    rintro _ ⟨j, step, hstep, rfl⟩
    have hrest : (p.rest k).steps[j]? = some step := by rw [rest_getElem?, hstep]
    rw [step?_getElem hn hstep, step?_getElem (rest_nodup hn k) hrest]
  next := by
    rintro _ ⟨j, step, hstep, rfl⟩
    have hrest : (p.rest k).steps[j]? = some step := by rw [rest_getElem?, hstep]
    rw [nextName?_getElem hn hstep, nextName?_getElem (rest_nodup hn k) hrest, rest_getElem?, Nat.add_assoc]
  known _ _ := trivial
  closed := by
    rintro _ m ⟨j, step, hstep, rfl⟩ hm
    rw [nextName?_getElem hn hstep, Nat.add_assoc] at hm
    obtain ⟨next, hnext, hname⟩ := Option.map_eq_some_iff.mp hm
    exact ⟨j + 1, next, hnext, hname⟩

end Program

/-! ## Runs of sessions that are alike -/

namespace Executor

variable {x : Executor ω} {s f m : Session} {w v : ω} {turns : List (Turn ω)}

/-- A path changes neither the identifier of its session, nor the program, the options, the time spent and the outcome
of the latest run. -/
theorem Path.constant {started : Instant} (h : x.Path started s w turns m v) : m =
    { s with
      state := m.state
      cursor := m.cursor
      trace := m.trace
      errors := m.errors
      checkpoints := m.checkpoints
      attempt := m.attempt } := by
  induction h with
  | nil => rfl
  | @cons s w t w₁ ts m v first rest ih =>
    rw [t.apply_eq] at ih
    exact ih

theorem Abreast.eq_of_same {started : Instant} {s' f' : Session} (h : x.Abreast .same started s w f v s' f')
    (htrace : s.trace = f.trace) (herrors : s.errors = f.errors) (hcheckpoints : s.checkpoints = f.checkpoints)
    (hactive : s.active = f.active) (houtcome : s.outcome = f.outcome) :
    f' = { s' with runId := f.runId, program := f.program, options := f.options } := by
  obtain ⟨turns, turns', m, m', u, u', es, hpath, hpath', hturns, hafter, rfl, rfl⟩ := h
  -- Alike turns add the same records, errors and checkpoints.
  have hsilent := Turn.Like.silent_map hturns
  have hstate : m'.state = m.state := hafter.state.symm
  have hrecords : m'.trace = m.trace := by
    rw [hpath.trace, hpath'.trace, htrace, ← Turn.map_record_silent, ← hsilent, Turn.map_record_silent]
  have hnoted : m'.errors = m.errors := by
    rw [hpath.errors, hpath'.errors, herrors, ← Turn.flatMap_errors_silent turns', ← hsilent,
      Turn.flatMap_errors_silent]
  have hstored : m'.checkpoints = m.checkpoints := by
    rw [hpath.checkpoints, hpath'.checkpoints, hcheckpoints, htrace, ← Turn.captured_silent _ turns', ← hsilent,
      Turn.captured_silent]
  have hm := hpath.constant
  have hm' := hpath'.constant
  rw [hstate, hrecords, hnoted, hstored, ← hafter.cursor, ← hafter.attempt, ← hactive, ← houtcome] at hm'
  rw [hm', hm]

/-- Sessions that differ in nothing a run looks at are run to the same: both runs break off, or both end with the same
outcome in the same world, and what they leave differs as the sessions did. -/
theorem run_same (ha : s.Alike (.same : Likeness ω) f) (ht : s.options.timeout = f.options.timeout)
    (hm : s.options.maxIterations = f.options.maxIterations) (htrace : s.trace = f.trace)
    (herrors : s.errors = f.errors) (hcheckpoints : s.checkpoints = f.checkpoints) (hactive : s.active = f.active)
    (houtcome : s.outcome = f.outcome) : (x.BreaksOff s w ∧ x.BreaksOff f w) ∨
      ∃ o s' w', x.run s w = some (o, s', w') ∧
        x.run f w = some (o, { s' with runId := f.runId, program := f.program, options := f.options }, w') := by
  rcases run_alike x.respects_same x.inStep_same ha ht hm (rfl : w = w) with
    hbreaks | ⟨o, o', s', f', d, w', v', hrun, hrun', habreast, hworld, hend⟩
  · exact Or.inl hbreaks
  obtain rfl : w' = v' := hworld
  have ho : o = o' := by
    rcases hend with ⟨-, heq⟩ | ⟨-, hrests, hrests'⟩
    · exact heq
    · rw [hrests, hrests', restingOutcome, restingOutcome, houtcome]
  subst ho
  refine Or.inr ⟨o, _, w', hrun, ?_⟩
  rw [hrun', habreast.eq_of_same htrace herrors hcheckpoints hactive houtcome]
  rfl

/-! ## Sessions that start at a step -/

/-- A session that starts at a step is at the place where one of the rest of its program starts. -/
theorem resumed_alike {p : Program} (hn : (p.steps.map (·.name)).Nodup) {k : Nat} {step : Step}
    (hk : p.steps[k]? = some step) (runId runId' : String) (initial : State) (options : Options) :
    (Session.start runId p initial { options with resumeFrom := some step.name }).Alike (.same : Likeness ω)
      (.start runId' (p.rest k) initial { options with resumeFrom := none }) where
  programs := by
    refine ⟨_, Program.rest_agrees hn k, fun name hname => ⟨0, step, hk, ?_⟩⟩
    exact Option.some.inj hname
  state := rfl
  cursor := (Program.rest_firstName? hk).symm
  attempt := rfl
  mode := rfl
  checkpoint := rfl

/-- **The rest of a program.** Where all names of steps are different, a fresh session that starts at the step of a
position is run as a fresh session of the steps from that position on, in the same state, under the same options and in
the same world: both runs break off, or both have the same outcome and leave the same records, errors and checkpoints,
state and cursor, in short everything but what tells the two sessions apart, and the same world. -/
theorem resumed_runs_rest {p : Program} (hn : (p.steps.map (·.name)).Nodup) {k : Nat} {step : Step}
    (hk : p.steps[k]? = some step) (runId runId' : String) (initial : State) (options : Options) (x : Executor ω)
    (w : ω) :
    let resumed := Session.start runId p initial { options with resumeFrom := some step.name }
    let alone := Session.start runId' (p.rest k) initial { options with resumeFrom := none }
    (x.BreaksOff resumed w ∧ x.BreaksOff alone w) ∨
      ∃ o s' w', x.run resumed w = some (o, s', w') ∧
        x.run alone w = some (o, { s' with runId := runId', program := p.rest k, options := alone.options }, w') :=
  run_same (resumed_alike hn hk runId runId' initial options) rfl rfl rfl rfl rfl rfl rfl

theorem resumed_runs_rest_second : (Session.threeSteps.steps.map (·.name)).Nodup ∧
    Session.threeSteps.steps[1]? = some ⟨"b", ["set b = true"], []⟩ ∧ ∃ o s' w',
      Session.panicking.run (.start "run" Session.threeSteps .empty
        { mode := .adaptive, checkpoint := true, resumeFrom := some "b" }) (.frozen 0 ()) = some (o, s', w') ∧
      (Session.panicking.run
        (.start "rest" (Session.threeSteps.rest 1) .empty { mode := .adaptive, checkpoint := true })
        (.frozen 0 ())).map (fun r => (r.1, r.2.1.trace, r.2.1.errors)) = some (o, s'.trace, s'.errors) ∧
      s'.trace.map (·.step) = ["b", "c"] ∧ s'.errors.length = 2 := by
  have hnodup : (Session.threeSteps.steps.map (·.name)).Nodup := by decide
  have hstep : Session.threeSteps.steps[1]? = some ⟨"b", ["set b = true"], []⟩ := rfl
  refine ⟨hnodup, hstep, ?_⟩
  have hseen : (Session.panicking.run (.start "run" Session.threeSteps .empty
      { mode := .adaptive, checkpoint := true, resumeFrom := some "b" }) (.frozen 0 ())).map (fun r =>
        (r.2.1.trace.map (·.step), r.2.1.errors.length)) = some (["b", "c"], 2) := by decide
  rcases resumed_runs_rest hnodup hstep "run" "rest" .empty { mode := .adaptive, checkpoint := true }
    Session.panicking (.frozen 0 ()) with ⟨⟨hnone, -⟩, -⟩ | ⟨o, s', w', hrun, hrest⟩
  · rw [show Session.panicking.run _ _ = none from hnone] at hseen
    cases hseen
  · rw [show Session.panicking.run _ _ = _ from hrun] at hseen
    obtain ⟨hsteps, herrors⟩ := Prod.mk.inj (Option.some.inj hseen)
    exact ⟨o, s', w', hrun, congrArg (Option.map fun r => (r.1, r.2.1.trace, r.2.1.errors)) hrest, hsteps, herrors⟩

end Executor

end Runbook
