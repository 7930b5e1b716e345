import Runbook.Proofs.Dispatch

/-!
# The cancellation flag

The flag is looked at before every action, and nothing takes it back. So behind the question by which it was set no
action is called.

* `Executor.StaysCancelled` : a set flag stays set, whatever the strategies and the clock do; `Executor.Flagged` : it was
  set before some questions, or by one of them;
* `Executor.Passes` : questions put one after the other, with what the flag makes of them; `Passes.final`,
  `Passes.flagged` : under a set flag none of them is a call;
* `Checks.passes`, `Applies.passes`, `Performs.passes`, `Decides.passes`, `Asks.passes` : the questions of a turn;
* `Executor.Idle`, `idle_of_performs` : how a step ends that calls nothing;
* `Begun`, `Executor.Stilled`, `Asks.stilled` : what becomes of a step begun under a set flag.
-/

namespace Runbook

variable {ω : Type}

/-- The world in which a question is put. -/
def Event.world : Event ω → ω
  | .evaluation e => e.world
  | .call c => c.world
  | .consultation c => c.world

/-- A turn, with the world in which it began. -/
structure Begun (ω : Type) extends Turn ω where
  world : ω

namespace Executor

variable {x : Executor ω}

/-! ## The flag -/

section Flag
variable (x)

/-- A set flag stays set: neither a strategy nor the clock takes it back. -/
structure StaysCancelled : Prop where
  evaluate : ∀ c s {w}, x.isCancelled w = true → x.isCancelled (x.evaluate c s w).2 = true
  dispatch : ∀ a s {w}, x.isCancelled w = true → x.isCancelled (x.dispatch a s w).2.2 = true
  recover : ∀ step e n {w}, x.isCancelled w = true → x.isCancelled (x.recover step e n w).2 = true
  now : ∀ {w}, x.isCancelled w = true → x.isCancelled (x.now w).2 = true
  tick : ∀ {w v}, x.stepFinished? w = some v → x.isCancelled w = true → x.isCancelled v = true

/-- The world that the answer to a question leaves. -/
def afterward : Event ω → ω
  | .evaluation e => (x.evaluate e.condition e.state e.world).2
  | .call c => (x.dispatch c.action c.state c.world).2.2
  | .consultation c => (x.recover c.step c.error c.attempt c.world).2

/-- The flag has been set before some questions, which begin in a world, or by one of them. -/
def Flagged (w : ω) (log : List (Event ω)) : Prop :=
  x.isCancelled w = true ∨ ∃ e ∈ log, x.isCancelled (x.afterward e) = true

/-- Questions put one after the other, from one world to another: in between a set flag stays set, and under it no action
is called. -/
inductive Passes : ω → List (Event ω) → ω → Prop
  | nil {w w'} (stays : x.isCancelled w = true → x.isCancelled w' = true) : Passes w [] w'
  | cons {w e es w'} (reached : x.isCancelled w = true → x.isCancelled e.world = true)
      (free : ∀ c, e = .call c → x.isCancelled c.world = false) (rest : Passes (x.afterward e) es w') :
      Passes w (e :: es) w'

end Flag

theorem StaysCancelled.afterward (hx : x.StaysCancelled) {e : Event ω} (h : x.isCancelled e.world = true) :
    x.isCancelled (x.afterward e) = true := by
  cases e with
  | evaluation e => exact hx.evaluate _ _ h
  | call c => exact hx.dispatch _ _ h
  | consultation c => exact hx.recover _ _ _ h

namespace Passes

variable {w v w' : ω} {as bs es : List (Event ω)}

theorem before (h : x.Passes v es w') (hw : x.isCancelled w = true → x.isCancelled v = true) : x.Passes w es w' := by
  cases h with
  | nil stays => exact .nil (stays ∘ hw)
  | cons reached free rest => exact .cons (reached ∘ hw) free rest

theorem append (ha : x.Passes w as v) (hb : x.Passes v bs w') : x.Passes w (as ++ bs) w' := by
  induction ha with
  | nil stays => exact hb.before stays
  | cons reached free _ ih => exact .cons reached free (ih hb)

theorem upto (h : x.Passes w es v) (hv : x.isCancelled v = true → x.isCancelled w' = true) : x.Passes w es w' := by
  have happend := h.append (.nil hv)
  rwa [List.append_nil] at happend

theorem free_of_mem (h : x.Passes w es w') : ∀ c ∈ Event.calls es, x.isCancelled c.world = false := by
  induction h with
  | nil => nofun
  | @cons w e es w' _ free _ ih =>
    cases e with
    | evaluation e => exact ih
    | call c => exact List.forall_mem_cons.mpr ⟨free c rfl, ih⟩
    | consultation c => exact ih

/-- Under a set flag nothing is called, and it is still set at the end. -/
theorem final (hx : x.StaysCancelled) (h : x.Passes w es w') (hw : x.isCancelled w = true) :
    Event.calls es = [] ∧ x.isCancelled w' = true := by
  induction h with
  | nil stays => exact ⟨rfl, stays hw⟩
  | @cons w e es w' reached free _ ih =>
    have hworld := reached hw
    obtain ⟨hcalls, hend⟩ := ih (hx.afterward hworld)
    refine ⟨?_, hend⟩
    cases e with
    | evaluation e => exact hcalls
    | call c => exact absurd (hworld.symm.trans (free c rfl)) (by decide)
    | consultation c => exact hcalls

/-- Behind the question that set the flag nothing is called. -/
theorem flagged (hx : x.StaysCancelled) (h : x.Passes w (as ++ bs) w') (hf : x.Flagged w as) :
    Event.calls bs = [] ∧ x.isCancelled w' = true := by
  -- A set flag is carried along the questions in front, up to those that are then under it.
  induction as generalizing w with
  | nil =>
    rcases hf with hw | ⟨e, he, -⟩
    · exact h.final hx hw
    · cases he
  | cons e as ih =>
    cases h with
    | cons reached free rest =>
      refine ih rest ?_
      rcases hf with hw | ⟨d, hd, hset⟩
      · exact Or.inl (hx.afterward (reached hw))
      rcases List.mem_cons.mp hd with rfl | hd
      · exact Or.inl hset
      · exact Or.inr ⟨d, hd, hset⟩

theorem flagged_end (hx : x.StaysCancelled) (h : x.Passes w es w') (hf : x.Flagged w es) :
    x.isCancelled w' = true := by
  rw [← List.append_nil es] at h
  exact (h.flagged hx hf).2

end Passes

/-! ## The questions of a turn -/

section Questions
variable {w w' : ω} {s s' : State} {es : List (Evaluation ω)} {cs : List (Call ω)}

theorem Checks.passes {conditions : List String} {r : Except StepError (Option String)}
    (h : x.Checks s conditions w es r w') : x.Passes w (es.map .evaluation) w' := by
  induction h with
  | nil w => exact .nil id
  | error _ => exact .cons id nofun (.nil id)
  | unmet _ => exact .cons id nofun (.nil id)
  | met _ _ ih => exact .cons id nofun ih

theorem Applies.passes {actions : List String} {r : Except StepError Unit} (h : x.Applies actions s w cs r s' w') :
    x.Passes w (cs.map .call) w' := by
  -- The flag is looked at before each action.
  have free : ∀ {c : Call ω}, x.isCancelled c.world = false →
      ∀ d, Event.call c = .call d → x.isCancelled d.world = false := by
    rintro c hc d ⟨⟩
    exact hc
  induction h with
  | nil => exact .nil id
  | cancelled _ => exact .nil id
  | error hc _ => exact .cons id (free hc) (.nil id)
  | done hc _ _ ih => exact .cons id (free hc) ih

theorem Performs.passes {step : Step} {ending : StepEnd} (h : x.Performs step s w es cs ending s' w') :
    x.Passes w (es.map .evaluation ++ cs.map .call) w' := by
  cases h with
  | unchecked hc => exact hc.passes.append (.nil id)
  | skipped hc => exact hc.passes.append (.nil id)
  | failed hc ha => exact hc.passes.append ha.passes
  | succeeded hc ha => exact hc.passes.append ha.passes

theorem Decides.passes {mode : Mode} {step : Step} {n : Nat} {ending : StepEnd} {rs : List (Consultation ω)}
    {d : Decision} (h : x.Decides mode step n ending w rs d w') : x.Passes w (rs.map .consultation) w' := by
  cases h with
  | settled _ => exact .nil id
  | strict _ => exact .nil id
  | adaptive _ => exact .cons id nofun (.nil id)

theorem Asks.passes (hx : x.StaysCancelled) {s : Session} {t : Turn ω} (h : x.Asks s w t w') :
    x.Passes w t.events w' := by
  obtain ⟨v, u, hperforms, hdecides, htick⟩ := h
  have hend : x.isCancelled u = true → x.isCancelled w' = true := fun hu => by
    refine hx.tick htick ?_
    split
    · exact hx.now hu
    · exact hu
  -- The clock is looked at before the iteration and before the step, and once more before the decision.
  have hstep := hperforms.passes.before (hx.now ∘ hx.now)
  have hrest := (hdecides.passes.before hx.now).upto hend
  exact hstep.append hrest

end Questions

/-! ## Steps that call nothing -/

section Steps
variable (x)

/-- How a step ends that calls nothing: a condition did not hold or failed, the run was cancelled before the first
action, or there was no action. -/
inductive Idle (t : Turn ω) : Prop
  | skipped {c q} (he : t.ending = .skipped c) (hq : q ∈ t.evaluations) (ha : x.answer q = .done false)
  | failedCondition {e q} (he : t.ending = .failed e) (hq : q ∈ t.evaluations) (ha : (x.answer q).guarded = .error e)
  | cancelled (he : t.ending = .failed .cancelled) (hh : x.AllHold t) (hn : t.step.actions ≠ [])
  | succeeded (he : t.ending = .succeeded) (hh : x.AllHold t) (hn : t.step.actions = [])

/-- What becomes of a step begun under a set flag: it calls nothing and leaves the state as it is; and if all its
conditions hold and it has an action, it fails as cancelled. -/
structure Stilled (b : Begun ω) : Prop where
  begun : x.isCancelled b.world = true
  idle : x.Idle b.toTurn
  calls : b.calls = []
  state : b.after = b.before
  cancelled : x.AllHold b.toTurn → b.step.actions ≠ [] → b.ending = .failed .cancelled

end Steps

theorem idle_of_performs {t : Turn ω} {w w' : ω}
    (h : x.Performs t.step t.before w t.evaluations t.calls t.ending t.after w') (hn : t.calls = []) : x.Idle t := by
  rw [hn] at h
  generalize hend : t.ending = ending at h
  generalize hst : t.after = after at h
  cases h with
  | unchecked hc =>
    obtain ⟨q, hq, ha⟩ := hc.error_mem
    exact .failedCondition hend hq ha
  | skipped hc =>
    obtain ⟨q, hq, ha⟩ := hc.unmet_mem
    exact .skipped hend hq ha
  | failed hc ha =>
    -- No call has failed, so the run was cancelled before the first one.
    obtain ⟨-, ⟨before, c, hlast, -⟩ | ⟨hlength, -, rfl⟩⟩ := ha.failed
    · exact absurd hlast (by simp)
    · exact .cancelled hend hc.allHold (List.ne_nil_of_length_pos hlength)
  | succeeded hc ha => exact .succeeded hend hc.allHold ha.all_done.1.symm

theorem Idle.cancelled_of_allHold {t : Turn ω} (h : x.Idle t) (hh : x.AllHold t) (hn : t.step.actions ≠ []) :
    t.ending = .failed .cancelled := by
  cases h with
  | skipped _ hq ha =>
    have hdone := (hh.2 _ hq).2
    rw [ha] at hdone
    cases hdone
  | failedCondition _ hq ha =>
    rw [(hh.2 _ hq).2] at ha
    cases ha
  | cancelled he _ _ => exact he
  | succeeded _ _ hnone => exact absurd hnone hn

/-- A step begun under a set flag is stilled, and the flag is still set after it. -/
theorem Asks.stilled (hx : x.StaysCancelled) {s : Session} {b : Begun ω} {w' : ω} (h : x.Asks s b.world b.toTurn w')
    (hw : x.isCancelled b.world = true) : x.Stilled b ∧ x.isCancelled w' = true := by
  obtain ⟨hcalls, hend⟩ := (h.passes hx).final hx hw
  rw [calls_turn] at hcalls
  obtain ⟨v, u, hperforms, -⟩ := h
  have hidle := idle_of_performs hperforms hcalls
  have hstate := hperforms.threaded.2
  rw [hcalls] at hstate
  exact ⟨⟨hw, hidle, hcalls, hstate.symm, hidle.cancelled_of_allHold⟩, hend⟩

end Executor

end Runbook
