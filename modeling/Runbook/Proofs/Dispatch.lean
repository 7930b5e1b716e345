import Runbook.Proofs.Path

/-!
# Dispatch in order

The calls of a run are those of its turns, one turn after the other: the actions of a step in declared order, each
once, up to the first that fails, and none unless every condition of the step holds.

* `Executor.Threaded`, `Executor.stateAfter` : calls that each receive the state the one before left, and the state
  after the last of them;
* `Executor.Dispatched` : the five ways in which the calls of a turn go with its record;
* `dispatched_of_performs`, `Path.threaded` : what a performed step and a path have called; `Ran.dispatched` : what a run
  has, and `Ticks.dispatched` : every run on a clock that always moves on;
* `run_dispatches_in_order` : the calls of a run, record by record.
-/

namespace Runbook

variable {ω : Type}

namespace Executor

variable {x : Executor ω}

/-! ## Calls in a row -/

section Calls
variable (x)

/-- The state after calls, from a state on: each call writes what the one before left. -/
def stateAfter (s : State) (cs : List (Call ω)) : State := cs.foldl (fun s c => x.effect c s) s

/-- Each call receives the state that the one before left, the first one a given state. -/
def Threaded : State → List (Call ω) → Prop
  | _, [] => True
  | s, c :: cs => c.state = s ∧ Threaded (x.effect c s) cs

theorem stateAfter_append (s : State) (as bs : List (Call ω)) :
    x.stateAfter s (as ++ bs) = x.stateAfter (x.stateAfter s as) bs := List.foldl_append

theorem threaded_append (s : State) (as bs : List (Call ω)) :
    x.Threaded s (as ++ bs) ↔ x.Threaded s as ∧ x.Threaded (x.stateAfter s as) bs := by
  induction as generalizing s with
  | nil => simp [Threaded, stateAfter]
  | cons a as ih =>
    rw [List.cons_append, Threaded, Threaded, ih, and_assoc]
    rfl

end Calls

/-! ## Conditions -/

/-- All conditions are put in the state of the step. -/
theorem Checks.state_eq {state : State} {cs : List String} {w w' : ω} {es : List (Evaluation ω)}
    {r : Except StepError (Option String)} (h : x.Checks state cs w es r w') : ∀ q ∈ es, q.state = state := by
  induction h with
  | nil => simp
  | error _ => simp
  | unmet _ => simp
  | met _ _ ih => simpa using ih

/-- If no condition fails to hold, each has been put once, in order, and held. -/
theorem Checks.all_hold {state : State} {cs : List String} {w w' : ω} {es : List (Evaluation ω)}
    (h : x.Checks state cs w es (.ok none) w') :
    es.map (·.condition) = cs ∧ ∀ q ∈ es, x.answer q = .done true := by
  generalize hr : Except.ok none = r at h
  induction h with
  | nil => simp
  | error _ => cases hr
  | unmet _ => cases hr
  | met hc _ ih =>
    obtain ⟨hmap, hall⟩ := ih hr
    refine ⟨by rw [List.map_cons, hmap], fun q hq => ?_⟩
    rcases List.mem_cons.mp hq with rfl | hq
    · exact Reply.guarded_eq_ok.mp hc
    · exact hall q hq

theorem Checks.unmet_mem {state : State} {cs : List String} {w w' : ω} {es : List (Evaluation ω)} {c : String}
    (h : x.Checks state cs w es (.ok (some c)) w') : ∃ q ∈ es, x.answer q = .done false := by
  generalize hr : Except.ok (some c) = r at h
  induction h with
  | nil => cases hr
  | error _ => cases hr
  | unmet hc =>
    cases hr
    exact ⟨_, List.mem_singleton_self _, Reply.guarded_eq_ok.mp hc⟩
  | met _ _ ih =>
    obtain ⟨q, hq, ha⟩ := ih hr
    exact ⟨q, List.mem_cons_of_mem _ hq, ha⟩

theorem Checks.error_mem {state : State} {cs : List String} {w w' : ω} {es : List (Evaluation ω)} {e : StepError}
    (h : x.Checks state cs w es (.error e) w') : ∃ q ∈ es, (x.answer q).guarded = .error e := by
  generalize hr : Except.error e = r at h
  induction h with
  | nil => cases hr
  | error hc =>
    cases hr
    exact ⟨_, List.mem_singleton_self _, hc⟩
  | unmet _ => cases hr
  | met _ _ ih =>
    obtain ⟨q, hq, ha⟩ := ih hr
    exact ⟨q, List.mem_cons_of_mem _ hq, ha⟩

/-! ## Actions -/

/-- The calls are threaded, and the last of them leaves the state of the step. -/
theorem Applies.threaded {as : List String} {s s' : State} {w w' : ω} {cs : List (Call ω)} {r : Except StepError Unit}
    (h : x.Applies as s w cs r s' w') : x.Threaded s cs ∧ x.stateAfter s cs = s' := by
  induction h with
  | nil => exact ⟨trivial, rfl⟩
  | cancelled _ => exact ⟨trivial, rfl⟩
  | error _ _ => exact ⟨⟨rfl, trivial⟩, rfl⟩
  | done _ _ _ ih => exact ⟨⟨rfl, ih.1⟩, ih.2⟩

/-- If no action fails, each has been called once, in order. -/
theorem Applies.all_done {as : List String} {s s' : State} {w w' : ω} {cs : List (Call ω)}
    (h : x.Applies as s w cs (.ok ()) s' w') :
    cs.map (·.action) = as ∧ ∀ c ∈ cs, x.reply c = .done () := by
  generalize hr : Except.ok () = r at h
  induction h with
  | nil => simp
  | cancelled _ => cases hr
  | error _ _ => cases hr
  | done _ hd _ ih =>
    obtain ⟨hmap, hall⟩ := ih hr
    refine ⟨by rw [List.map_cons, hmap], fun c hc => ?_⟩
    rcases List.mem_cons.mp hc with rfl | hc
    · exact Reply.guarded_eq_ok.mp hd
    · exact hall c hc

/-- Actions that fail were called in order and each once; either the last call failed, or the run was cancelled before
the next. -/
theorem Applies.failed {as : List String} {s s' : State} {w w' : ω} {cs : List (Call ω)} {e : StepError}
    (h : x.Applies as s w cs (.error e) s' w') : cs.map (·.action) <+: as ∧
      ((∃ before c, cs = before ++ [c] ∧ (∀ b ∈ before, x.reply b = .done ()) ∧ (x.reply c).guarded = .error e) ∨
        (cs.length < as.length ∧ (∀ c ∈ cs, x.reply c = .done ()) ∧ e = .cancelled)) := by
  generalize hr : Except.error e = r at h
  induction h with
  | nil => cases hr
  | cancelled _ =>
    cases hr
    exact ⟨List.nil_prefix, Or.inr ⟨by simp, by simp, rfl⟩⟩
  | @error a as s w _ _ hf =>
    cases hr
    exact ⟨by simp, Or.inl ⟨[], ⟨a, s, w⟩, rfl, by simp, hf⟩⟩
  | @done a as s w cs _ _ _ _ hd _ ih =>
    have hdone : x.reply ⟨a, s, w⟩ = .done () := Reply.guarded_eq_ok.mp hd
    obtain ⟨hpre, hcases⟩ := ih hr
    refine ⟨by simpa using hpre, ?_⟩
    rcases hcases with ⟨before, c, rfl, hbefore, hc⟩ | ⟨hlen, hall, he⟩
    · exact Or.inl ⟨⟨a, s, w⟩ :: before, c, rfl, List.forall_mem_cons.mpr ⟨hdone, hbefore⟩, hc⟩
    · exact Or.inr ⟨by simpa using hlen, List.forall_mem_cons.mpr ⟨hdone, hall⟩, he⟩

/-! ## Turns -/

section Turns
variable (x)

/-- Every condition of the step of a turn was put once, in order, in the state that its record began with, and held. -/
def AllHold (t : Turn ω) : Prop :=
  t.evaluations.map (·.condition) = t.step.conditions ∧
    ∀ q ∈ t.evaluations, q.state = t.record.before ∧ x.answer q = .done true

/-- How the calls of a turn go with its record: none for a step that was skipped or that failed by a condition, all
actions in order for one that succeeded, and an initial segment of them, done up to the last, for one that failed in its
actions or was cancelled between them. -/
inductive Dispatched (t : Turn ω) : Prop
  | skipped {q} (hs : t.record.status = .skipped) (hc : t.calls = []) (hq : q ∈ t.evaluations)
      (ha : x.answer q = .done false)
  | failedCondition {q e} (hs : t.record.status = .failed) (hc : t.calls = []) (hq : q ∈ t.evaluations)
      (ha : (x.answer q).guarded = .error e) (he : t.record.error = some e.message)
  | succeeded (hs : t.record.status = .success) (hh : x.AllHold t) (hc : t.calls.map (·.action) = t.step.actions)
      (hd : ∀ c ∈ t.calls, x.reply c = .done ())
  | failedAction {before c e} (hs : t.record.status = .failed) (hh : x.AllHold t)
      (hc : t.calls.map (·.action) <+: t.step.actions) (hl : t.calls = before ++ [c])
      (hd : ∀ b ∈ before, x.reply b = .done ()) (ha : (x.reply c).guarded = .error e)
      (he : t.record.error = some e.message)
  | cancelled (hs : t.record.status = .failed) (hh : x.AllHold t) (hc : t.calls.map (·.action) <+: t.step.actions)
      (hl : t.calls.length < t.step.actions.length) (hd : ∀ c ∈ t.calls, x.reply c = .done ())
      (he : t.record.error = some StepError.cancelled.message)

end Turns

/-- Conditions of which none failed to hold have all held. -/
theorem Checks.allHold {t : Turn ω} {w w' : ω} (h : x.Checks t.before t.step.conditions w t.evaluations (.ok none) w') :
    x.AllHold t := by
  obtain ⟨hmap, hall⟩ := h.all_hold
  refine ⟨hmap, fun q hq => ⟨?_, hall q hq⟩⟩
  rw [t.record_before]
  exact h.state_eq q hq

/-- A turn whose step was performed has called as its record tells. -/
theorem dispatched_of_performs {t : Turn ω} {v v' : ω}
    (h : x.Performs t.step t.before v t.evaluations t.calls t.ending t.after v') : x.Dispatched t := by
  generalize hcs : t.calls = cs at h
  generalize hend : t.ending = ending at h
  generalize hst : t.after = after at h
  cases h with
  | unchecked hc =>
    obtain ⟨q, hq, ha⟩ := hc.error_mem
    obtain ⟨hfailed, herror, -⟩ := Turn.record_failed hend
    exact .failedCondition hfailed hcs hq ha herror
  | skipped hc =>
    obtain ⟨q, hq, ha⟩ := hc.unmet_mem
    exact .skipped (Turn.record_skipped hend) hcs hq ha
  | failed hc ha =>
    obtain ⟨hfailed, herror, -⟩ := Turn.record_failed hend
    obtain ⟨hpre, ⟨before, c, rfl, hbefore, hlast⟩ | ⟨hlen, hall, rfl⟩⟩ := ha.failed
    · exact .failedAction hfailed hc.allHold (by rw [hcs]; exact hpre) hcs hbefore hlast herror
    · exact .cancelled hfailed hc.allHold (by rw [hcs]; exact hpre) (by rw [hcs]; exact hlen)
        (by rw [hcs]; exact hall) herror
  | succeeded hc ha =>
    obtain ⟨hmap, hall⟩ := ha.all_done
    exact .succeeded (Turn.record_succeeded hend) hc.allHold (by rw [hcs]; exact hmap) (by rw [hcs]; exact hall)

theorem Performs.threaded {step : Step} {s s' : State} {w w' : ω} {es : List (Evaluation ω)} {cs : List (Call ω)}
    {ending : StepEnd} (h : x.Performs step s w es cs ending s' w') : x.Threaded s cs ∧ x.stateAfter s cs = s' := by
  cases h with
  | unchecked _ => exact ⟨trivial, rfl⟩
  | skipped _ => exact ⟨trivial, rfl⟩
  | failed _ ha => exact ha.threaded
  | succeeded _ ha => exact ha.threaded

/-! ## Runs -/

/-- The calls of a path are threaded, from the state of its first session to that of its last. -/
theorem Path.threaded {started : Instant} {s m : Session} {w v : ω} {turns : List (Turn ω)}
    (h : x.Path started s w turns m v) :
    x.Threaded s.state (turns.flatMap Turn.calls) ∧ x.stateAfter s.state (turns.flatMap Turn.calls) = m.state := by
  induction h with
  | nil => exact ⟨trivial, rfl⟩
  | cons first rest ih =>
    obtain ⟨_, _, hperf⟩ := first.performed
    obtain ⟨hthread, hafter⟩ := hperf.threaded
    rw [first.before] at hthread hafter
    rw [Turn.apply_state, ← hafter] at ih
    rw [List.flatMap_cons, threaded_append, stateAfter_append]
    exact ⟨⟨hthread, ih.1⟩, ih.2⟩

theorem calls_append (as bs : List (Event ω)) : Event.calls (as ++ bs) = Event.calls as ++ Event.calls bs :=
  List.filterMap_append

theorem calls_turn (t : Turn ω) : Event.calls t.events = t.calls := by
  have hevaluations : Event.calls (t.evaluations.map .evaluation) = [] :=
    List.filterMap_eq_nil_iff.mpr (by simp)
  have hcalls : Event.calls (t.calls.map .call) = t.calls := by
    unfold Event.calls
    rw [List.filterMap_map]
    exact List.filterMap_some
  have hconsultations : Event.calls (t.consultations.map .consultation) = [] :=
    List.filterMap_eq_nil_iff.mpr (by simp)
  rw [Turn.events, calls_append, calls_append, hevaluations, hcalls, hconsultations, List.nil_append, List.append_nil]

/-- The calls among the questions of turns are the calls of the turns. -/
theorem calls_turns (turns : List (Turn ω)) :
    Event.calls (turns.flatMap Turn.events) = turns.flatMap Turn.calls := by
  induction turns with
  | nil => rfl
  | cons t ts ih => rw [List.flatMap_cons, List.flatMap_cons, calls_append, calls_turn, ih]

/-- The calls of a run are those that its records tell, each in the state that the one before left. -/
theorem Ran.dispatched {s s' : Session} {w w' : ω} {turns : List (Turn ω)} {o : Outcome} (h : x.Ran s w turns o s' w') :
    (∀ t ∈ turns, s.program.step? t.record.step = some t.step ∧ x.Dispatched t) ∧
      x.Threaded s.state (turns.flatMap Turn.calls) ∧ s'.state = x.stateAfter s.state (turns.flatMap Turn.calls) := by
  obtain ⟨m, v, es, d, hpath, -, rfl⟩ := h.stops
  refine ⟨fun t ht => ?_, hpath.threaded.1, hpath.threaded.2.symm⟩
  obtain ⟨r, u, u', htakes, hprogram, -⟩ := hpath.taken t ht
  obtain ⟨_, _, hperf⟩ := htakes.performed
  refine ⟨?_, dispatched_of_performs hperf⟩
  obtain ⟨name, -, hstep⟩ := Option.bind_eq_some_iff.mp htakes.named
  rw [hprogram] at hstep
  rw [t.record_step]
  exact Program.step?_name hstep

/-- On a clock that always moves on, a run ends, with all calls that its records tell. -/
theorem Ticks.dispatched (hx : x.Ticks) (s : Session) (w : ω) : ∃ turns o s' w', x.Ran s w turns o s' w' ∧
    (∀ t ∈ turns, x.Dispatched t) ∧ s'.state = x.stateAfter s.state (turns.flatMap Turn.calls) := by
  obtain ⟨turns, o, s', w', hran⟩ := hx.ran s w
  obtain ⟨hturns, -, hstate⟩ := hran.dispatched
  exact ⟨turns, o, s', w', hran, fun t ht => (hturns t ht).2, hstate⟩

/-- **Exactly once, in order.** A run ends unless its clock breaks off. The calls that its dispatcher receives are,
record by record, those that the status of the record tells; each receives the state that the one before left; and the
state of the session is what they leave of its first state. -/
theorem run_dispatches_in_order (x : Executor ω) (s : Session) (w : ω) :
    x.BreaksOff s w ∨ ∃ o s' w', ∃ turns : List (Turn ω),
      x.run s w = some (o, s', w') ∧
      x.observed.run s (w, []) = some (o, s', w', turns.flatMap Turn.events) ∧
      s'.trace = s.trace ++ turns.map Turn.record ∧
      Event.calls (turns.flatMap Turn.events) = turns.flatMap Turn.calls ∧
      (∀ t ∈ turns, s.program.step? t.record.step = some t.step ∧ x.Dispatched t) ∧
      x.Threaded s.state (turns.flatMap Turn.calls) ∧
      s'.state = x.stateAfter s.state (turns.flatMap Turn.calls) := by
  rcases x.breaksOff_or_ran s w with hbreak | ⟨turns, o, s', w', hran⟩
  · exact Or.inl hbreak
  obtain ⟨hturns, hthreaded, hstate⟩ := hran.dispatched
  exact Or.inr ⟨o, s', w', turns, hran.ends, hran.noted, hran.trace, calls_turns turns, hturns, hthreaded, hstate⟩

end Executor

end Runbook
