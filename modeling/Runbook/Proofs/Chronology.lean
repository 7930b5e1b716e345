import Runbook.Proofs.Calendar
import Runbook.Proofs.Captured
import Runbook.Proofs.History
import Runbook.Proofs.Passage
import Runbook.Run.World

/-!
# Chronology

Runs of a session look at one clock. Where nothing moves it back, what they leave follows one another in time, whatever
restores there have been: a restore only takes entries away.

* `InOrder` : entries that follow one another in time, up to the present;
* `Session.Chronological` : a session whose records, errors and checkpoints do;
* `Executor.Forward` : an executor that does not move the clock back; `Forward.takes`, `Turn.Between.apply` : so its turns
  go on in time, and keep a session chronological;
* `Path.chronological`, `Closes.chronological`, `run_chronological` : and so do its runs;
* `Executor.span?` : from when to when a run takes;
* `Session.Chronicle` : the sessions that runs and restores lead to, with the present and the spans of the runs;
* `history_is_chronological` : all of them are chronological, and their active time is that of their runs;
  `rewinding_not_chronological` : not so where a strategy turns the clock back.
-/

namespace Runbook

variable {ω : Type} {time : ω → Instant}

/-! ## Entries in order -/

/-- Entries that each take from a start to an end and follow one another in time, up to the present. -/
structure InOrder {α : Type} (start finish : α → Instant) (now : Instant) (entries : List α) : Prop where
  spans : ∀ a ∈ entries, start a ≤ finish a
  ordered : entries.Pairwise fun a b => finish a ≤ start b
  past : ∀ a ∈ entries, finish a ≤ now

namespace InOrder

variable {α : Type} {start finish : α → Instant} {now later : Instant} {as bs : List α} {a : α}

theorem nil : InOrder start finish now [] := ⟨by simp, .nil, by simp⟩

theorem singleton (hspan : start a ≤ finish a) (hpast : finish a ≤ now) : InOrder start finish now [a] :=
  ⟨by simpa using hspan, List.pairwise_singleton _ a, by simpa using hpast⟩

theorem mono (h : InOrder start finish now as) (hnow : now ≤ later) : InOrder start finish later as :=
  ⟨h.spans, h.ordered, fun a ha => le_trans (h.past a ha) hnow⟩

theorem sublist (h : InOrder start finish now as) (hs : bs.Sublist as) : InOrder start finish now bs :=
  ⟨fun b hb => h.spans b (hs.subset hb), h.ordered.sublist hs, fun b hb => h.past b (hs.subset hb)⟩

/-- What has only started since follows what is past. -/
theorem append (h : InOrder start finish now as) (h' : InOrder start finish later bs) (hnow : now ≤ later)
    (hbs : ∀ b ∈ bs, now ≤ start b) : InOrder start finish later (as ++ bs) where
  spans := List.forall_mem_append.mpr ⟨h.spans, h'.spans⟩
  ordered := List.pairwise_append.mpr
    ⟨h.ordered, h'.ordered, fun a ha b hb => le_trans (h.past a ha) (hbs b hb)⟩
  past := List.forall_mem_append.mpr ⟨(h.mono hnow).past, h'.past⟩

theorem concat (h : InOrder start finish now as) (hstart : now ≤ start a) (hspan : start a ≤ finish a)
    (hpast : finish a ≤ later) : InOrder start finish later (as ++ [a]) :=
  h.append (.singleton hspan hpast) (le_trans hstart (le_trans hspan hpast)) (by simpa using hstart)

end InOrder

/-- A session whose records, errors and retained checkpoints follow one another in time, up to the present. Errors and
checkpoints take no time. -/
structure Session.Chronological (s : Session) (now : Instant) : Prop where
  records : InOrder Record.startedAt Record.endedAt now s.trace
  errors : InOrder ErrorRecord.timestamp ErrorRecord.timestamp now s.errors
  checkpoints : InOrder Checkpoint.timestamp Checkpoint.timestamp now s.checkpoints.entries

namespace Session.Chronological

variable {s : Session} {now later : Instant}

theorem start (runId : String) (program : Program) (state : State) (options : Options) (now : Instant) :
    (Session.start runId program state options).Chronological now := ⟨.nil, .nil, .nil⟩

theorem mono (h : s.Chronological now) (hnow : now ≤ later) : s.Chronological later :=
  ⟨h.records.mono hnow, h.errors.mono hnow, h.checkpoints.mono hnow⟩

theorem pushError (h : s.Chronological now) {e : ErrorRecord} (hnow : now ≤ e.timestamp) (hlater : e.timestamp ≤ later) :
    (s.pushError e).Chronological later :=
  ⟨h.records.mono (le_trans hnow hlater), h.errors.concat hnow (le_refl _) hlater,
    h.checkpoints.mono (le_trans hnow hlater)⟩

/-- A restore cuts the trace, and leaves the errors and the checkpoints of what it has taken back. -/
theorem restore (h : s.Chronological now) {i : Int} {s' : Session} (hs : s.restore? i = some s') :
    s'.Chronological now ∧ s'.active = s.active := by
  obtain ⟨c, -, rfl⟩ := restore_eq hs
  exact ⟨⟨h.records.sublist (List.take_sublist ..), h.errors, h.checkpoints⟩, rfl⟩

end Session.Chronological

/-! ## Turns in time -/

namespace Turn

/-- A turn that goes on in time: its step starts, ends, and is captured, if at all, one after the other. -/
structure Between (t : Turn ω) (begun ended : Instant) : Prop where
  starts : begun ≤ t.startedAt
  lasts : t.startedAt ≤ t.endedAt
  ends : t.endedAt ≤ ended
  captures : ∀ now ∈ t.capturedAt, t.endedAt ≤ now ∧ now ≤ ended

variable {t : Turn ω} {begun ended : Instant}

theorem record_times (t : Turn ω) : t.record.startedAt = t.startedAt ∧ t.record.endedAt = t.endedAt := by
  unfold record
  split <;> exact ⟨rfl, rfl⟩

theorem apply_active (t : Turn ω) (s : Session) : (t.apply s).active = s.active := by rw [t.apply_eq]

theorem timestamp_of_mem_errors {e : ErrorRecord} (he : e ∈ t.errors) : e.timestamp = t.endedAt := by
  unfold errors at he
  split at he
  · rw [List.mem_singleton.mp he]
    rfl
  · cases he

theorem Between.le (h : t.Between begun ended) : begun ≤ ended := le_trans h.starts (le_trans h.lasts h.ends)

theorem Between.errors (h : t.Between begun ended) :
    InOrder ErrorRecord.timestamp ErrorRecord.timestamp ended t.errors := by
  unfold Turn.errors
  split
  · exact .singleton (le_refl _) h.ends
  · exact .nil

/-- What a turn leaves follows what the session has. -/
theorem Between.apply (h : t.Between begun ended) {s : Session} (hs : s.Chronological begun) :
    (t.apply s).Chronological ended where
  records := by
    obtain ⟨hstarted, hended⟩ := t.record_times
    rw [t.apply_trace]
    refine hs.records.concat ?_ ?_ ?_
    · rw [hstarted]; exact h.starts
    · rw [hstarted, hended]; exact h.lasts
    · rw [hended]; exact h.ends
  errors := by
    rw [t.apply_errors]
    refine hs.errors.append h.errors h.le fun e he => ?_
    rw [timestamp_of_mem_errors he]
    exact le_trans h.starts h.lasts
  checkpoints := by
    rw [t.apply_checkpoints]
    unfold checkpoint?
    cases hcaptured : t.capturedAt with
    | none => exact hs.checkpoints.mono h.le
    | some now =>
      obtain ⟨hafter, hbefore⟩ := h.captures now hcaptured
      have hnow : begun ≤ now := le_trans h.starts (le_trans h.lasts hafter)
      have hpushed : InOrder Checkpoint.timestamp Checkpoint.timestamp ended
          (s.checkpoints.entries ++ [.capture now (t.cursor? s) t.after (s.trace.length + 1)]) :=
        hs.checkpoints.concat hnow (le_refl now) hbefore
      exact hpushed.sublist (List.drop_sublist ..)

end Turn

namespace Executor

/-- An executor that does not move the clock back. What a look at the clock shows is a time between that of the world
before and that of the world after. -/
structure Forward (x : Executor ω) (time : ω → Instant) : Prop where
  carries : x.Carries fun w v => time w ≤ time v
  shown : ∀ w, time w ≤ (x.now w).1 ∧ (x.now w).1 ≤ time (x.now w).2
  tick : ∀ {w v}, x.stepFinished? w = some v → time w ≤ time v

variable {x : Executor ω} {started : Instant} {s s' m : Session} {w w' v : ω} {t : Turn ω} {turns : List (Turn ω)}
  {o r : Outcome}

/-- The turns of such an executor go on in time. -/
theorem Forward.turn (hx : x.Forward time) (step : Step) (s : Session) (w : ω) (es : List (Evaluation ω))
    (cs : List (Call ω)) (rs : List (Consultation ω)) :
    (x.turn step s w es cs rs).1.Between (time w) (time (x.turn step s w es cs rs).2) := by
  have hperform := hx.carries.perform step s.state (x.now w).2
  have hended := hx.shown (x.perform step s.state (x.now w).2).2.2
  have hdecision := hx.carries.decision s step (x.perform step s.state (x.now w).2).1
    (x.now (x.perform step s.state (x.now w).2).2.2).2
  have hlasts := le_trans (hx.shown w).2 (le_trans hperform hended.1)
  have hdecided := le_trans hended.2 hdecision
  unfold Executor.turn
  cases s.options.checkpoint with
  | false => exact ⟨(hx.shown w).1, hlasts, hdecided, nofun⟩
  | true =>
    refine ⟨(hx.shown w).1, hlasts, le_trans hdecided (hx.carries.now _), ?_⟩
    rintro now hnow
    obtain rfl := Option.some.inj hnow
    exact ⟨le_trans hdecided (hx.shown _).1, (hx.shown _).2⟩

theorem Forward.takes (hx : x.Forward time) (h : x.Takes started s w t v) : t.Between (time w) (time v) := by
  have hturn := hx.turn t.step s (x.now w).2 t.evaluations t.calls t.consultations
  rw [h.made] at hturn
  exact ⟨le_trans (hx.carries.now w) hturn.starts, hturn.lasts, le_trans hturn.ends (hx.tick h.ticked),
    fun now hnow => ⟨(hturn.captures now hnow).1, le_trans (hturn.captures now hnow).2 (hx.tick h.ticked)⟩⟩

/-! ## Runs in time -/

theorem Path.chronological (h : x.Path started s w turns m v) (hx : x.Forward time) (hs : s.Chronological (time w)) :
    m.Chronological (time v) ∧ time w ≤ time v ∧ m.active = s.active := by
  induction h with
  | nil => exact ⟨hs, le_refl _, rfl⟩
  | @cons s w t w₁ ts m v first rest ih =>
    have hbetween := hx.takes first
    obtain ⟨hm, hle, hactive⟩ := ih (hbetween.apply hs)
    exact ⟨hm, le_trans hbetween.le hle, hactive.trans (t.apply_active s)⟩

/-- What ends a run leaves the session chronological: the error of a limit tells the time of the look at the clock that
showed it. -/
theorem Closes.chronological {limit : Nat} (h : x.Closes started limit r turns m v o s' w') (hx : x.Forward time)
    (hm : m.Chronological (time v)) : s'.Chronological (time w') ∧ time v ≤ time w' ∧ s'.active = m.active := by
  cases h with
  | resting | completed | halted => exact ⟨hm, le_refl _, rfl⟩
  | dangling => exact ⟨hm.mono (hx.carries.now v), hx.carries.now v, rfl⟩
  | timedOut | exhausted => exact ⟨hm.pushError (hx.shown v).1 (hx.shown v).2, hx.carries.now v, rfl⟩

/-- From when to when a run takes: the times that its first and its last look at the clock show. -/
def span? (x : Executor ω) (s : Session) (w : ω) : Option (Instant × Instant) :=
  (x.loop (x.now w).1 s.options.maxIterations true s (x.now w).2).map fun r => ((x.now w).1, (x.now r.2.2).1)

/-- On a clock that shows the present, a run takes from the time of its first world to that of its last. -/
theorem span?_of_exact (hx : ∀ w, x.now w = (time w, w)) (h : x.run s w = some (o, s', w')) :
    x.span? s w = some (time w, time w') := by
  rw [run_eq] at h
  obtain ⟨⟨o, s₁, v₁⟩, hloop, heq⟩ := Option.map_eq_some_iff.mp h
  obtain rfl : (x.now v₁).2 = w' := (Prod.mk.inj (Prod.mk.inj heq).2).2
  rw [span?, hloop, Option.map_some, hx w, hx v₁]

/-- A run leaves a chronological session, active for the time of the run more. -/
theorem run_chronological (hx : x.Forward time) (hs : s.Chronological (time w)) (h : x.run s w = some (o, s', w')) :
    ∃ a b, x.span? s w = some (a, b) ∧ time w ≤ a ∧ a ≤ b ∧ b ≤ time w' ∧ s'.Chronological (time w') ∧
      s'.active = s.active + Instant.elapsed a b := by
  rw [run_eq] at h
  obtain ⟨⟨o₁, s₁, v₁⟩, hloop, heq⟩ := Option.map_eq_some_iff.mp h
  simp only [Prod.mk.injEq] at heq
  obtain ⟨rfl, rfl, rfl⟩ := heq
  obtain ⟨turns, m, v, hasked, -, hcloses, -⟩ := x.loop_asked _ [] hloop
  obtain ⟨hm, hle, hactive⟩ := hasked.path.chronological hx (hs.mono (hx.carries.now w))
  obtain ⟨hs₁, hle₁, hactive₁⟩ := hcloses.chronological hx hm
  have hlasts : (x.now w).1 ≤ (x.now v₁).1 :=
    le_trans (hx.shown w).2 (le_trans hle (le_trans hle₁ (hx.shown v₁).1))
  refine ⟨(x.now w).1, (x.now v₁).1, ?_, (hx.shown w).1, hlasts, (hx.shown v₁).2, ?_, ?_⟩
  · rw [span?, hloop, Option.map_some]
  · have hlater := hs₁.mono (hx.carries.now v₁)
    exact ⟨hlater.records, hlater.errors, hlater.checkpoints⟩
  · show s₁.active + _ = _
    rw [hactive₁, hactive]

end Executor

/-! ## Chronicles -/

namespace Session

/-- The sessions that lead from the start of some program to the present one by runs and restores, with the time and the
spans of the runs. Each run may have an executor of its own that does not move the clock back; the clock may move on
between runs, and a restore that finds no checkpoint leaves the session as it is. -/
inductive Chronicle (time : ω → Instant) : Session → Instant → List (Instant × Instant) → Prop
  | start (runId : String) (program : Program) (state : State) (options : Options) (now : Instant) :
      Chronicle time (.start runId program state options) now []
  | wait {s now later spans} (before : Chronicle time s now spans) (hnow : now ≤ later) : Chronicle time s later spans
  | run {s spans} {x : Executor ω} {w o s' w' span} (before : Chronicle time s (time w) spans) (hx : x.Forward time)
      (hr : x.run s w = some (o, s', w')) (hspan : x.span? s w = some span) :
      Chronicle time s' (time w') (spans ++ [span])
  | resume {s spans} {x : Executor ω} {w report s' w' span} (before : Chronicle time s (time w) spans)
      (hx : x.Forward time) (hr : x.resume s w = some (report, s', w')) (hspan : x.span? s w = some span) :
      Chronicle time s' (time w') (spans ++ [span])
  | restore {s now spans i s'} (before : Chronicle time s now spans) (hs : s.restore? i = some s') :
      Chronicle time s' now spans

variable {s s' : Session} {now : Instant} {spans : List (Instant × Instant)}

/-- The active time of spans together. -/
def activeTime (spans : List (Instant × Instant)) : Duration := (spans.map fun span => Instant.elapsed span.1 span.2).sum

/-- A run takes a chronicle on by its span. -/
theorem Chronicle.run_spans {x : Executor ω} {w w' : ω} {o : Outcome} {span : Instant × Instant} (hx : x.Forward time)
    (hr : x.run s w = some (o, s', w')) (hspan : x.span? s w = some span)
    (h : s.Chronological (time w) ∧ InOrder Prod.fst Prod.snd (time w) spans ∧ s.active = activeTime spans) :
    s'.Chronological (time w') ∧ InOrder Prod.fst Prod.snd (time w') (spans ++ [span]) ∧
      s'.active = activeTime (spans ++ [span]) := by
  obtain ⟨hs, hspans, hactive⟩ := h
  obtain ⟨a, b, hab, ha, hle, hb, hs', hactive'⟩ := Executor.run_chronological hx hs hr
  obtain rfl : (a, b) = span := Option.some.inj (hab.symm.trans hspan)
  refine ⟨hs', hspans.concat ha hle hb, ?_⟩
  rw [hactive', hactive, activeTime, activeTime, List.map_append, List.sum_append, List.map_singleton, List.sum_singleton]

/-- **History is chronological.** Whatever runs and restores have led to a session, by whatever executors on one clock that
nothing moves back: its records, its errors and its retained checkpoints follow one another in time, each record from its
start to its end, and its active time is that of all its runs together, from the start to the end of each. At every turn
of a further run it is so too. -/
theorem history_is_chronological (h : Chronicle time s now spans) :
    s.Chronological now ∧ InOrder Prod.fst Prod.snd now spans ∧ s.active = activeTime spans ∧
      ∀ {x : Executor ω} {w v : ω} {turns : List (Turn ω)} {m : Session}, x.Forward time → now ≤ time w →
        x.Path (x.now w).1 s (x.now w).2 turns m v → m.Chronological (time v) ∧ m.active = s.active := by
  have hall : s.Chronological now ∧ InOrder Prod.fst Prod.snd now spans ∧ s.active = activeTime spans := by
    induction h with
    | start runId program state options now => exact ⟨.start runId program state options now, .nil, rfl⟩
    | wait _ hnow ih => exact ⟨ih.1.mono hnow, ih.2.1.mono hnow, ih.2.2⟩
    | run _ hx hr hspan ih => exact Chronicle.run_spans hx hr hspan ih
    | resume _ hx hr hspan ih =>
      obtain ⟨o, hrun⟩ := run_of_resume hr
      exact Chronicle.run_spans hx hrun hspan ih
    | restore _ hs ih =>
      obtain ⟨hs', hactive⟩ := ih.1.restore hs
      exact ⟨hs', ih.2.1, hactive.trans ih.2.2⟩
  refine ⟨hall.1, hall.2.1, hall.2.2, fun {x w v turns m} hx hw hpath => ?_⟩
  obtain ⟨hm, -, hactive⟩ := hpath.chronological hx (hall.1.mono (le_trans hw (hx.carries.now w)))
  exact ⟨hm, hactive⟩

end Session

/-! ## Virtual clocks -/

/-- The time of a virtual clock. -/
def World.present {σ : Type} (w : World σ) : Instant := w.clock.time

/-- On a virtual clock no executor moves time back whose evaluator and dispatcher do not. -/
theorem Executor.onWorld_forward {σ : Type} {evaluate : Evaluator (World σ)} {dispatch : Dispatcher (World σ)}
    {policy : Policy} {cancellable : Bool} (he : ∀ c s w, w.present ≤ (evaluate c s w).2.present)
    (hd : ∀ a s w, w.present ≤ (dispatch a s w).2.2.present) :
    (onWorld evaluate dispatch policy cancellable).Forward World.present where
  carries := ⟨fun _ => le_refl _, le_trans, fun _ => le_refl _, he, hd, fun _ _ _ _ => le_refl _⟩
  shown _ := ⟨le_refl _, le_refl _⟩
  tick h := by
    obtain ⟨c, hc, rfl⟩ := Option.map_eq_some_iff.mp h
    exact VirtualClock.le_of_stepFinished? hc

namespace Session

/-- An executor each of whose actions takes seven nanoseconds. -/
def plodding : Executor (World Unit) :=
  .onWorld .permissive
    (fun a s w => Dispatcher.vocabulary a s { w with clock := w.clock.set (w.clock.time + (7 : Duration)) })
    .proceed false

theorem plodding_forward : plodding.Forward World.present := by
  refine Executor.onWorld_forward (fun _ _ _ => le_refl _) fun a s w => ?_
  rw [Dispatcher.vocabulary_world]
  exact w.clock.time.le_add 7

/-- A session whose second step fails. -/
def ploddingSession : Session :=
  .start "run" ⟨"p", "g", [⟨"a", ["set a = true"], []⟩, ⟨"b", ["fail: no"], []⟩, ⟨"c", ["set c = true"], []⟩]⟩ .empty
    { mode := .adaptive, checkpoint := true }

/-- A clock that moves on by five nanoseconds after each step. -/
def pacedWorld (time : Instant) : World Unit := ⟨⟨time, some 5⟩, false, ()⟩

theorem ploddingSession_runs : (plodding.run ploddingSession (pacedWorld 100)).isSome = true := by decide +kernel

/-- The session after a run from 100 to 136. -/
def ploddedSession : Session := ((plodding.run ploddingSession (pacedWorld 100)).get ploddingSession_runs).2.1

theorem ploddedSession_restores : (ploddedSession.restore? 0).isSome = true := by decide +kernel

/-- The session back at its first step, with the record of that step. -/
def reboundSession : Session := (ploddedSession.restore? 0).get ploddedSession_restores

theorem reboundSession_runs : (plodding.run reboundSession (pacedWorld 200)).isSome = true := by decide +kernel

/-- The session after a second run, from 200 to 236. -/
def repeatedSession : Session := ((plodding.run reboundSession (pacedWorld 200)).get reboundSession_runs).2.1

theorem ploddedSession_chronicle : Chronicle (@World.present Unit) ploddedSession 136 [(100, 136)] := by
  have hstart : Chronicle (@World.present Unit) ploddingSession 100 [] :=
    .start "run" ploddingSession.program .empty ploddingSession.options 100
  have hspan : plodding.span? ploddingSession (pacedWorld 100) = some (100, 136) := by decide +kernel
  obtain ⟨o, w, hrun⟩ := run_get ploddingSession_runs
  have hw : w.present = 136 :=
    (Prod.mk.inj (Option.some.inj ((Executor.span?_of_exact (fun _ => rfl) hrun).symm.trans hspan))).2
  have hran : Chronicle World.present ploddedSession w.present ([] ++ [(100, 136)]) :=
    .run hstart plodding_forward hrun hspan
  rwa [hw] at hran

theorem repeatedSession_chronicle :
    Chronicle (@World.present Unit) repeatedSession 236 [(100, 136), (200, 236)] := by
  have hrebound : Chronicle (@World.present Unit) reboundSession 200 [(100, 136)] :=
    (ploddedSession_chronicle.wait (by decide)).restore (Option.some_get ploddedSession_restores).symm
  have hspan : plodding.span? reboundSession (pacedWorld 200) = some (200, 236) := by decide +kernel
  obtain ⟨o, w, hrun⟩ := run_get reboundSession_runs
  have hw : w.present = 236 :=
    (Prod.mk.inj (Option.some.inj ((Executor.span?_of_exact (fun _ => rfl) hrun).symm.trans hspan))).2
  have hran : Chronicle World.present repeatedSession w.present ([(100, 136)] ++ [(200, 236)]) :=
    .run hrebound plodding_forward hrun hspan
  rwa [hw] at hran

theorem history_is_chronological_repeated :
    Chronicle (@World.present Unit) repeatedSession 236 [(100, 136), (200, 236)] ∧
      repeatedSession.Chronological 236 ∧ repeatedSession.active = 36 + 36 ∧
      repeatedSession.trace.map (fun r => (r.startedAt, r.endedAt)) = [(100, 107), (200, 207), (212, 219), (224, 231)] ∧
      repeatedSession.errors.map (·.timestamp) = [119, 219] ∧
      repeatedSession.checkpoints.entries.map (·.timestamp) = [107, 119, 131, 207, 219, 231] := by
  obtain ⟨hchronological, -, hactive, -⟩ := history_is_chronological repeatedSession_chronicle
  exact ⟨repeatedSession_chronicle, hchronological, hactive, by decide +kernel, by decide +kernel, by decide +kernel⟩

/-- An executor each of whose actions turns the clock back by ten nanoseconds. -/
def rewinding : Executor (World Unit) :=
  .onWorld .permissive (fun a s w => Dispatcher.vocabulary a s { w with clock := (w.clock.back? 10).getD w.clock })
    .proceed false

/-- Where a strategy turns the clock back, a run need not be chronological: here a step ends before it has started. -/
theorem rewinding_not_chronological : ∃ o s' w', rewinding.run ploddingSession (.frozen 100 ()) = some (o, s', w') ∧
    ¬ s'.Chronological w'.present := by
  have hseen : (rewinding.run ploddingSession (.frozen 100 ())).map (fun r =>
      r.2.1.trace.map fun r => (r.startedAt, r.endedAt)) = some [(100, 90), (90, 80), (80, 70)] := by decide +kernel
  obtain ⟨⟨o, s', w'⟩, hrun, htimes⟩ := Option.map_eq_some_iff.mp hseen
  refine ⟨o, s', w', hrun, fun h => ?_⟩
  have hmem : ((100 : Instant), (90 : Instant)) ∈ s'.trace.map fun r => (r.startedAt, r.endedAt) := by
    rw [htimes]
    exact List.mem_cons_self
  obtain ⟨r, hr, htime⟩ := List.mem_map.mp hmem
  obtain ⟨hstart, hend⟩ := Prod.mk.inj htime
  have hspan := h.records.spans r hr
  rw [hstart, hend] at hspan
  exact absurd hspan (by decide)

end Session

end Runbook
