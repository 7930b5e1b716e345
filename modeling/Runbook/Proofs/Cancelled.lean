import Runbook.Proofs.Cause
import Runbook.Proofs.Flag

/-!
# Cancelled runs

From the moment the cancellation flag is set no action is dispatched any more, whether it was set before a run or in the
middle of a step: not in that step, nor in the steps of that run and of those after it.

* `Executor.Timeline`, `Timeline.stilled` : turns with the worlds in which they began, and those under a set flag;
* `Ran.timeline`, `Ran.halted`, `Ran.halt_of_cancelled` : the turns of a run, and the one that halts it;
* `Made`, `Executor.Series` : runs of a session, one after the other, with one executor; `Series.stilled` : those begun
  under a set flag;
* `cancellation_is_final` : what a set flag makes of all that follows.
-/

namespace Runbook

variable {ω : Type}

/-- A run that has been made: its outcome and its turns. -/
structure Made (ω : Type) where
  outcome : Outcome
  turns : List (Begun ω)

/-- The questions of runs, in order. -/
def Made.events (runs : List (Made ω)) : List (Event ω) := runs.flatMap fun r => r.turns.flatMap (·.events)

namespace Executor

variable {x : Executor ω}

/-! ## Turns in a row -/

/-- Turns one after the other, from one world to another, each with the world in which it began. In between the clock
is looked at. -/
inductive Timeline (x : Executor ω) : ω → List (Begun ω) → ω → Prop
  | nil (w) : Timeline x w [] w
  | clock {w bs w'} (rest : Timeline x (x.now w).2 bs w') : Timeline x w bs w'
  | turn {s b bs v w'} (asks : x.Asks s b.world b.toTurn v) (rest : Timeline x v bs w') : Timeline x b.world (b :: bs) w'

section Time
variable {w v w' : ω} {as bs : List (Begun ω)} {b : Begun ω}

theorem Timeline.passes (hx : x.StaysCancelled) (h : x.Timeline w bs w') : x.Passes w (bs.flatMap (·.events)) w' := by
  induction h with
  | nil w => exact .nil id
  | clock _ ih => exact ih.before hx.now
  | turn asks _ ih => exact (asks.passes hx).append ih

theorem Timeline.split (h : x.Timeline w (as ++ b :: bs) w') :
    x.Timeline w as b.world ∧ x.Timeline b.world (b :: bs) w' := by
  generalize hall : as ++ b :: bs = all at h
  induction h generalizing as with
  | nil => exact absurd hall (by simp)
  | clock _ ih =>
    obtain ⟨hfront, hback⟩ := ih hall
    exact ⟨.clock hfront, hback⟩
  | @turn s c cs v w' asks rest ih =>
    cases as with
    | nil =>
      obtain ⟨rfl, rfl⟩ := List.cons.inj hall
      exact ⟨.nil _, .turn asks rest⟩
    | cons a as =>
      obtain ⟨rfl, hrest⟩ := List.cons.inj hall
      obtain ⟨hfront, hback⟩ := ih hrest
      exact ⟨.turn asks hfront, hback⟩

theorem Timeline.stilled (hx : x.StaysCancelled) (h : x.Timeline w bs w') (hw : x.isCancelled w = true) :
    (∀ b ∈ bs, x.Stilled b) ∧ x.isCancelled w' = true := by
  induction h with
  | nil => exact ⟨by simp, hw⟩
  | clock _ ih => exact ih (hx.now hw)
  | turn asks _ ih =>
    obtain ⟨hstilled, hv⟩ := asks.stilled hx hw
    obtain ⟨hrest, hend⟩ := ih hv
    exact ⟨List.forall_mem_cons.mpr ⟨hstilled, hrest⟩, hend⟩

theorem Asked.timeline {started : Instant} {s m : Session} {turns : List (Turn ω)} (h : x.Asked started s w turns m v)
    (hend : x.Timeline v [] w') : ∃ bs : List (Begun ω), bs.map (·.toTurn) = turns ∧ x.Timeline w bs w' := by
  induction h with
  | nil => exact ⟨[], rfl, hend⟩
  | @cons s w t w₁ ts m v _ asks _ ih =>
    obtain ⟨bs, hbs, htime⟩ := ih hend
    exact ⟨⟨t, w⟩ :: bs, by rw [List.map_cons, hbs], .turn (b := ⟨t, w⟩) asks htime⟩

end Time

/-! ## Runs in a row -/

section Runs
variable {s s' m : Session} {w v w' : ω} {turns as bs : List (Turn ω)} {t : Turn ω} {o : Outcome}

/-- The turns of a run began in worlds that follow each other. -/
theorem Ran.timeline (h : x.Ran s w turns o s' w') :
    ∃ bs : List (Begun ω), bs.map (·.toTurn) = turns ∧ x.Timeline w bs w' := by
  obtain ⟨m, v, s₁, v₁, hasked, hcloses, -, rfl⟩ := h.course
  have hend : x.Timeline v [] (x.now v₁).2 := by
    cases hcloses with
    | resting | completed | halted => exact .clock (.nil _)
    | dangling | timedOut | exhausted => exact .clock (.clock (.nil _))
  obtain ⟨bs, hbs, htime⟩ := hasked.timeline hend
  exact ⟨bs, hbs, .clock htime⟩

theorem Ran.state_of_calls_nil (h : x.Ran s w turns o s' w') (hn : turns.flatMap Turn.calls = []) :
    s'.state = s.state := by
  obtain ⟨m, v, es, d, hpath, -, rfl⟩ := h.stops
  have hstate := hpath.threaded.2
  rw [hn] at hstate
  exact hstate.symm

/-- A run that is halted by a turn ends with it, and leaves no cursor. -/
theorem Ran.halted (h : x.Ran s w (as ++ t :: bs) o s' w') (hd : t.decision = .halt) :
    bs = [] ∧ o = .haltedOnError ∧ s'.cursor = none := by
  obtain ⟨m, v, es, d, hpath, hstops, rfl⟩ := h.stops
  have hlast : bs = [] := by
    by_cases hbs : bs = []
    · exact hbs
    · have hmem : t ∈ (as ++ t :: bs).dropLast := by
        rw [List.dropLast_append_cons, List.dropLast_cons_of_ne_nil hbs]
        exact List.mem_append_right _ List.mem_cons_self
      exact absurd hd (hstops.halt_last t hmem)
  subst hlast
  rcases hstops.halts with hnot | ⟨ts, u, hturns, hhalt, -, rfl⟩
  · exact absurd hd (hnot t (by simp))
  · exact ⟨rfl, rfl, hpath.cursor_halt hturns hhalt⟩

theorem Ran.of_cursor_none (h : x.Ran s w turns o s' w') (hc : s.cursor = none) : turns = [] ∧ s'.cursor = none := by
  obtain ⟨m, v, es, d, hpath, -, rfl⟩ := h.stops
  obtain ⟨hturns, rfl⟩ := hpath.of_ended (Session.isEnded_of_cursor_none hc)
  exact ⟨hturns, hc⟩

/-- In strict mode, and under the policy that tries again, a cancelled step halts the run. -/
theorem Ran.halt_of_cancelled (h : x.Ran s w turns o s' w')
    (hm : s.options.mode = .strict ∨ ∃ n, x.recover = (Policy.retry n).recovery) (ht : t ∈ turns)
    (he : t.ending = .failed .cancelled) : t.decision = .halt := by
  obtain ⟨m, v, es, d, hpath, -, -⟩ := h.stops
  obtain ⟨v, v', hdecides⟩ := hpath.decidedOn t ht
  rw [he] at hdecides
  generalize t.decision = d at hdecides ⊢
  generalize t.consultations = cs at hdecides
  cases hdecides with
  | settled hn => exact absurd rfl (hn .cancelled)
  | strict _ => rfl
  | adaptive hadaptive =>
    rcases hm with hstrict | ⟨n, hretry⟩
    · rw [hadaptive] at hstrict
      cases hstrict
    · rw [ruling, hretry]
      rfl

end Runs

/-- Runs of a session, one after the other, with one executor. Between them the world may change, but a set flag is not
taken back. -/
inductive Series (x : Executor ω) : Session → ω → List (Made ω) → Session → ω → Prop
  | nil (s w) : Series x s w [] s w
  | run {s w m v u runs s' w'} {r : Made ω} (ran : x.Ran s w (r.turns.map (·.toTurn)) r.outcome m v)
      (time : x.Timeline w r.turns v) (between : x.isCancelled v = true → x.isCancelled u = true)
      (rest : Series x m u runs s' w') : Series x s w (r :: runs) s' w'

namespace Series

variable {s s' m : Session} {w u w' : ω} {runs rs later : List (Made ω)}

theorem passes (hx : x.StaysCancelled) (h : x.Series s w runs s' w') : x.Passes w (Made.events runs) w' := by
  induction h with
  | nil => exact .nil id
  | run _ time between _ ih => exact (time.passes hx).append (ih.before between)

theorem split (h : x.Series s w (rs ++ later) s' w') : ∃ m u, x.Series s w rs m u ∧ x.Series m u later s' w' := by
  induction rs generalizing s w with
  | nil => exact ⟨s, w, .nil s w, h⟩
  | cons r rs ih =>
    cases h with
    | run ran time between rest =>
      obtain ⟨m, u, hfront, hback⟩ := ih rest
      exact ⟨m, u, .run ran time between hfront, hback⟩

theorem options (h : x.Series s w runs s' w') : s'.options = s.options := by
  induction h with
  | nil => rfl
  | run ran _ _ _ ih => rw [ih, ran.options]

/-- Under a set flag every step of every run is stilled, and the state stays as it is. -/
theorem stilled (hx : x.StaysCancelled) (h : x.Series s w runs s' w') (hw : x.isCancelled w = true) :
    (∀ b ∈ runs.flatMap (·.turns), x.Stilled b) ∧ s'.state = s.state := by
  induction h with
  | nil => exact ⟨by simp, rfl⟩
  | @run s w m v u runs s' w' r ran time between _ ih =>
    obtain ⟨hturns, hv⟩ := time.stilled hx hw
    obtain ⟨hrest, hstate⟩ := ih (between hv)
    have hcalls : (r.turns.map (·.toTurn)).flatMap Turn.calls = [] := by
      rw [List.flatMap_map]
      exact List.flatMap_eq_nil_iff.mpr fun b hb => (hturns b hb).calls
    refine ⟨?_, hstate.trans (ran.state_of_calls_nil hcalls)⟩
    rw [List.flatMap_cons]
    exact List.forall_mem_append.mpr ⟨hturns, hrest⟩

theorem turns_nil (h : x.Series s w runs s' w') (hc : s.cursor = none) : ∀ r ∈ runs, r.turns = [] := by
  induction h with
  | nil => simp
  | run ran _ _ _ ih =>
    obtain ⟨hturns, hcursor⟩ := ran.of_cursor_none hc
    exact List.forall_mem_cons.mpr ⟨List.map_eq_nil_iff.mp hturns, ih hcursor⟩

end Series

/-- **Cancellation is final.** In every series of runs no action is dispatched under a set flag, nor behind the question
by which it was set; runs made after that leave the state as it is; every step begun after it, in the same run or a later
one, is stilled; and in strict mode, or under the policy that tries again, the first step that fails as cancelled ends its
run as halted, and no step is taken after it. -/
theorem cancellation_is_final {s s' : Session} {w w' : ω} {runs : List (Made ω)} (hx : x.StaysCancelled)
    (h : x.Series s w runs s' w') :
    (∀ c ∈ Event.calls (Made.events runs), x.isCancelled c.world = false) ∧
    (∀ before after, Made.events runs = before ++ after → x.Flagged w before → Event.calls after = []) ∧
    (∀ rs later, runs = rs ++ later → ∃ m u, x.Series s w rs m u ∧ x.Series m u later s' w' ∧
      (x.Flagged w (Made.events rs) → x.isCancelled u = true) ∧ (x.isCancelled u = true → s'.state = m.state)) ∧
    ∀ rs o as b bs later, runs = rs ++ ⟨o, as ++ b :: bs⟩ :: later →
      (x.Flagged w (Made.events rs ++ as.flatMap (·.events)) → x.isCancelled b.world = true) ∧
      (x.isCancelled b.world = true → ∀ c ∈ b :: bs ++ later.flatMap (·.turns), x.Stilled c) ∧
      ((s.options.mode = .strict ∨ ∃ n, x.recover = (Policy.retry n).recovery) → b.ending = .failed .cancelled →
        bs = [] ∧ o = .haltedOnError ∧ ∀ r ∈ later, r.turns = []) := by
  refine ⟨(h.passes hx).free_of_mem, fun before after hevents hset => ?_, fun rs later hruns => ?_,
    fun rs o as b bs later hruns => ?_⟩
  · have hpasses := h.passes hx
    rw [hevents] at hpasses
    exact (hpasses.flagged hx hset).1
  · subst hruns
    obtain ⟨m, u, hfront, hback⟩ := h.split
    exact ⟨m, u, hfront, hback, (hfront.passes hx).flagged_end hx, fun hu => (hback.stilled hx hu).2⟩
  · subst hruns
    obtain ⟨m, u, hfront, hback⟩ := h.split
    cases hback with
    | @run _ _ m₁ v u₁ _ _ _ _ ran time between rest =>
      obtain ⟨hbefore, hafter⟩ := time.split
      refine ⟨fun hset => ?_, fun hb => ?_, fun hm he => ?_⟩
      · have hpasses := (hfront.passes hx).append (hbefore.passes hx)
        exact hpasses.flagged_end hx hset
      · obtain ⟨hturns, hv⟩ := hafter.stilled hx hb
        exact List.forall_mem_append.mpr ⟨hturns, (rest.stilled hx (between hv)).1⟩
      · -- The turn halts its run, so it is the last one, and no cursor is left for those after.
        rw [List.map_append, List.map_cons] at ran
        rw [← hfront.options] at hm
        have hhalt := ran.halt_of_cancelled hm (List.mem_append_right _ List.mem_cons_self) he
        obtain ⟨hlast, houtcome, hcursor⟩ := ran.halted hhalt
        exact ⟨List.map_eq_nil_iff.mp hlast, houtcome, rest.turns_nil hcursor⟩

/-! ## An action that cancels the run -/

/-- On a virtual clock a set flag stays set if evaluator and dispatcher leave it so. -/
theorem onWorld_staysCancelled {σ : Type} {evaluate : Evaluator (World σ)} {dispatch : Dispatcher (World σ)}
    {policy : Policy} {cancellable : Bool}
    (he : ∀ c s {w : World σ}, w.cancelled = true → (evaluate c s w).2.cancelled = true)
    (hd : ∀ a s {w : World σ}, w.cancelled = true → (dispatch a s w).2.2.cancelled = true) :
    (onWorld evaluate dispatch policy cancellable).StaysCancelled := by
  have stays : ∀ {w v : World σ}, (w.cancelled = true → v.cancelled = true) →
      (cancellable && w.cancelled) = true → (cancellable && v.cancelled) = true := fun h hw => by
    obtain ⟨hc, hset⟩ := Bool.and_eq_true_iff.mp hw
    exact Bool.and_eq_true_iff.mpr ⟨hc, h hset⟩
  refine ⟨fun c s w => stays (he c s), fun a s w => stays (hd a s), fun _ _ _ _ => id, fun {_} => id, fun {w v} h => ?_⟩
  obtain ⟨clock, -, rfl⟩ := Option.map_eq_some_iff.mp h
  exact id

/-- An executor with an action that cancels the run; a failed step is passed over. -/
def stoppable : Executor (World Unit) :=
  .onWorld .permissive (fun action s w =>
    if action = "stop" then (.done (), s, { w with cancelled := true }) else Dispatcher.vocabulary action s w)
    .proceed true

/-- A session whose first action is that one. -/
def stoppableSession : Session :=
  .start "run" ⟨"p", "g", [⟨"a", ["stop", "set a = true"], []⟩, ⟨"b", ["set b = true"], []⟩]⟩ .empty
    { mode := .adaptive }

theorem stoppable_staysCancelled : stoppable.StaysCancelled := by
  refine onWorld_staysCancelled (fun _ _ _ h => h) fun a s w h => ?_
  split
  · rfl
  · unfold Dispatcher.vocabulary
    split <;> exact h

theorem cancellation_is_final_stoppable : stoppable.StaysCancelled ∧ ∃ runs s' w',
    stoppable.Series stoppableSession (.frozen 0 ()) runs s' w' ∧ s'.trace.length = 2 ∧
    (Event.calls (Made.events runs)).map (·.action) = ["stop"] := by
  refine ⟨stoppable_staysCancelled, ?_⟩
  have hseen : (stoppable.observed.run stoppableSession (.frozen 0 (), [])).map (fun r =>
      (r.2.1.trace.length, (Event.calls r.2.2.2).head?.map (·.action))) = some (2, some "stop") := by decide +kernel
  rcases stoppable.breaksOff_or_ran stoppableSession (.frozen 0 ()) with ⟨hnone, -⟩ | ⟨turns, o, s', w', hran⟩
  · have hruns : (stoppable.run stoppableSession (.frozen 0 ())).isSome = true := by decide +kernel
    rw [hnone] at hruns
    cases hruns
  rw [hran.noted, Option.map_some] at hseen
  obtain ⟨htrace, hfirst⟩ := Prod.mk.inj (Option.some.inj hseen)
  obtain ⟨c, hc, hstop⟩ := Option.map_eq_some_iff.mp hfirst
  obtain ⟨bs, rfl, htime⟩ := hran.timeline
  have hseries : stoppable.Series stoppableSession (.frozen 0 ()) [⟨o, bs⟩] s' w' := .run hran htime id (.nil s' w')
  have hevents : Made.events [⟨o, bs⟩] = (bs.map (·.toTurn)).flatMap Turn.events := by
    rw [Made.events, List.flatMap_singleton, List.flatMap_map]
  refine ⟨_, s', w', hseries, htrace, ?_⟩
  rw [hevents]
  -- The first call sets the flag, so there is no other.
  obtain ⟨cs, hcalls⟩ := List.head?_eq_some_iff.mp hc
  obtain ⟨before, e, after, hlog, -, hcall, hrest⟩ := List.filterMap_eq_cons_iff.mp hcalls
  have hset : stoppable.Flagged (.frozen 0 ()) (before ++ [e]) := by
    refine Or.inr ⟨e, by simp, ?_⟩
    cases e with
    | evaluation | consultation => cases hcall
    | call d =>
      obtain rfl := Option.some.inj hcall
      show stoppable.isCancelled (stoppable.dispatch d.action d.state d.world).2.2 = true
      rw [hstop]
      rfl
  have hafter := (cancellation_is_final stoppable_staysCancelled hseries).2.1 (before ++ [e]) after
    (hevents.trans (hlog.trans (List.append_cons before e after))) hset
  obtain rfl : cs = [] := hrest.symm.trans hafter
  rw [hcalls, List.map_singleton, hstop]

end Executor

end Runbook
