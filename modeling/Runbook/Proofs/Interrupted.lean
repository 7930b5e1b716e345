import Runbook.Proofs.History
import Runbook.Proofs.Journey
import Runbook.Proofs.Lockstep
import Runbook.Proofs.Passage

/-!
# Interrupted runs

Runs that are interrupted again and again lead where one run without interruption leads, if nothing but the limits of
runs looks at the clock.

* `Session.Like` : sessions that leave the same, but for what is alike;
* `Executor.Follows` : a run that goes the way of given turns, or is interrupted on it, or has no end;
* `Executor.Retraced`, `Journey.retraced` : runs follow the turns of a journey, whatever their limits;
* `interruptions_leave_no_trace` : interrupted runs and a whole one leave the same.
-/

namespace Runbook

variable {ω μ : Type}

/-- Sessions that leave the same, but for what is alike and for errors that are not of steps. -/
structure Session.Like (R : Likeness ω) (s f : Session) : Prop where
  trace : List.Forall₂ (Record.Like R) s.trace f.trace
  stepErrors : List.Forall₂ (ErrorRecord.Like R) s.stepErrors f.stepErrors
  checkpoints : List.Forall₂ (Checkpoint.Like R) s.checkpoints.entries f.checkpoints.entries
  state : R.state s.state f.state
  cursor : s.cursor = f.cursor
  outcome : s.outcome = f.outcome

theorem CheckpointStore.foldl_push_like {R : Likeness ω} {cs ds : List Checkpoint}
    (h : List.Forall₂ (Checkpoint.Like R) cs ds) {a b : CheckpointStore} (hcapacity : a.capacity = b.capacity)
    (hentries : List.Forall₂ (Checkpoint.Like R) a.entries b.entries) :
    List.Forall₂ (Checkpoint.Like R) (cs.foldl .push a).entries (ds.foldl .push b).entries := by
  induction h generalizing a b with
  | nil => exact hentries
  | cons hc _ ih =>
    have hall := List.rel_append hentries (.cons hc .nil)
    refine ih hcapacity ?_
    unfold CheckpointStore.push
    simp only
    rw [hall.length_eq, hcapacity]
    exact List.forall₂_drop _ hall

namespace Executor

variable {x : Executor ω} {memory : ω → μ} {s s' m : Session} {w w' v : ω} {o : Outcome} {ts : List (Turn ω)}

/-- How a run of at most `n` iterations goes that follows the given turns, which have led to the session `m`: it has no
end, is interrupted, because its time budget is within `time` or its ceiling is not above the number of the turns, or
takes alike turns and leaves an alike session. -/
inductive Follows (x : Executor ω) (memory : ω → μ) (started : Instant) (g : Session) (u : ω) (n : Nat)
    (time : Duration) (ts : List (Turn ω)) (m : Session) : Option (Outcome × Session × ω) → Prop
  | broken : Follows x memory started g u n time ts m none
  | late {g' u'} (hl : g.options.timeout ≤ time) : Follows x memory started g u n time ts m (some (.timedOut, g', u'))
  | exhausted {g' u'} (hn : n ≤ ts.length) :
      Follows x memory started g u n time ts m (some (.exhaustedIterations, g', u'))
  | whole {g' u' us v} (hp : x.Path started g u us g' v) (hlike : List.Forall₂ (Turn.Like (.ofMemory memory)) ts us)
      (ha : m.Alike (.ofMemory memory) g') : Follows x memory started g u n time ts m (some (Turn.verdict ts, g', u'))

theorem Follows.cons {started : Instant} {g : Session} {u u' : ω} {n : Nat} {time time' : Duration} {t t' : Turn ω}
    {r : Option (Outcome × Session × ω)} (htakes : x.Takes started g u t' u') (hlike : t.Like (.ofMemory memory) t')
    (hd : t.decision ≠ .halt) (htime : time ≤ time') (h : x.Follows memory started (t'.apply g) u' n time ts m r) :
    x.Follows memory started g u (n + 1) time' (t :: ts) m r := by
  cases h with
  | broken => exact .broken
  | late hl => exact .late (by rw [Turn.apply_options] at hl; exact Nat.le_trans hl htime)
  | exhausted hn => exact .exhausted (Nat.succ_le_succ hn)
  | whole hp hlikes ha =>
    have hverdict : Turn.verdict ts = Turn.verdict (t :: ts) := by rw [Turn.verdict, if_neg hd]
    rw [hverdict]
    exact .whole (.cons htakes hp) (.cons hlike hlikes) ha

/-- From a session alike to `s`, in a world alike to `w`, runs follow the given turns to `m`, with one time for all that
differ in their limits only. -/
def Retraced (x : Executor ω) (memory : ω → μ) (s : Session) (w : ω) (ts : List (Turn ω)) (m : Session) : Prop :=
  ∀ started f u, s.Alike (.ofMemory memory) f → memory w = memory u → ∃ time, ∀ g n fresh,
    g.Alike (.same : Likeness ω) f → s.Alike (.ofMemory memory) g → (fresh = true → g.outcome = none) →
    x.Follows memory started g u n time ts m (x.loop started n fresh g u)

theorem Retraced.nil (hx : x.IgnoresClock memory) (hs : s.AtRest) : x.Retraced memory s w [] s := by
  intro started f u _ _
  refine ⟨Instant.elapsed started (x.now u).1, fun g n fresh _ ha hfresh => ?_⟩
  by_cases he : g.isEnded = true
  · have hcompleted : restingOutcome fresh g = Turn.verdict ([] : List (Turn ω)) := by
      cases fresh with
      | true => rw [restingOutcome, hfresh rfl]; rfl
      | false => rfl
    rw [x.loop_ended he, hcompleted]
    exact .whole (.nil _ _) .nil ha
  rw [Bool.not_eq_true] at he
  have hnone : g.currentStep? = none := by
    rw [← ha.currentStep?_eq]
    exact hs.resolve_left (by rw [ha.isEnded_eq hx.respects, he]; decide)
  by_cases hl : g.options.timeout ≤ Instant.elapsed started (x.now u).1
  · rw [x.loop_late he hl]
    exact .late hl
  cases n with
  | zero =>
    rw [x.loop_zero he hl]
    exact .exhausted (Nat.le_refl _)
  | succ n =>
    rw [x.loop_dangling he hl hnone]
    exact .whole (.nil _ _) .nil ha

theorem Retraced.pause {r : Session} {w₁ : ω} (hs : s.Paused r) (hw : memory w₁ = memory w)
    (h : x.Retraced memory r w₁ ts m) : x.Retraced memory s w ts m := by
  intro started f u ha hu
  obtain ⟨time, h⟩ := h started f u (hs.alike ha) (hw.trans hu)
  exact ⟨time, fun g n fresh hg ha hfresh => h g n fresh hg (hs.alike ha) hfresh⟩

theorem Retraced.turn (hx : x.IgnoresClock memory) {began : Instant} {t : Turn ω} {w₁ : ω}
    (first : x.Takes began s w t w₁) (hend : t.decision = .halt → ts = [] ∧ (t.apply s).Paused m)
    (h : x.Retraced memory (t.apply s) w₁ ts m) : x.Retraced memory s w (t :: ts) m := by
  intro started f u ha hu
  -- What `f` makes of the step, and its world before the tick, is what every run makes that differs in its limits only.
  obtain ⟨p, hp⟩ : ∃ p, x.turn t.step f (x.now u).2 [] [] [] = p := ⟨_, rfl⟩
  obtain ⟨hlike, hworld⟩ := hx.respects.takes_turn ha hu first [] [] []
  rw [hp] at hlike hworld
  obtain ⟨time, h⟩ : ∃ time, ∀ u₁, x.stepFinished? p.2 = some u₁ → ∀ g n fresh,
      g.Alike (.same : Likeness ω) (p.1.apply f) → (t.apply s).Alike (.ofMemory memory) g →
      (fresh = true → g.outcome = none) → x.Follows memory started g u₁ n time ts m (x.loop started n fresh g u₁) := by
    cases htick : x.stepFinished? p.2 with
    | none => exact ⟨0, nofun⟩
    | some u₁ =>
      have hmemory : memory w₁ = memory u₁ := hx.respects.tick hworld first.ticked htick
      obtain ⟨time, h⟩ := h started (p.1.apply f) u₁ (hlike.apply ha) hmemory
      refine ⟨time, fun u₂ hu₂ => ?_⟩
      obtain rfl := Option.some.inj hu₂
      exact h
  refine ⟨max (Instant.elapsed started (x.now u).1) time, fun g n fresh hg hs _ => ?_⟩
  have he : g.isEnded = false := by rw [← hs.isEnded_eq hx.respects, first.isOpen]
  have hnamed : g.currentStep? = some t.step := by rw [← hs.currentStep?_eq, first.named]
  rcases x.loop_open started n fresh u he hnamed with
    hloop | ⟨hl, g', u', hloop⟩ | ⟨rfl, g', u', hloop⟩ | ⟨k, t', u₁, rfl, htakes, hloop⟩
  · rw [hloop]
    exact .broken
  · rw [hloop]
    exact .late (Nat.le_trans hl (Nat.le_max_left ..))
  · rw [hloop]
    exact .exhausted (Nat.zero_le _)
  · have hstep : t'.step = t.step := Option.some.inj (by rw [← htakes.named, hnamed])
    obtain ⟨hlike', -⟩ := hx.respects.takes hs hu first htakes
    obtain ⟨hsame, hticked⟩ := takes_same hg htakes [] [] []
    rw [hstep, hp] at hsame hticked
    rw [hloop, ← hlike'.decision]
    by_cases hd : t.decision = .halt
    · obtain ⟨rfl, hpaused⟩ := hend hd
      rw [if_pos hd]
      have hverdict : Turn.verdict [t] = .haltedOnError := by rw [Turn.verdict, if_pos hd]
      rw [← hverdict]
      exact .whole (.cons htakes (.nil _ _)) (.cons hlike' .nil) (hpaused.alike (hlike'.apply hs))
    · rw [if_neg hd]
      exact .cons htakes hlike' hd (Nat.le_max_right ..)
        (h u₁ hticked (t'.apply g) k false (hsame.apply hg) (hlike'.apply hs) (fun hfresh => by cases hfresh))

/-- The turns of a path are followed, if those of the journey after it are. -/
theorem Path.retraced {started : Instant} {r : Session} {u u' : ω} {us : List (Turn ω)} (hx : x.IgnoresClock memory)
    (h : x.Path started s w ts m v) (hm : m.Paused r) (hu : memory u = memory v)
    (hrest : x.Journey memory r u us s' u') (hr : x.Retraced memory r u us s') :
    x.Retraced memory s w (ts ++ us) s' := by
  induction h with
  | nil => exact .pause hm hu hr
  | @cons s w t w₁ ts m v first rest ih =>
    refine .turn hx first (fun hd => ?_) (ih hm hu)
    -- A turn that halts the run is the last one.
    have hended := Session.isEnded_of_cursor_none (t.apply_cursor_halt s hd)
    obtain ⟨rfl, rfl⟩ := rest.of_ended hended
    obtain ⟨rfl, hpaused⟩ := hrest.of_ended (hm.isEnded.trans hended)
    exact ⟨rfl, hm.trans hpaused⟩

theorem Journey.retraced (hx : x.IgnoresClock memory) (h : x.Journey memory s w ts m v) (hm : m.AtRest) :
    x.Retraced memory s w ts m := by
  induction h with
  | nil => exact .nil hx hm
  | run course pause hu rest ih => exact course.retraced hx pause hu rest (ih hm)

/-- A run whose loop follows turns has no end, is interrupted, or is a journey of alike turns to an alike session. -/
theorem Follows.run {g : Session} {time : Duration}
    (h : x.Follows memory (x.now v).1 g (x.now v).2 g.options.maxIterations time ts m
      (x.loop (x.now v).1 g.options.maxIterations true g (x.now v).2)) :
    x.BreaksOff g v ∨ ∃ o f v', x.run g v = some (o, f, v') ∧
      ((o = .timedOut ∧ g.options.timeout ≤ time) ∨ (o = .exhaustedIterations ∧ g.options.maxIterations ≤ ts.length) ∨
        (o = Turn.verdict ts ∧ f.outcome = some o ∧ m.Alike (.ofMemory memory) f ∧
          ∃ us u, x.Journey memory g (x.now v).2 us f u ∧ List.Forall₂ (Turn.Like (.ofMemory memory)) ts us)) := by
  have hrun := x.run_eq g v
  generalize x.loop (x.now v).1 g.options.maxIterations true g (x.now v).2 = r at h hrun
  cases h with
  | broken => exact Or.inl (breaksOff_of_run_eq_none hrun)
  | late hl => exact Or.inr ⟨_, _, _, hrun, Or.inl ⟨rfl, hl⟩⟩
  | exhausted hn => exact Or.inr ⟨_, _, _, hrun, Or.inr (Or.inl ⟨rfl, hn⟩)⟩
  | @whole g' u' us u hp hlike ha =>
    have halike : ∀ o d, m.Alike (.ofMemory memory) (g'.finish o d) := fun o d =>
      ⟨ha.programs, ha.state, ha.cursor, ha.attempt, ha.mode, ha.checkpoint⟩
    exact Or.inr ⟨_, _, _, hrun, Or.inr (Or.inr ⟨rfl, rfl, halike _ _, us, u, hp.journey (.finish g' _ _), hlike⟩)⟩

/-- Journeys of alike turns from two fresh sessions leave the same. -/
theorem Journey.like {runId runId' : String} {program : Program} {initial : State} {options options' : Options}
    {f : Session} {u v' : ω} {us : List (Turn ω)} (h : x.Journey memory (.start runId program initial options) w ts m v)
    (h' : x.Journey memory (.start runId' program initial options') u us f v')
    (hcapacity : options.maxCheckpoints = options'.maxCheckpoints)
    (hlike : List.Forall₂ (Turn.Like (.ofMemory memory)) ts us) (ha : m.Alike (.ofMemory memory) f)
    (ho : m.outcome = f.outcome) : m.Like (.ofMemory memory) f where
  trace := by
    rw [h.trace, h'.trace]
    exact Turn.Like.records hlike
  stepErrors := by
    rw [h.stepErrors, h'.stepErrors]
    exact Turn.Like.stepErrors hlike
  checkpoints := by
    rw [h.checkpoints, h'.checkpoints]
    exact CheckpointStore.foldl_push_like (Turn.Like.captured hlike 0) (congrArg (max · 1) hcapacity) .nil
  state := ha.state
  cursor := ha.cursor
  outcome := ho

/-- **Interruptions leave no trace.** Where a program is run again and again, and interrupted, until a run is not, by an
executor whose strategies do not read the clock, a whole run under other limits breaks off with its clock, or is itself
interrupted, which it is not under limits that are high enough, or has the same outcome and leaves the same: records,
checkpoints and the errors of steps but for their times, the state and the cursor. -/
theorem interruptions_leave_no_trace {runId : String} {program : Program} {initial : State} {options : Options}
    (hx : x.IgnoresClock memory) (h : x.Reruns memory (.start runId program initial options) w o s') (runId' : String)
    (hv : memory v = memory w) :
    ∃ time : Duration, ∀ timeout maxIterations,
      let whole := Session.start runId' program initial { options with timeout, maxIterations }
      x.BreaksOff whole v ∨ ∃ o' f v', x.run whole v = some (o', f, v') ∧
        ((o' = .timedOut ∧ timeout ≤ time) ∨ (o' = .exhaustedIterations ∧ maxIterations ≤ s'.trace.length) ∨
          (o' = o ∧ s'.Like (.ofMemory memory) f)) := by
  obtain ⟨ts, u, hjourney, hrest, houtcome, rfl⟩ := h.journey hx fun _ => rfl
  have hmemory : memory (x.now w).2 = memory (x.now v).2 := (hx.now w).trans (hv.symm.trans (hx.now v).symm)
  obtain ⟨time, hfollows⟩ := hjourney.retraced hx hrest (x.now v).1 (.start runId' program initial options) (x.now v).2
    (.of_eq (fun _ => trivial) (fun _ => rfl) rfl rfl rfl rfl rfl rfl) hmemory
  refine ⟨time, fun timeout maxIterations => ?_⟩
  rcases Follows.run (hfollows (.start runId' program initial { options with timeout, maxIterations }) maxIterations
    true (.of_eq (fun _ => trivial) (fun _ => rfl) rfl rfl rfl rfl rfl rfl)
    (.of_eq (fun _ => trivial) (fun _ => rfl) rfl rfl rfl rfl rfl rfl) fun _ => rfl) with
    hbreaks | ⟨o', f, v', hrun, hend⟩
  · exact Or.inl hbreaks
  refine Or.inr ⟨o', f, v', hrun, ?_⟩
  rcases hend with htime | ⟨ho, hn⟩ | ⟨rfl, hf, ha, us, u', hjourney', hlike⟩
  · exact Or.inl htime
  · refine Or.inr (Or.inl ⟨ho, ?_⟩)
    rw [hjourney.trace, List.length_append, List.length_map]
    exact Nat.le_add_left_of_le hn
  · exact Or.inr (Or.inr ⟨rfl, hjourney.like hjourney' rfl hlike ha (houtcome.trans hf.symm)⟩)

/-! ## A run that is interrupted between two attempts -/

/-- An executor whose first call fails, and whose recovery tries again. -/
def flaky : Executor (World Nat) :=
  .onWorld .permissive (fun action s w =>
    if w.memory = 0 then (.failed (.action action "not yet"), s, { w with memory := 1 })
    else Dispatcher.vocabulary action s w) (.retry 3) false

/-- A session of one step, with one iteration to a run. -/
def briefSession : Session :=
  .start "run" ⟨"p", "g", [⟨"a", ["set a = true"], []⟩]⟩ .empty
    { mode := .adaptive, checkpoint := true, maxIterations := 1 }

theorem flaky_run_isSome (s : Session) {w : World Nat} (hw : w.clock.stepDuration = none) :
    (flaky.run s w).isSome = true := by
  refine onWorld_run_isSome (fun _ _ _ => rfl) (fun a s w => ?_) s hw
  show (if w.memory = 0 then _ else _ : Reply Unit × State × World Nat).2.2.clock = w.clock
  split
  · rfl
  · rw [Dispatcher.vocabulary_world]

theorem briefSession_runs : (flaky.run briefSession (.frozen 0 0)).isSome = true := flaky_run_isSome briefSession rfl

/-- The session after a run that ends before the second attempt. -/
def interruptedSession : Session := ((flaky.run briefSession (.frozen 0 0)).get briefSession_runs).2.1

theorem interruptedSession_runs : (flaky.run interruptedSession (.frozen 5 1)).isSome = true :=
  flaky_run_isSome interruptedSession rfl

/-- The session after a later run, which makes the second attempt. -/
def attemptedSession : Session := ((flaky.run interruptedSession (.frozen 5 1)).get interruptedSession_runs).2.1

theorem flaky_ignoresClock : flaky.IgnoresClock World.recalled := by
  refine onWorld_ignoresClock (fun _ _ _ _ h => ⟨rfl, h⟩) fun a s w v h => ?_
  obtain ⟨hmemory, hcancelled⟩ := Prod.mk.inj h
  rw [hmemory]
  split
  · exact ⟨rfl, rfl, Prod.ext rfl hcancelled⟩
  · unfold Dispatcher.vocabulary
    split <;> exact ⟨rfl, rfl, h⟩

theorem flaky_reruns : flaky.Reruns World.recalled briefSession (.frozen 0 0) .completed attemptedSession := by
  obtain ⟨o, w, hrun⟩ := Session.run_get briefSession_runs
  obtain ⟨o', w', hrun'⟩ := Session.run_get interruptedSession_runs
  have hfirst : (flaky.run briefSession (.frozen 0 0)).map (fun r => (r.1, r.2.2.recalled)) =
      some (.exhaustedIterations, 1, false) := by decide +kernel
  have hlast : (flaky.run interruptedSession (.frozen 5 1)).map (·.1) = some .completed := by decide +kernel
  rw [hrun] at hfirst
  rw [hrun'] at hlast
  obtain ⟨rfl, hw⟩ := Prod.mk.inj (Option.some.inj hfirst)
  obtain rfl := Option.some.inj hlast
  have hmemory : World.recalled (.frozen 5 1) = w.recalled := hw.symm
  exact .again hrun rfl hmemory (.last hrun' rfl)

theorem interruptions_leave_no_trace_flaky : flaky.IgnoresClock World.recalled ∧
    flaky.Reruns World.recalled briefSession (.frozen 0 0) .completed attemptedSession ∧
    attemptedSession.trace.map (fun r => (r.status, r.attempt)) = [(.failed, 1), (.success, 2)] ∧
    ∃ time : Duration, ∀ timeout maxIterations,
      let whole := Session.start "whole" briefSession.program .empty
        { briefSession.options with timeout, maxIterations }
      flaky.BreaksOff whole (.frozen 0 0) ∨ ∃ o f v, flaky.run whole (.frozen 0 0) = some (o, f, v) ∧
        ((o = .timedOut ∧ timeout ≤ time) ∨
          (o = .exhaustedIterations ∧ maxIterations ≤ attemptedSession.trace.length) ∨
          (o = .completed ∧ attemptedSession.Like (.ofMemory (@World.recalled Nat)) f)) := by
  have htrace : attemptedSession.trace.map (fun r => (r.status, r.attempt)) = [(.failed, 1), (.success, 2)] := by
    decide +kernel
  exact ⟨flaky_ignoresClock, flaky_reruns, htrace,
    interruptions_leave_no_trace flaky_ignoresClock flaky_reruns "whole" rfl⟩

end Executor

end Runbook
