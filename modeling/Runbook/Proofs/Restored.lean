import Runbook.Proofs.Continuity
import Runbook.Proofs.Lockstep

/-!
# Runs after a restore

A session that goes on from a checkpoint runs like a fresh one that starts there: nothing of its history reaches into
the run, but for the outcome of the latest run, which still stands where nothing is left to run.

* `Executor.Makes` : a run, its turns, and what it appends to its session;
* `makes_abreast` : runs of sessions at one place of a program make the same turns;
* `restored_runs_fresh` : a restored session runs like a fresh one;
* `outcome_after_restore` : the outcome of such a run;
* `restored_completed_halts` : where nothing is left to run, the outcome is that of an earlier run.
-/

namespace Runbook

variable {ω : Type}

namespace Turn

/-- A turn without its questions. -/
def silent (t : Turn ω) : Turn ω := { t with evaluations := [], calls := [], consultations := [] }

theorem Like.silent_eq {t u : Turn ω} (h : t.Like .same u) : t.silent = u.silent := by
  obtain ⟨hstep, hattempt, hstarted, hended, hbefore, hafter, hending, hdecision, hcaptured⟩ := h
  have hcaptured : t.capturedAt = u.capturedAt := by
    generalize t.capturedAt = a at hcaptured ⊢
    generalize u.capturedAt = b at hcaptured ⊢
    cases hcaptured with
    | none => rfl
    | some h => exact congrArg some h
  unfold silent
  rw [hstep, hattempt, show t.startedAt = u.startedAt from hstarted, show t.endedAt = u.endedAt from hended,
    show t.before = u.before from hbefore, show t.after = u.after from hafter, hending, hdecision, hcaptured]

theorem Like.silent_map {ts us : List (Turn ω)} (h : List.Forall₂ (Turn.Like .same) ts us) :
    ts.map silent = us.map silent := by
  induction h with
  | nil => rfl
  | cons h _ ih => rw [List.map_cons, List.map_cons, h.silent_eq, ih]

/-- Records, errors and checkpoints do not tell the questions of turns. -/
theorem map_record_silent (ts : List (Turn ω)) : (ts.map silent).map record = ts.map record := by
  rw [List.map_map]
  rfl

theorem flatMap_errors_silent (ts : List (Turn ω)) : (ts.map silent).flatMap errors = ts.flatMap errors := by
  rw [List.flatMap_map]
  rfl

theorem captured_silent (n : Nat) (ts : List (Turn ω)) : captured n (ts.map silent) = captured n ts := by
  induction ts generalizing n with
  | nil => rfl
  | cons t ts ih =>
    rw [List.map_cons, captured, captured, ih]
    rfl

end Turn

namespace Executor

/-- A run that ends makes turns, one after the other, and appends to its session their records, their errors and the
given ones, and the checkpoints that they capture. -/
structure Makes (x : Executor ω) (s : Session) (w : ω) (turns : List (Turn ω)) (es : List ErrorRecord) (o : Outcome)
    (s' : Session) (w' : ω) : Prop where
  ran : x.run s w = some (o, s', w')
  course : ∃ m v, x.Path (x.now w).1 s (x.now w).2 turns m v
  trace : s'.trace = s.trace ++ turns.map Turn.record
  errors : s'.errors = s.errors ++ turns.flatMap Turn.errors ++ es
  checkpoints : s'.checkpoints = (Turn.captured s.trace.length turns).foldl .push s.checkpoints

variable (x : Executor ω) {s f : Session} {w : ω}

theorem Makes.of_path {x : Executor ω} {turns : List (Turn ω)} {m : Session} {v w' : ω} {o : Outcome}
    {es : List ErrorRecord} {d : Duration} (hp : x.Path (x.now w).1 s (x.now w).2 turns m v)
    (hr : x.run s w = some (o, Session.finish { m with errors := m.errors ++ es } o d, w')) :
    x.Makes s w turns es o (Session.finish { m with errors := m.errors ++ es } o d) w' where
  ran := hr
  course := ⟨m, v, hp⟩
  trace := hp.trace
  errors := congrArg (· ++ es) hp.errors
  checkpoints := hp.checkpoints

/-- Sessions at one place of a program, under the same options but for the place to start at, run alike in one world:
both break off, or they make the same turns and end in the same state, at the same cursor and in the same world. -/
theorem makes_abreast (ha : s.Alike (.same : Likeness ω) f) (ht : s.options.timeout = f.options.timeout)
    (hm : s.options.maxIterations = f.options.maxIterations) : (x.BreaksOff s w ∧ x.BreaksOff f w) ∨
      ∃ turns turns' es o o' s' f' w', x.Makes s w turns es o s' w' ∧ x.Makes f w turns' es o' f' w' ∧
        turns.map Turn.silent = turns'.map Turn.silent ∧ s'.state = f'.state ∧ s'.cursor = f'.cursor ∧
        SameEnd s f true true o o' := by
  rcases run_alike x.respects_same x.inStep_same ha ht hm (rfl : w = w) with
    hbreaks | ⟨o, o', s', f', d, w', v', hrun, hrun', habreast, hworld, hend⟩
  · exact Or.inl hbreaks
  · obtain ⟨turns, turns', m, m', u, u', es, hp, hp', hturns, hafter, rfl, rfl⟩ := habreast
    cases hworld
    exact Or.inr ⟨turns, turns', es, o, o', _, _, w', .of_path hp hrun, .of_path hp' hrun',
      Turn.Like.silent_map hturns, hafter.state, hafter.cursor, hend⟩

end Executor

namespace Session

/-- The session that a restore of a checkpoint with a cursor leaves is at the place where a fresh one would start. -/
theorem restored_alike {s s' : Session} {i : Int} {c : Checkpoint} {name : String} (hs : s.restore? i = some s')
    (hc : s.checkpoints.get? i = some c) (hn : c.cursor = some name) (runId : String) :
    s'.Alike (.same : Likeness ω) (.start runId s.program c.state { s.options with resumeFrom := some name }) := by
  obtain ⟨b, hb, rfl⟩ := restore_eq hs
  obtain rfl : b = c := Option.some.inj (hb.symm.trans hc)
  exact .of_eq (fun _ => trivial) (fun _ => rfl) rfl rfl hn rfl rfl rfl

theorem restored_makes {s s' : Session} {i : Int} {c : Checkpoint} {name : String} (hs : s.restore? i = some s')
    (hc : s.checkpoints.get? i = some c) (hn : c.cursor = some name) (runId : String) (x : Executor ω) (w : ω) :
    let fresh := start runId s.program c.state { s.options with resumeFrom := some name }
    (x.BreaksOff s' w ∧ x.BreaksOff fresh w) ∨
      ∃ turns turns' es o o' s₁ f₁ w₁, x.Makes s' w turns es o s₁ w₁ ∧ x.Makes fresh w turns' es o' f₁ w₁ ∧
        turns.map Turn.silent = turns'.map Turn.silent ∧ s₁.state = f₁.state ∧ s₁.cursor = f₁.cursor ∧
        Executor.SameEnd s' fresh true true o o' := by
  have hoptions : s'.options = s.options := by
    obtain ⟨b, -, rfl⟩ := restore_eq hs
    rfl
  exact x.makes_abreast (restored_alike hs hc hn runId) (by rw [hoptions]; rfl) (by rw [hoptions]; rfl)

/-- **A restored session runs like a fresh one.** Whatever a session has been through, after a restore of a checkpoint
with a cursor any executor makes of it what it makes, in the same world, of a fresh session of the program that starts
at that cursor in the state of the checkpoint: both runs break off, or both append the same records and errors, capture
the same checkpoints but for the length of the trace they began with, and end in the same state and world, at the same
cursor. -/
theorem restored_runs_fresh {s s' : Session} {i : Int} {c : Checkpoint} {name : String} (hs : s.restore? i = some s')
    (hc : s.checkpoints.get? i = some c) (hn : c.cursor = some name) (runId : String) (x : Executor ω) (w : ω) :
    let fresh := start runId s.program c.state { s.options with resumeFrom := some name }
    (x.BreaksOff s' w ∧ x.BreaksOff fresh w) ∨
      ∃ turns turns' es o o' s₁ f₁ w₁, x.Makes s' w turns es o s₁ w₁ ∧ x.Makes fresh w turns' es o' f₁ w₁ ∧
        turns.map Turn.record = turns'.map Turn.record ∧ turns.flatMap Turn.errors = turns'.flatMap Turn.errors ∧
        Turn.captured s'.trace.length turns = (Turn.captured 0 turns').map (.later s'.trace.length) ∧
        s₁.state = f₁.state ∧ s₁.cursor = f₁.cursor := by
  rcases restored_makes hs hc hn runId x w with
    hbreaks | ⟨turns, turns', es, o, o', s₁, f₁, w₁, hmakes, hmakes', hsilent, hstate, hcursor, -⟩
  · exact Or.inl hbreaks
  · have hcaptured : Turn.captured s'.trace.length turns = Turn.captured s'.trace.length turns' := by
      rw [← Turn.captured_silent, hsilent, Turn.captured_silent]
    refine Or.inr ⟨turns, turns', es, o, o', s₁, f₁, w₁, hmakes, hmakes', ?_, ?_, ?_, hstate, hcursor⟩
    · rw [← Turn.map_record_silent, hsilent, Turn.map_record_silent]
    · rw [← Turn.flatMap_errors_silent, hsilent, Turn.flatMap_errors_silent]
    · rw [hcaptured, ← Turn.captured_add, Nat.zero_add]

theorem restored_runs_fresh_cut : ∃ c, ranSession.restore? 0 = some cutSession ∧
    ranSession.checkpoints.get? 0 = some c ∧ c.cursor = some "a" ∧
    ∃ turns turns' es o o' s₁ f₁ w₁, panicking.Makes cutSession (.frozen 0 ()) turns es o s₁ w₁ ∧
      panicking.Makes (.start "run" threeSteps c.state { checkpoint := true, resumeFrom := some "a" }) (.frozen 0 ())
        turns' es o' f₁ w₁ ∧ turns.map Turn.record = turns'.map Turn.record ∧ s₁.state = f₁.state := by
  have hrestore : ranSession.restore? 0 = some cutSession := (Option.some_get ranSession_restores).symm
  have hcursor : (ranSession.checkpoints.get? 0).bind Checkpoint.cursor = some "a" := by decide +kernel
  have hprogram : ranSession.program = threeSteps := by decide +kernel
  have hoptions : ranSession.options = { checkpoint := true } := by decide +kernel
  obtain ⟨c, hc, hn⟩ := Option.bind_eq_some_iff.mp hcursor
  refine ⟨c, hrestore, hc, hn, ?_⟩
  have hruns := restored_runs_fresh hrestore hc hn "run" panicking (.frozen 0 ())
  rw [hprogram, hoptions] at hruns
  rcases hruns with ⟨⟨hnone, -⟩, -⟩ | ⟨turns, turns', es, o, o', s₁, f₁, w₁, hmakes, hmakes', hrecords, -, -, hstate, -⟩
  · have hsome := cutSession_runs
    rw [hnone] at hsome
    cases hsome
  · exact ⟨turns, turns', es, o, o', s₁, f₁, w₁, hmakes, hmakes', hrecords, hstate⟩

/-! ## Outcomes -/

/-- **The outcome after a restore.** A run after a restore of a checkpoint with a cursor has the outcome of the run of a
fresh session that starts there, unless the state of the checkpoint is completed: then nothing runs, the fresh session
has completed, and in the restored one the outcome of its latest run still stands. -/
theorem outcome_after_restore {s s' : Session} {i : Int} {c : Checkpoint} {name : String} (hs : s.restore? i = some s')
    (hc : s.checkpoints.get? i = some c) (hn : c.cursor = some name) (runId : String) (x : Executor ω) (w : ω) :
    let fresh := start runId s.program c.state { s.options with resumeFrom := some name }
    (x.BreaksOff s' w ∧ x.BreaksOff fresh w) ∨
      ∃ o o' s₁ f₁ w₁, x.run s' w = some (o, s₁, w₁) ∧ x.run fresh w = some (o', f₁, w₁) ∧
        (c.state.isCompleted = false → o = o') ∧
        (c.state.isCompleted = true → o' = .completed ∧ o = s.outcome.getD .completed) := by
  rcases restored_makes hs hc hn runId x w with
    hbreaks | ⟨_, _, _, o, o', s₁, f₁, w₁, hmakes, hmakes', -, -, -, hend⟩
  · exact Or.inl hbreaks
  · obtain ⟨b, hb, rfl⟩ := restore_eq hs
    obtain rfl : b = c := Option.some.inj (hb.symm.trans hc)
    rw [Executor.SameEnd, isEnded_of_cursor_some hn] at hend
    refine Or.inr ⟨o, o', s₁, f₁, w₁, hmakes.ran, hmakes'.ran, fun hopen => ?_, fun hdone => ?_⟩
    · rcases hend with ⟨-, heq⟩ | ⟨hrest, -⟩
      · exact heq
      · exact absurd (hrest.symm.trans hopen) (by decide)
    · rcases hend with ⟨hrest, -⟩ | ⟨-, ho, ho'⟩
      · exact absurd (hrest.symm.trans hdone) (by decide)
      · exact ⟨ho', ho⟩

theorem outcome_after_restore_cut : ∃ c o o' s₁ f₁ w₁, ranSession.restore? 0 = some cutSession ∧
    ranSession.checkpoints.get? 0 = some c ∧ c.cursor = some "a" ∧ c.state.isCompleted = false ∧
    panicking.run cutSession (.frozen 0 ()) = some (o, s₁, w₁) ∧
    panicking.run (.start "run" ranSession.program c.state { ranSession.options with resumeFrom := some "a" })
      (.frozen 0 ()) = some (o', f₁, w₁) ∧ o = o' := by
  have hrestore : ranSession.restore? 0 = some cutSession := (Option.some_get ranSession_restores).symm
  have hcursor : (ranSession.checkpoints.get? 0).bind Checkpoint.cursor = some "a" := by decide +kernel
  have hopen : (ranSession.checkpoints.get? 0).map (·.state.isCompleted) = some false := by decide +kernel
  obtain ⟨c, hc, hn⟩ := Option.bind_eq_some_iff.mp hcursor
  have hopen : c.state.isCompleted = false := by simpa [hc] using hopen
  rcases outcome_after_restore hrestore hc hn "run" panicking (.frozen 0 ()) with
    ⟨⟨hnone, -⟩, -⟩ | ⟨o, o', s₁, f₁, w₁, hrun, hrun', heq, -⟩
  · have hsome := cutSession_runs
    rw [hnone] at hsome
    cases hsome
  · exact ⟨c, o, o', s₁, f₁, w₁, hrestore, hc, hn, hopen, hrun, hrun', heq hopen⟩

/-- A program of two steps, the last of which completes the state. -/
def completingSteps : Program :=
  ⟨"p", "g", [⟨"a", ["set a = true"], []⟩, ⟨"b", ["set completed = true"], []⟩]⟩

/-- A session that completes its state and captures checkpoints. -/
def completingSession : Session := .start "run" completingSteps .empty { checkpoint := true }

theorem completingSession_runs : (Executor.standard.run completingSession (.frozen 0 ())).isSome = true :=
  Executor.standard_run_isSome completingSession rfl

/-- The session after a run that has completed its state. -/
def completedSession : Session :=
  ((Executor.standard.run completingSession (.frozen 0 ())).get completingSession_runs).2.1

theorem completedSession_restores : (completedSession.restore? 0).isSome = true := by decide +kernel

/-- The session back at its first step. -/
def returnedSession : Session := (completedSession.restore? 0).get completedSession_restores

theorem returnedSession_history : History .empty returnedSession 2 [⟨0, 2⟩] := by
  have hstart : History .empty completingSession 0 [] := .start "run" completingSteps { checkpoint := true }
  have hcount : 0 + captures completingSession completedSession = 2 := by decide +kernel
  have hcompleted : History .empty completedSession 2 [] := hstart.run_counted (run_get completingSession_runs) hcount
  exact hcompleted.restore (by decide +kernel) (Option.some_get completedSession_restores).symm

theorem returnedSession_runs : (panicking.run returnedSession (.frozen 0 ())).isSome = true :=
  panicking_run_isSome returnedSession

/-- The session after a second run from its first step, which an action that panics has halted. -/
def haltedSession : Session := ((panicking.run returnedSession (.frozen 0 ())).get returnedSession_runs).2.1

theorem haltedSession_history : History .empty haltedSession 3 [⟨0, 2⟩] := by
  have hcount : 2 + captures returnedSession haltedSession = 3 := by decide +kernel
  exact returnedSession_history.run_counted (run_get returnedSession_runs) hcount

theorem haltedSession_restores : (haltedSession.restore? 1).isSome = true := by decide +kernel

theorem haltedSession_keeps : (haltedSession.checkpoints.get? 1).isSome = true := by
  obtain ⟨c, hc, -⟩ := restore_eq (Option.some_get haltedSession_restores).symm
  rw [hc]
  rfl

/-- The halted session back at its second checkpoint, in the completed state. -/
def staleSession : Session := (haltedSession.restore? 1).get haltedSession_restores

/-- The checkpoint of the completed state. -/
def completedCheckpoint : Checkpoint := (haltedSession.checkpoints.get? 1).get haltedSession_keeps

/-- After a run that has completed the state and one from an older checkpoint that was halted, a restore brings the
completed state back with a cursor; the next run ends as halted, where that of a fresh session has completed. -/
theorem restored_completed_halts : History .empty haltedSession 3 [⟨0, 2⟩] ∧
    haltedSession.restore? 1 = some staleSession ∧ haltedSession.checkpoints.get? 1 = some completedCheckpoint ∧
    completedCheckpoint.cursor = some "b" ∧ completedCheckpoint.state.isCompleted = true ∧
    (Executor.standard.run staleSession (.frozen 0 ())).map (·.1) = some .haltedOnError ∧
    (Executor.standard.run (.start "run" haltedSession.program completedCheckpoint.state
      { haltedSession.options with resumeFrom := some "b" }) (.frozen 0 ())).map (·.1) = some .completed :=
  ⟨haltedSession_history, (Option.some_get haltedSession_restores).symm, (Option.some_get haltedSession_keeps).symm,
    by decide +kernel, by decide +kernel, by decide +kernel, by decide +kernel⟩

end Session

end Runbook
