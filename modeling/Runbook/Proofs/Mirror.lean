import Runbook.Proofs.Captured
import Runbook.Proofs.Retained

/-!
# Checkpoints that mirror the trace

Where checkpoints are captured and no restore has been made, the store holds one for each of the latest records.

* `Checkpoint.Mirrors` : what a checkpoint has of a record, by what was decided on it;
* `Session.Onward` : the sessions that runs alone lead to, with the decisions on their records;
* `Session.Mirrored` : the invariant, of all the checkpoints captured; `Mirrored.run` : a run keeps it;
* `History.checkpoints_mirror` : the checkpoints that are kept mirror the latest records.
-/

namespace Runbook

/-- The checkpoint of the record of a number, counted from 1: the state that the record left, with its digest, and the
step of the record as its cursor, none if the run was halted on it. -/
structure Checkpoint.Mirrors (c : Checkpoint) (number : Nat) (r : Record) (d : Decision) : Prop where
  traceLength : c.traceLength = number
  state : c.state = r.after
  digest : c.digest = r.after.digest
  cursor : c.cursor = if d = .halt then none else some r.step

theorem Turn.mark?_mirrors {ω : Type} {t : Turn ω} {n : Nat} {c : Checkpoint} (h : t.mark? n = some c) :
    c.Mirrors (n + 1) t.record t.decision := by
  obtain ⟨now, -, rfl⟩ := Option.map_eq_some_iff.mp h
  exact ⟨rfl, t.record_after.symm, by rw [t.record_after]; rfl, by rw [t.record_step]; rfl⟩

namespace Session

/-- The sessions that runs alone, each with an executor of its own, lead to from the start of some program in a state,
with what was decided on each of their records. -/
inductive Onward (initial : State) : Session → List Decision → Prop
  | start (runId : String) (program : Program) (options : Options) :
      Onward initial (.start runId program initial options) []
  | run {s ds} {ω : Type} {x : Executor ω} {w turns o s' w'} (before : Onward initial s ds)
      (hr : x.Ran s w turns o s' w') : Onward initial s' (ds ++ turns.map (·.decision))

variable {initial : State} {s s' : Session} {ds : List Decision} {all : List Checkpoint}

theorem History.onward {n : Nat} (h : History initial s n []) : ∃ ds, Onward initial s ds := by
  generalize hrs : ([] : List Rewind) = rs at h
  induction h with
  | start runId program options => exact ⟨[], .start runId program options⟩
  | @run s n rs ω x w o s' w' before hr ih =>
    obtain ⟨ds, hds⟩ := ih hrs
    obtain ⟨turns, hran⟩ := x.run_ran hr
    exact ⟨_, hds.run hran⟩
  | @resume s n rs ω x w report s' w' before hr ih =>
    obtain ⟨ds, hds⟩ := ih hrs
    obtain ⟨o, hrun⟩ := run_of_resume hr
    obtain ⟨turns, hran⟩ := x.run_ran hrun
    exact ⟨_, hds.run hran⟩
  | restore => cases hrs

theorem Onward.capacity (h : Onward initial s ds) : s.checkpoints.capacity = max s.options.maxCheckpoints 1 := by
  induction h with
  | start => rfl
  | run before hr ih => rw [hr.checkpoints, CheckpointStore.capacity_foldl_push, ih, hr.options]

/-- Of all the checkpoints captured, one for each record, the latest are kept. -/
structure Mirrored (s : Session) (ds : List Decision) (all : List Checkpoint) : Prop where
  stored : s.checkpoints.entries = all.drop (all.length - s.checkpoints.capacity)
  captured : all.length = s.trace.length
  decided : ds.length = s.trace.length
  mirrors : ∀ {k : Nat} {c : Checkpoint}, all[k]? = some c →
    ∃ r d, s.trace[k]? = some r ∧ ds[k]? = some d ∧ c.Mirrors (k + 1) r d

theorem Mirrored.run {ω : Type} {x : Executor ω} {w w' : ω} {turns : List (Turn ω)} {o : Outcome}
    (h : Mirrored s ds all) (hc : s.options.checkpoint = true) (hr : x.Ran s w turns o s' w') :
    Mirrored s' (ds ++ turns.map (·.decision)) (all ++ Turn.captured s.trace.length turns) := by
  have hcaptured : ∀ t ∈ turns, t.capturedAt.isSome = true := fun t ht => (hr.captured t ht).trans hc
  refine ⟨?_, ?_, ?_, fun {k c} hk => ?_⟩
  · rw [hr.checkpoints, CheckpointStore.capacity_foldl_push]
    exact CheckpointStore.entries_foldl_push _ h.stored
  · rw [hr.trace, List.length_append, List.length_append, List.length_map, Turn.captured_length hcaptured, h.captured]
  · rw [hr.trace, List.length_append, List.length_append, List.length_map, List.length_map, h.decided]
  · rw [hr.trace]
    -- The records before the run are as they were, and those of the run come behind them.
    by_cases hlt : k < all.length
    · rw [List.getElem?_append_left hlt] at hk
      obtain ⟨r, d, hr, hd, hmirrors⟩ := h.mirrors hk
      refine ⟨r, d, ?_, ?_, hmirrors⟩
      · rw [List.getElem?_append_left (by rw [← h.captured]; exact hlt), hr]
      · rw [List.getElem?_append_left (by rw [h.decided, ← h.captured]; exact hlt), hd]
    · have hle : all.length ≤ k := Nat.le_of_not_lt hlt
      have hplace : s.trace.length + (k - all.length) = k := by
        have hlength := h.captured
        omega
      rw [List.getElem?_append_right hle, Turn.captured_getElem? hcaptured, hplace] at hk
      obtain ⟨t, ht, hmark⟩ := Option.bind_eq_some_iff.mp hk
      refine ⟨t.record, t.decision, ?_, ?_, Turn.mark?_mirrors hmark⟩
      · rw [List.getElem?_append_right (by rw [← h.captured]; exact hle), ← h.captured, List.getElem?_map, ht,
          Option.map_some]
      · rw [List.getElem?_append_right (by rw [h.decided, ← h.captured]; exact hle), h.decided, ← h.captured,
          List.getElem?_map, ht, Option.map_some]

theorem Onward.mirrored (h : Onward initial s ds) (hc : s.options.checkpoint = true) : ∃ all, Mirrored s ds all := by
  induction h with
  | start => exact ⟨[], List.drop_nil.symm, rfl, rfl, by simp⟩
  | run before hr ih =>
    have hbefore := (congrArg Options.checkpoint hr.options).symm.trans hc
    obtain ⟨all, hall⟩ := ih hbefore
    exact ⟨_, hall.run hbefore hr⟩

/-- **Checkpoints mirror the trace.** Every history without a restore is one of runs, with what was decided on each of
their records. If its session captures checkpoints, there are as many of them as records, up to the number that the
options allow (a store keeps one at least), and they are those of the latest records, in order: each has the number of
its record as the length of the trace, its state, the digest of that state, and as its cursor the step of the record,
none exactly if the run was halted on it. -/
theorem History.checkpoints_mirror {n : Nat} (h : History initial s n []) (hc : s.options.checkpoint = true) :
    (∃ ds, Onward initial s ds) ∧ ∀ ds, Onward initial s ds →
      s.checkpoints.entries.length = min s.trace.length (max s.options.maxCheckpoints 1) ∧
      ∀ k c, s.checkpoints.entries[k]? = some c →
        let place := s.trace.length - s.checkpoints.entries.length + k
        ∃ r d, s.trace[place]? = some r ∧ ds[place]? = some d ∧ c.Mirrors (place + 1) r d := by
  refine ⟨h.onward, fun ds hds => ?_⟩
  obtain ⟨all, hall⟩ := hds.mirrored hc
  have hlength : s.checkpoints.entries.length = all.length - (all.length - s.checkpoints.capacity) := by
    rw [hall.stored, List.length_drop]
  have hcapacity := hds.capacity
  have hcaptured := hall.captured
  refine ⟨by omega, fun k c hk => ?_⟩
  have hplace : s.trace.length - s.checkpoints.entries.length + k = all.length - s.checkpoints.capacity + k := by omega
  rw [hall.stored, List.getElem?_drop] at hk
  simp only [hplace]
  exact hall.mirrors hk

/-- A program whose last step fails. -/
def failingSteps : Program :=
  ⟨"p", "g", [⟨"a", ["set a = true"], []⟩, ⟨"b", ["set b = true"], []⟩, ⟨"c", ["fail"], []⟩]⟩

/-- A session of it that keeps two checkpoints. -/
def failingSession : Session := .start "run" failingSteps .empty { checkpoint := true, maxCheckpoints := 2 }

theorem failingSession_runs : (Executor.standard.run failingSession (.frozen 0 ())).isSome = true :=
  Executor.standard_run_isSome failingSession rfl

/-- The session after a run, which its last step has halted. -/
def stoppedSession : Session := ((Executor.standard.run failingSession (.frozen 0 ())).get failingSession_runs).2.1

theorem checkpoints_mirror_stopped : History .empty stoppedSession 3 [] ∧ stoppedSession.options.checkpoint = true ∧
    stoppedSession.checkpoints.entries.map (·.cursor) = [some "b", none] ∧
    ∃ ds, Onward .empty stoppedSession ds ∧ stoppedSession.checkpoints.entries.length = min 3 2 ∧
      ds[2]? = some .halt := by
  have hstart : History .empty failingSession 0 [] :=
    .start "run" failingSteps { checkpoint := true, maxCheckpoints := 2 }
  have hcount : 0 + captures failingSession stoppedSession = 3 := by decide +kernel
  have hstopped : History .empty stoppedSession 3 [] := hstart.run_counted (run_get failingSession_runs) hcount
  have hcheckpoint : stoppedSession.options.checkpoint = true := by decide +kernel
  have hcursors : stoppedSession.checkpoints.entries.map (·.cursor) = [some "b", none] := by decide +kernel
  have hrecords : stoppedSession.trace.length = 3 := by decide +kernel
  have hkept : max stoppedSession.options.maxCheckpoints 1 = 2 := by decide +kernel
  obtain ⟨⟨ds, hds⟩, hmirror⟩ := hstopped.checkpoints_mirror hcheckpoint
  obtain ⟨hlength, hmirrors⟩ := hmirror ds hds
  rw [hrecords, hkept] at hlength
  refine ⟨hstopped, hcheckpoint, hcursors, ds, hds, hlength, ?_⟩
  obtain ⟨c, hc, hcursor⟩ : ∃ c, stoppedSession.checkpoints.entries[1]? = some c ∧ c.cursor = none := by
    have hlast := congrArg (·[1]?) hcursors
    simpa [List.getElem?_map] using hlast
  obtain ⟨r, d, -, hd, hmarks⟩ := hmirrors 1 c hc
  rw [hrecords, hlength] at hd
  have hhalt : d = .halt := by
    have hcut := hmarks.cursor
    rw [hcursor] at hcut
    split at hcut
    · assumption
    · cases hcut
  rw [← hhalt]
  exact hd

end Session

end Runbook
