import Runbook.Proofs.History
import Runbook.Proofs.Passage

/-!
# Retained checkpoints

A restore brings the state and the cursor of its checkpoint back. The trace is only ever cut, so its length comes back
where the present trace is as long as the captured one; that is so for every checkpoint that is not stale.

* `Session.Kept` : how the checkpoints of a history lie in the present trace;
* `History.kept` : they lie so in every history;
* `restore_round_trip` : what a restore brings back;
* `restore_falls_short` : it does not bring back the length of a trace that an older restore has cut.
-/

namespace Runbook.Session

variable {ω : Type}

/-- Among all checkpoints of a history the latest are retained, and each that is not stale lies within the present trace
and was captured no later in the trace than any checkpoint after it. -/
structure Kept (s : Session) (all : List Checkpoint) (rs : List Rewind) : Prop where
  retained : s.checkpoints.entries <:+ all
  within : ∀ {k c}, all[k]? = some c → ¬ Stale rs k → c.traceLength ≤ s.trace.length
  ordered : ∀ {j k b c}, j ≤ k → all[j]? = some b → all[k]? = some c → ¬ Stale rs j → b.traceLength ≤ c.traceLength

theorem push_suffix {store : CheckpointStore} {all : List Checkpoint} (c : Checkpoint) (h : store.entries <:+ all) :
    (store.push c).entries <:+ all ++ [c] := by
  obtain ⟨old, rfl⟩ := h
  refine (List.drop_suffix _ _).trans ?_
  rw [List.append_assoc]
  exact List.suffix_append old _

/-- A checkpoint of a list with one more is the last one, or was there before. -/
theorem getElem?_concat {all : List Checkpoint} {c b : Checkpoint} {k : Nat} (h : (all ++ [c])[k]? = some b) :
    (k = all.length ∧ b = c) ∨ (k < all.length ∧ all[k]? = some b) := by
  rcases Nat.lt_trichotomy k all.length with hk | rfl | hk
  · rw [List.getElem?_append_left hk] at h
    exact Or.inr ⟨hk, h⟩
  · rw [List.getElem?_concat_length] at h
    exact Or.inl ⟨rfl, (Option.some.inj h).symm⟩
  · rw [List.getElem?_append_right (Nat.le_of_lt hk), List.getElem?_eq_none (by simp; omega)] at h
    cases h

theorem kept_start (runId : String) (program : Program) (initial : State) (options : Options) :
    Kept (.start runId program initial options) [] [] :=
  ⟨List.suffix_refl [], by simp, by simp⟩

/-- A turn captures its checkpoint at the end of the trace, so those before it stay in order. -/
theorem Kept.turn {s : Session} {all : List Checkpoint} {rs : List Rewind} (h : Kept s all rs) (t : Turn ω) :
    Kept (t.apply s) (all ++ (t.checkpoint? s).toList) rs := by
  have hlength : (t.apply s).trace.length = s.trace.length + 1 := by
    rw [Turn.apply_trace, List.length_append, List.length_singleton]
  cases hc : t.checkpoint? s with
  | none =>
    rw [Option.toList_none, List.append_nil]
    refine ⟨?_, fun hk hf => ?_, h.ordered⟩
    · rw [Turn.apply_checkpoints, hc]
      exact h.retained
    · have hwithin := h.within hk hf
      omega
  | some c =>
    have hlast : c.traceLength = s.trace.length + 1 := by
      obtain ⟨now, -, rfl⟩ := Option.map_eq_some_iff.mp hc
      rfl
    rw [Option.toList_some]
    refine ⟨?_, fun hk hf => ?_, fun hjk hj hk hf => ?_⟩
    · rw [Turn.apply_checkpoints, hc]
      exact push_suffix c h.retained
    · rcases getElem?_concat hk with ⟨-, rfl⟩ | ⟨-, hmem⟩
      · omega
      · have hwithin := h.within hmem hf
        omega
    · rcases getElem?_concat hj with ⟨hlt, rfl⟩ | ⟨-, hmem⟩
      · rcases getElem?_concat hk with ⟨-, rfl⟩ | ⟨hlt', -⟩
        · exact Nat.le_refl _
        · omega
      · rcases getElem?_concat hk with ⟨-, rfl⟩ | ⟨-, hmem'⟩
        · have hwithin := h.within hmem hf
          omega
        · exact h.ordered hjk hmem hmem' hf

/-- What is not stale after a restore is no younger than its checkpoint, so the cut trace still holds it. -/
theorem Kept.restore {s s' : Session} {all : List Checkpoint} {rs : List Rewind} {i : Int} {k : Nat} (h : Kept s all rs)
    (hk : s.number? all.length i = some k) (hs : s.restore? i = some s') : Kept s' all (⟨k, all.length⟩ :: rs) := by
  obtain ⟨c, hc, rfl⟩ := restore_eq hs
  obtain ⟨k', hk', hget⟩ := get_number h.retained hc
  obtain rfl : k' = k := Option.some.inj (hk'.symm.trans hk)
  refine ⟨h.retained, fun {j b} hj hf => ?_, fun hjk hj hk hf => ?_⟩
  · obtain ⟨holder, hfresh⟩ := not_stale_cons.mp hf
    have hlt : j < all.length := (List.getElem?_eq_some_iff.mp hj).1
    -- Captured before the restore and not stale, so it is not younger than the target.
    have hle : j ≤ k' := by
      rcases holder with hle | hge
      · exact hle
      · exact absurd hge (Nat.not_le.mpr hlt)
    have hordered := h.ordered hle hj hget hfresh
    have hwithin := h.within hj hfresh
    show b.traceLength ≤ (s.trace.take c.traceLength).length
    rw [List.length_take]
    omega
  · exact h.ordered hjk hj hk (not_stale_cons.mp hf).2

/-- The checkpoints of every history lie in its trace as they should. -/
theorem History.kept {initial : State} {s : Session} {n : Nat} {rs : List Rewind} (h : History initial s n rs) :
    ∃ all, all.length = n ∧ Kept s all rs :=
  h.keeps (fun runId program options => kept_start runId program initial options)
    (fun {_ _ _ _ _ t} _ _ _ _ h => h.turn t) (fun _ _ _ h => ⟨h.retained, h.within, h.ordered⟩)
    (fun h hk hs => h.restore hk hs)

/-! ## Restores -/

/-- A program of three steps, each of which writes a field. -/
def threeSteps : Program :=
  ⟨"p", "g", [⟨"a", ["set a = true"], []⟩, ⟨"b", ["set b = true"], []⟩, ⟨"c", ["set c = true"], []⟩]⟩

/-- A session of three steps that captures checkpoints. -/
def freshSession : Session := .start "run" threeSteps .empty { checkpoint := true }

theorem freshSession_runs : (Executor.standard.run freshSession (.frozen 0 ())).isSome = true :=
  Executor.standard_run_isSome freshSession rfl

/-- The session of three steps after a run. -/
def ranSession : Session := ((Executor.standard.run freshSession (.frozen 0 ())).get freshSession_runs).2.1

theorem ranSession_restores : (ranSession.restore? 0).isSome = true := by decide +kernel

/-- The session of three steps back at its oldest checkpoint. -/
def cutSession : Session := (ranSession.restore? 0).get ranSession_restores

theorem ranSession_history : History .empty ranSession 3 [] := by
  have hstart : History .empty freshSession 0 [] := .start "run" threeSteps { checkpoint := true }
  have hcount : 0 + captures freshSession ranSession = 3 := by decide +kernel
  exact hstart.run_counted (run_get freshSession_runs) hcount

theorem cutSession_history : History .empty cutSession 3 [⟨0, 3⟩] :=
  ranSession_history.restore (by decide +kernel) (Option.some_get ranSession_restores).symm

/-- **What a restore brings back.** In every history a restore brings back the cursor and the state of its checkpoint,
and what its trace had up to there. The length of the trace comes back exactly where the present trace is that long: for
every checkpoint that is not stale, and never for one further on in the trace than that of a restore just before. -/
theorem restore_round_trip {initial : State} {s s' : Session} {n : Nat} {rs : List Rewind} {i : Int}
    (h : History initial s n rs) (hs : s.restore? i = some s') :
    ∃ c k, s.checkpoints.get? i = some c ∧ s.number? n i = some k ∧ s'.cursor = c.cursor ∧ s'.state = c.state ∧
      s'.trace = s.trace.take c.traceLength ∧
      (s'.trace.length = c.traceLength ↔ c.traceLength ≤ s.trace.length) ∧
      (¬ Stale rs k → s'.trace.length = c.traceLength) ∧
      ∀ j b s'', s'.checkpoints.get? j = some b → s'.restore? j = some s'' → c.traceLength < b.traceLength →
        s''.trace.length < b.traceLength := by
  obtain ⟨all, rfl, hkept⟩ := h.kept
  obtain ⟨c, hc, rfl⟩ := restore_eq hs
  obtain ⟨k, hk, hget⟩ := get_number hkept.retained hc
  have hlength : (s.trace.take c.traceLength).length = min c.traceLength s.trace.length := List.length_take
  refine ⟨c, k, hc, hk, rfl, rfl, rfl, ?_, fun hf => ?_, fun j b s'' hb hs'' hlt => ?_⟩
  · show (s.trace.take c.traceLength).length = _ ↔ _
    omega
  · have hwithin := hkept.within hget hf
    show (s.trace.take c.traceLength).length = _
    omega
  · obtain ⟨b', hb', rfl⟩ := restore_eq hs''
    obtain rfl : b' = b := Option.some.inj (hb'.symm.trans hb)
    show ((s.trace.take c.traceLength).take b'.traceLength).length < _
    rw [List.length_take, hlength]
    omega

theorem restore_round_trip_newest : ¬ Stale [] 2 ∧ ∃ s' c, ranSession.restore? (-1) = some s' ∧
    ranSession.checkpoints.get? (-1) = some c ∧ s'.trace.length = c.traceLength := by
  have hrestores : (ranSession.restore? (-1)).isSome = true := by decide +kernel
  obtain ⟨s', hs'⟩ := Option.isSome_iff_exists.mp hrestores
  have hnumber : ranSession.number? 3 (-1) = some 2 := by decide +kernel
  obtain ⟨c, k, hc, hk, -, -, -, -, hlength, -⟩ := restore_round_trip ranSession_history hs'
  obtain rfl : k = 2 := Option.some.inj (hk.symm.trans hnumber)
  exact ⟨by decide, s', c, hs', hc, hlength (by decide)⟩

/-- After a restore of the oldest of three checkpoints, a restore of the latest one leaves a trace of one record, where
three had been captured. -/
theorem restore_falls_short : History .empty cutSession 3 [⟨0, 3⟩] ∧
    (cutSession.checkpoints.get? 2).map (·.traceLength) = some 3 ∧
    (cutSession.restore? 2).map (·.trace.length) = some 1 :=
  ⟨cutSession_history, by decide +kernel, by decide +kernel⟩

end Runbook.Session
