import Mathlib.Data.List.Chain
import Runbook.Proofs.Retained

/-!
# Continuity of traces

The records of a session lead from its first state to its live one without a gap, whatever steps did and however runs
ended, as long as no restore goes back to a stale checkpoint.

* `Leads` : records that lead from a state to another; `Continuous` : the same, link by link;
* `Session.Anchored` : the invariant of histories, with each checkpoint that is not stale tied to the part of the trace
  that leads to its state;
* `History.trace_continuous` : traces are continuous.
-/

namespace Runbook

variable {ω : Type}

/-- Records that lead from a state to another: each begins in the state that the one before left. -/
def Leads : State → List Record → State → Prop
  | s, [], t => t = s
  | s, r :: rs, t => r.before = s ∧ Leads r.after rs t

theorem leads_append {s u : State} {as bs : List Record} :
    Leads s (as ++ bs) u ↔ ∃ t, Leads s as t ∧ Leads t bs u := by
  induction as generalizing s with
  | nil => simp [Leads]
  | cons a as ih =>
    simp only [List.cons_append, Leads, ih]
    constructor
    · rintro ⟨ha, t, has, hbs⟩
      exact ⟨t, ⟨ha, has⟩, hbs⟩
    · rintro ⟨t, ⟨ha, has⟩, hbs⟩
      exact ⟨ha, t, has, hbs⟩

/-- The links of a trace: its first record begins in the initial state, each further one in the state that the record
before left, and the live state is the one that the last record left, the initial one if there is none. -/
structure Continuous (initial : State) (trace : List Record) (live : State) : Prop where
  first : ∀ r ∈ trace.head?, r.before = initial
  next : trace.IsChain fun a b => a.after = b.before
  last : live = (trace.getLast?.map (·.after)).getD initial

/-- A trace that leads from a state to another is continuous between them. -/
theorem Leads.continuous {s t : State} {rs : List Record} (h : Leads s rs t) : Continuous s rs t := by
  induction rs generalizing s with
  | nil => exact ⟨by simp, .nil, h⟩
  | cons r rs ih =>
    obtain ⟨hr, hrest⟩ := h
    obtain ⟨hfirst, hnext, hlast⟩ := ih hrest
    refine ⟨by simpa using hr, ?_, ?_⟩
    · rw [List.isChain_cons]
      exact ⟨fun b hb => (hfirst b hb).symm, hnext⟩
    · rw [hlast, List.getLast?_cons]
      cases rs.getLast? <;> rfl

namespace Session

/-- The records of a session lead to its live state, and those up to a checkpoint that is not stale lead to the state of
that checkpoint. -/
structure Anchored (initial : State) (s : Session) (all : List Checkpoint) (rs : List Rewind) : Prop
    extends Kept s all rs where
  live : Leads initial s.trace s.state
  captured : ∀ {k c}, all[k]? = some c → ¬ Stale rs k → Leads initial (s.trace.take c.traceLength) c.state

theorem anchored_start (runId : String) (program : Program) (initial : State) (options : Options) :
    Anchored initial (.start runId program initial options) [] [] :=
  ⟨kept_start runId program initial options, rfl, by simp⟩

/-- A turn adds a record that begins in the live state and leaves the next one; its checkpoint is taken right after
it. -/
theorem Anchored.turn {initial : State} {s : Session} {all : List Checkpoint} {rs : List Rewind} {t : Turn ω}
    (h : Anchored initial s all rs) (ht : t.before = s.state) :
    Anchored initial (t.apply s) (all ++ (t.checkpoint? s).toList) rs := by
  have hlive : Leads initial (s.trace ++ [t.record]) t.after :=
    leads_append.mpr ⟨s.state, h.live, by rw [t.record_before, ht], t.record_after.symm⟩
  have hold : ∀ {k c}, all[k]? = some c → ¬ Stale rs k →
      Leads initial ((s.trace ++ [t.record]).take c.traceLength) c.state := fun hk hf => by
    rw [List.take_append_of_le_length (h.within hk hf)]
    exact h.captured hk hf
  refine ⟨h.toKept.turn t, by rw [t.apply_trace, t.apply_state]; exact hlive, fun {k b} hk hf => ?_⟩
  rw [t.apply_trace]
  cases hc : t.checkpoint? s with
  | none =>
    rw [hc] at hk
    exact hold (by simpa using hk) hf
  | some c =>
    rw [hc] at hk
    obtain ⟨now, -, rfl⟩ := Option.map_eq_some_iff.mp hc
    rcases getElem?_concat hk with ⟨-, rfl⟩ | ⟨-, hk⟩
    · show Leads initial ((s.trace ++ [t.record]).take (s.trace.length + 1)) t.after
      rw [List.take_of_length_le (by simp)]
      exact hlive
    · exact hold hk hf

/-- After a restore of a checkpoint that is not stale, the cut trace leads to the state that was brought back. -/
theorem Anchored.restore {initial : State} {s s' : Session} {all : List Checkpoint} {rs : List Rewind} {i : Int}
    {k : Nat} (h : Anchored initial s all rs) (hk : s.number? all.length i = some k) (hs : s.restore? i = some s')
    (hf : ¬ Stale rs k) : Anchored initial s' all (⟨k, all.length⟩ :: rs) := by
  have hkept := h.toKept.restore hk hs
  obtain ⟨c, hc, rfl⟩ := restore_eq hs
  obtain ⟨k', hk', hget⟩ := get_number h.retained hc
  obtain rfl : k' = k := Option.some.inj (hk'.symm.trans hk)
  refine ⟨hkept, h.captured hget hf, fun {j b} hj hfresh => ?_⟩
  -- What is not stale lies within the cut trace, so cutting at it again gives what cutting the whole trace did.
  have hwithin : b.traceLength ≤ (s.trace.take c.traceLength).length := hkept.within hj hfresh
  rw [List.length_take] at hwithin
  show Leads initial ((s.trace.take c.traceLength).take b.traceLength) b.state
  rw [List.take_take, Nat.min_eq_left (by omega)]
  exact h.captured hj (not_stale_cons.mp hfresh).2

/-- **Traces are continuous.** In every history whose restores never go back to a stale checkpoint, the records lead
from the initial state to the live one, each from the state that the one before left. -/
theorem History.trace_continuous {initial : State} {s : Session} {n : Nat} {rs : List Rewind}
    (h : History initial s n rs) (hr : Steady rs) : Continuous initial s.trace s.state := by
  obtain ⟨all, -, hanchored⟩ := h.keeps (P := fun s all rs => Steady rs → Anchored initial s all rs)
    (fun runId program options _ => anchored_start runId program initial options)
    (fun htakes h hr => (h hr).turn htakes.before)
    (fun _ _ _ h hr => ⟨⟨(h hr).retained, (h hr).within, (h hr).ordered⟩, (h hr).live, (h hr).captured⟩)
    (fun h hk hs hr => (h hr.2).restore hk hs hr.1)
  exact (hanchored hr).live.continuous

/-- An executor whose actions write a field and then panic. -/
def panicking : Executor (World Unit) :=
  .onWorld .permissive (fun _ s w => (.panicked "no more", s.set "d" .null, w)) .proceed false

theorem panicking_run_isSome (s : Session) : (panicking.run s (.frozen 0 ())).isSome = true :=
  Executor.onWorld_run_isSome (fun _ _ _ => rfl) (fun _ _ _ => rfl) s rfl

theorem cutSession_runs : (panicking.run cutSession (.frozen 0 ())).isSome = true := panicking_run_isSome cutSession

/-- The session of three steps after a run, a restore and a run whose first action panics. -/
def rerunSession : Session := ((panicking.run cutSession (.frozen 0 ())).get cutSession_runs).2.1

theorem rerunSession_history : History .empty rerunSession 4 [⟨0, 3⟩] := by
  have hcount : 3 + captures cutSession rerunSession = 4 := by decide +kernel
  exact cutSession_history.run_counted (run_get cutSession_runs) hcount

theorem trace_continuous_rerun : Steady [⟨0, 3⟩] ∧ rerunSession.trace.map (·.status) = [.success, .failed] ∧
    Continuous .empty rerunSession.trace rerunSession.state := by
  have hsteady : Steady [⟨0, 3⟩] := ⟨by decide, trivial⟩
  exact ⟨hsteady, by decide +kernel, rerunSession_history.trace_continuous hsteady⟩

end Session

end Runbook
