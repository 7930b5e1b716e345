import Runbook.Proofs.Path

/-!
# Histories of sessions

A session goes on by runs, each with strategies of its own, and goes back by restores. Checkpoints are numbered from 0
on in the order of their capture, those that have made room for later ones included.

* `Rewind`, `Stale` : a restore, and the checkpoints that restores have made stale;
* `Steady` : restores none of which went back to a stale checkpoint;
* `Session.History` : the sessions that runs and restores lead to;
* `Session.run_keeps`, `Session.History.keeps` : what turns, ends of runs and restores keep holds after every run, and in
  every history if it holds at the start.
-/

namespace Runbook

/-- A restore: the number of its checkpoint, and how many had been captured by then. -/
structure Rewind where
  target : Nat
  captured : Nat
deriving DecidableEq, Repr

/-- A checkpoint is stale once a restore to a strictly older one has happened since its capture. -/
def Stale (rs : List Rewind) (n : Nat) : Prop := ∃ r ∈ rs, r.target < n ∧ n < r.captured

instance (rs : List Rewind) (n : Nat) : Decidable (Stale rs n) :=
  inferInstanceAs (Decidable (∃ r ∈ rs, r.target < n ∧ n < r.captured))

/-- None of the restores, the latest first, went back to a checkpoint that was stale by then. -/
def Steady : List Rewind → Prop
  | [] => True
  | r :: rs => ¬ Stale rs r.target ∧ Steady rs

theorem not_stale_cons {r : Rewind} {rs : List Rewind} {n : Nat} :
    ¬ Stale (r :: rs) n ↔ (n ≤ r.target ∨ r.captured ≤ n) ∧ ¬ Stale rs n := by
  simp only [Stale, List.mem_cons, exists_eq_or_imp, not_or, Decidable.not_and_iff_not_or_not, Nat.not_lt]

namespace Session

/-- How many checkpoints a run from a session to another has captured: one with each record, if at all. -/
def captures (s s' : Session) : Nat := if s.options.checkpoint then s'.trace.length - s.trace.length else 0

/-- The number of the checkpoint that an index stands for once `n` have been captured; those kept are the latest. -/
def number? (s : Session) (n : Nat) (index : Int) : Option Nat :=
  (s.checkpoints.position? index).map (n - s.checkpoints.entries.length + ·)

/-- The sessions that lead from the start of some program in a state to the present one by runs and restores, with the
number of checkpoints captured and the restores, the latest first. Each run may have an executor of its own; a restore
that finds no checkpoint leaves the session as it is. -/
inductive History (initial : State) : Session → Nat → List Rewind → Prop
  | start (runId : String) (program : Program) (options : Options) :
      History initial (.start runId program initial options) 0 []
  | run {s n rs} {ω : Type} {x : Executor ω} {w o s' w'} (before : History initial s n rs)
      (hr : x.run s w = some (o, s', w')) : History initial s' (n + s.captures s') rs
  | resume {s n rs} {ω : Type} {x : Executor ω} {w report s' w'} (before : History initial s n rs)
      (hr : x.resume s w = some (report, s', w')) : History initial s' (n + s.captures s') rs
  | restore {s n rs i k s'} (before : History initial s n rs) (hk : s.number? n i = some k)
      (hs : s.restore? i = some s') : History initial s' n (⟨k, n⟩ :: rs)

/-- A session that has been prepared is at the start of its history. -/
theorem prepare_history {runId text : String} {initial : State} {options : Options} {s : Session}
    (h : prepare runId text initial options = .ok s) : History initial s 0 [] := by
  unfold prepare at h
  cases hv : options.validate with
  | error e =>
    rw [hv] at h
    cases h
  | ok o =>
    rw [hv] at h
    cases h
    exact .start runId (Program.parse text) o

theorem run_of_resume {ω : Type} {x : Executor ω} {s s' : Session} {w w' : ω} {report : Report}
    (h : x.resume s w = some (report, s', w')) : ∃ o, x.run s w = some (o, s', w') := by
  unfold Executor.resume at h
  obtain ⟨⟨o, s₁, w₁⟩, hrun, heq⟩ := Option.map_eq_some_iff.mp h
  obtain ⟨-, rfl, rfl⟩ : s₁.report = report ∧ s₁ = s' ∧ w₁ = w' := by simpa using heq
  exact ⟨o, hrun⟩

theorem run_get {ω : Type} {x : Executor ω} {s : Session} {w : ω} (h : (x.run s w).isSome = true) :
    ∃ o w', x.run s w = some (o, ((x.run s w).get h).2.1, w') :=
  ⟨_, _, (Option.some_get h).symm⟩

/-- A history goes on by a run, whose checkpoints have been counted. -/
theorem History.run_counted {initial : State} {s s' : Session} {n m : Nat} {rs : List Rewind} {ω : Type}
    {x : Executor ω} {w : ω} (before : History initial s n rs) (hr : ∃ o w', x.run s w = some (o, s', w'))
    (hm : n + s.captures s' = m) : History initial s' m rs := by
  obtain ⟨o, w', hr⟩ := hr
  rw [← hm]
  exact before.run hr

/-- A restore goes back to the checkpoint of its index, and cuts the trace. -/
theorem restore_eq {s s' : Session} {i : Int} (h : s.restore? i = some s') :
    ∃ c, s.checkpoints.get? i = some c ∧
      s' = { s with state := c.state, cursor := c.cursor, trace := s.trace.take c.traceLength, attempt := 1 } := by
  obtain ⟨c, hc, rfl⟩ := Option.map_eq_some_iff.mp h
  exact ⟨c, hc, rfl⟩

/-- The checkpoint of an index is the one of its number among all that were captured. -/
theorem get_number {s : Session} {all : List Checkpoint} {i : Int} {c : Checkpoint}
    (hall : s.checkpoints.entries <:+ all) (hc : s.checkpoints.get? i = some c) :
    ∃ k, s.number? all.length i = some k ∧ all[k]? = some c := by
  obtain ⟨old, rfl⟩ := hall
  obtain ⟨k, hk, hget⟩ := Option.bind_eq_some_iff.mp hc
  refine ⟨old.length + k, ?_, ?_⟩
  · rw [number?, hk, Option.map_some, List.length_append, Nat.add_sub_cancel]
  · rw [List.getElem?_append_right (Nat.le_add_right ..), Nat.add_sub_cancel_left, hget]

/-! ## Invariants -/

/-- What turns keep, with the checkpoints they capture, paths keep. -/
theorem path_keeps {ω : Type} {x : Executor ω} {P : Session → List Checkpoint → Prop}
    (turn : ∀ {started s w t w' all}, x.Takes started s w t w' → P s all →
      P (t.apply s) (all ++ (t.checkpoint? s).toList))
    {started : Instant} {s m : Session} {w v : ω} {turns : List (Turn ω)} {all : List Checkpoint}
    (hp : x.Path started s w turns m v) (h : P s all) :
    ∃ new, new.length = (if s.options.checkpoint then turns.length else 0) ∧ P m (all ++ new) := by
  induction hp generalizing all with
  | nil => exact ⟨[], by simp, by simpa using h⟩
  | @cons s w t w₁ ts m w₂ first rest ih =>
    obtain ⟨new, hn, hm⟩ := ih (turn first h)
    rw [Turn.apply_options] at hn
    refine ⟨(t.checkpoint? s).toList ++ new, ?_, by rw [← List.append_assoc]; exact hm⟩
    have hc := first.captured
    rw [List.length_append, hn]
    cases ht : t.capturedAt with
    | none =>
      rw [ht] at hc
      simp [Turn.checkpoint?, ht, ← hc]
    | some now =>
      rw [ht] at hc
      simp [Turn.checkpoint?, ht, ← hc, Nat.add_comm]

/-- What turns and the ends of runs keep, runs keep, with as many checkpoints as they capture. -/
theorem run_keeps {ω : Type} {x : Executor ω} {P : Session → List Checkpoint → Prop}
    (turn : ∀ {started s w t w' all}, x.Takes started s w t w' → P s all →
      P (t.apply s) (all ++ (t.checkpoint? s).toList))
    (finish : ∀ {s all} (es : List ErrorRecord) (o : Outcome) (d : Duration), (∀ e ∈ es, e.kind ≠ .step) → P s all →
      P (Session.finish { s with errors := s.errors ++ es } o d) all)
    {s s' : Session} {w w' : ω} {o : Outcome} {all : List Checkpoint} (hr : x.run s w = some (o, s', w')) (h : P s all) :
    ∃ new, new.length = s.captures s' ∧ P s' (all ++ new) := by
  obtain ⟨turns, m, v, es, d, hpath, -, hstops, rfl, -⟩ := x.run_course hr
  obtain ⟨new, hnew, hm⟩ := path_keeps turn hpath h
  have htrace : m.trace.length - s.trace.length = turns.length := by
    rw [hpath.trace, List.length_append, List.length_map, Nat.add_sub_cancel_left]
  refine ⟨new, ?_, finish es o d hstops.kind_ne_step hm⟩
  rw [hnew, ← htrace]
  rfl

/-- What holds at the start, and is kept by turns, by the ends of runs and by restores, holds in every history, of all
the checkpoints captured in it. The end of a run notes no error of a step. -/
theorem History.keeps_noting {initial : State} {P : Session → List Checkpoint → List Rewind → Prop}
    (start : ∀ runId program options, P (.start runId program initial options) [] [])
    (turn : ∀ {ω : Type} {x : Executor ω} {started s w t w' all rs}, x.Takes started s w t w' → P s all rs →
      P (t.apply s) (all ++ (t.checkpoint? s).toList) rs)
    (finish : ∀ {s all rs} (es : List ErrorRecord) (o : Outcome) (d : Duration), (∀ e ∈ es, e.kind ≠ .step) →
      P s all rs → P (Session.finish { s with errors := s.errors ++ es } o d) all rs)
    (restore : ∀ {s all rs i k s'}, P s all rs → s.number? all.length i = some k → s.restore? i = some s' →
      P s' all (⟨k, all.length⟩ :: rs))
    {s : Session} {n : Nat} {rs : List Rewind} (h : History initial s n rs) :
    ∃ all, all.length = n ∧ P s all rs := by
  have run : ∀ {s n rs} {ω : Type} {x : Executor ω} {w o s' w'}, (∃ all, all.length = n ∧ P s all rs) →
      x.run s w = some (o, s', w') → ∃ all, all.length = n + s.captures s' ∧ P s' all rs := by
    intro s n rs ω x w o s' w' ⟨all, hall, hP⟩ hr
    obtain ⟨new, hnew, hP'⟩ := run_keeps (P := fun s all => P s all rs) turn finish hr hP
    exact ⟨all ++ new, by rw [List.length_append, hall, hnew], hP'⟩
  induction h with
  | start runId program options => exact ⟨[], rfl, start runId program options⟩
  | run _ hr ih => exact run ih hr
  | resume _ hr ih =>
    obtain ⟨o, hrun⟩ := run_of_resume hr
    exact run ih hrun
  | restore _ hk hs ih =>
    obtain ⟨all, rfl, hP⟩ := ih
    exact ⟨all, rfl, restore hP hk hs⟩

/-- What holds at the start, and is kept by turns, by the ends of runs whatever errors they note, and by restores, holds
in every history. -/
theorem History.keeps {initial : State} {P : Session → List Checkpoint → List Rewind → Prop}
    (start : ∀ runId program options, P (.start runId program initial options) [] [])
    (turn : ∀ {ω : Type} {x : Executor ω} {started s w t w' all rs}, x.Takes started s w t w' → P s all rs →
      P (t.apply s) (all ++ (t.checkpoint? s).toList) rs)
    (finish : ∀ {s all rs} (es : List ErrorRecord) (o : Outcome) (d : Duration), P s all rs →
      P (Session.finish { s with errors := s.errors ++ es } o d) all rs)
    (restore : ∀ {s all rs i k s'}, P s all rs → s.number? all.length i = some k → s.restore? i = some s' →
      P s' all (⟨k, all.length⟩ :: rs))
    {s : Session} {n : Nat} {rs : List Rewind} (h : History initial s n rs) :
    ∃ all, all.length = n ∧ P s all rs :=
  h.keeps_noting start turn (fun es o d _ hP => finish es o d hP) restore

end Session

end Runbook
