import Runbook.Proofs.Path

/-!
# The modes of a run

A strict run is an adaptive one that is cut at the first failure. To halt at every failure is one recovery policy among
others, and a strict run is the adaptive run under it.

* `Session.inMode`, `Executor.under` : a session in another mode, an executor under another policy;
* `Executor.turn_under` : a policy decides on a turn, and changes nothing else in it;
* `run_inMode` : a strict run is an adaptive one that halts at every failure;
* `Cuts`, `run_cut` : how a run that goes on after every failure would have ended, had it halted there;
* `run_halting`, `run_strict` : both for fresh sessions; `Ticks.strict_cut` : on a clock that always moves on, both runs end;
* `strict_cuts_adaptive` : how a strict run goes with the adaptive ones.
-/

namespace Runbook

variable {ω : Type}

/-- The session under another identifier, in a mode. -/
def Session.inMode (s : Session) (runId : String) (mode : Mode) : Session :=
  { s with runId, options := { s.options with mode } }

/-- What follows the end of a step by a policy. -/
def Policy.ruling (p : Policy) (attempt : Nat) : StepEnd → Decision
  | .failed e => p.decision e attempt
  | _ => .proceed

/-- The records up to the first failed one, which is the last of them; all if none has failed. -/
def Record.upToFailure (trace : List Record) : List Record := trace.take (trace.findIdx (·.status == .failed) + 1)

theorem Record.findIdx_failed {rs : List Record} (hs : ∀ r ∈ rs, r.status ≠ .failed) :
    rs.findIdx (·.status == .failed) = rs.length := List.findIdx_eq_length_of_false (by simpa using hs)

theorem Record.upToFailure_of_none {rs : List Record} (hs : ∀ r ∈ rs, r.status ≠ .failed) : upToFailure rs = rs := by
  rw [upToFailure, findIdx_failed hs]
  exact List.take_of_length_le (Nat.le_succ _)

theorem Record.upToFailure_append {rs after : List Record} {r : Record} (hs : ∀ q ∈ rs, q.status ≠ .failed)
    (hr : r.status = .failed) : upToFailure (rs ++ r :: after) = rs ++ [r] := by
  have hfirst : (rs ++ r :: after).findIdx (·.status == .failed) = rs.length := by
    rw [List.findIdx_append, findIdx_failed hs, if_neg (Nat.lt_irrefl _), List.findIdx_cons, hr]
    exact Nat.zero_add _
  rw [upToFailure, hfirst, List.take_length_add_append, List.take_succ_cons, List.take_zero]

theorem Record.find?_of_none {rs : List Record} (hs : ∀ r ∈ rs, r.status ≠ .failed) :
    rs.find? (·.status == .failed) = none := List.find?_eq_none.mpr (by simpa using hs)

theorem Record.find?_append {rs after : List Record} {r : Record} (hs : ∀ q ∈ rs, q.status ≠ .failed)
    (hr : r.status = .failed) : (rs ++ r :: after).find? (·.status == .failed) = some r := by
  rw [List.find?_append, find?_of_none hs, List.find?_cons_of_pos (by rw [hr]; rfl)]
  rfl

/-- The turn with another decision. -/
def Turn.ruled (t : Turn ω) (d : Decision) : Turn ω := { t with decision := d }

theorem Turn.apply_inMode (t : Turn ω) (s : Session) (runId : String) (mode : Mode) :
    t.apply (s.inMode runId mode) = (t.apply s).inMode runId mode := by
  rw [t.apply_eq s, t.apply_eq (s.inMode runId mode), t.apply_cursor, t.apply_cursor, t.apply_attempt,
    t.apply_attempt]
  rfl

namespace Executor

variable (x : Executor ω)

/-! ## A turn under a policy -/

/-- The executor under another policy. -/
def under (p : Policy) : Executor ω := { x with recover := p.recovery }

theorem firstUnmet_under (p : Policy) (state : State) (cs : List String) (w : ω) :
    (x.under p).firstUnmet state cs w = x.firstUnmet state cs w := by
  induction cs generalizing w with
  | nil => rfl
  | cons c cs ih =>
    rw [firstUnmet, firstUnmet]
    simp only [ih]
    rfl

theorem applyActions_under (p : Policy) (as : List String) (state : State) (w : ω) :
    (x.under p).applyActions as state w = x.applyActions as state w := by
  induction as generalizing state w with
  | nil => rfl
  | cons a as ih =>
    rw [applyActions, applyActions]
    simp only [ih]
    rfl

theorem perform_under (p : Policy) (step : Step) (state : State) (w : ω) :
    (x.under p).perform step state w = x.perform step state w := by
  unfold perform
  rw [firstUnmet_under]
  simp only [applyActions_under]

theorem decision_under (p : Policy) {s : Session} (hm : s.options.mode = .adaptive) (step : Step) (e : StepEnd)
    (w : ω) : (x.under p).decision s step e w = (p.ruling s.attempt e, w) := by
  cases e with
  | succeeded | skipped => rfl
  | failed e =>
    unfold decision
    rw [hm]
    rfl

/-- In strict mode every failure halts, whatever the recovery. -/
theorem decision_strict {s : Session} (hm : s.options.mode = .strict) (step : Step) (e : StepEnd) (w : ω) :
    x.decision s step e w = (Policy.halt.ruling s.attempt e, w) := by
  cases e with
  | succeeded | skipped => rfl
  | failed e =>
    unfold decision
    rw [hm]
    rfl

theorem turn_under (p q : Policy) {s : Session} (hm : s.options.mode = .adaptive) (step : Step) (w : ω) :
    ∃ (t : Turn ω) (u : ω), (x.under p).turn step s w [] [] [] = (t.ruled (p.ruling s.attempt t.ending), u) ∧
      (x.under q).turn step s w [] [] [] = (t.ruled (q.ruling s.attempt t.ending), u) := by
  refine ⟨((x.under p).turn step s w [] [] []).1, ((x.under p).turn step s w [] [] []).2, ?_, ?_⟩
  · unfold turn Turn.ruled
    simp only [perform_under, x.decision_under p hm]
  · unfold turn Turn.ruled
    simp only [perform_under, x.decision_under p hm, x.decision_under q hm]
    rfl

/-- A strict turn is an adaptive one under the policy that halts. -/
theorem turn_inMode {s : Session} (hm : s.options.mode = .strict) (runId : String) (step : Step) (w : ω) :
    (x.under .halt).turn step (s.inMode runId .adaptive) w [] [] [] = x.turn step s w [] [] [] := by
  unfold turn
  simp only [perform_under, x.decision_strict hm, x.decision_under .halt (s := s.inMode runId .adaptive) rfl]
  rfl

theorem iterate_inMode {s : Session} (hm : s.options.mode = .strict) (runId : String) (step : Step) (w : ω) :
    (x.under .halt).iterate step (s.inMode runId .adaptive) w =
      (x.iterate step s w).map fun r => (r.1, r.2.1.inMode runId .adaptive, r.2.2) := by
  rw [x.iterate_turn step s w [] [] [], (x.under .halt).iterate_turn step _ w [] [] [], x.turn_inMode hm,
    Option.map_map]
  simp only [Turn.apply_inMode]
  rfl

/-! ## Strict runs -/

/-- Where one executor takes no step, another one with the same clock takes none either, in any mode, and the two come
to rest alike. -/
theorem loop_beside {x y : Executor ω} (hnow : y.now = x.now) (started : Instant) (n : Nat) (fresh : Bool)
    (s : Session) (w : ω) (runId : String) (mode : Mode) :
    (∃ o es v, x.loop started n fresh s w = some (o, { s with errors := es }, v) ∧
      y.loop started n fresh (s.inMode runId mode) w = some (o, { s with errors := es }.inMode runId mode, v)) ∨
    ∃ k step, n = k + 1 ∧ s.isEnded = false ∧ ¬ s.options.timeout ≤ Instant.elapsed started (x.now w).1 ∧
      s.currentStep? = some step := by
  by_cases he : s.isEnded = true
  · exact Or.inl ⟨_, s.errors, w, x.loop_ended he, y.loop_ended (s := s.inMode runId mode) he⟩
  rw [Bool.not_eq_true] at he
  by_cases hl : s.options.timeout ≤ Instant.elapsed started (x.now w).1
  · refine Or.inl ⟨_, _, _, x.loop_late he hl, ?_⟩
    rw [← hnow] at hl ⊢
    exact y.loop_late (s := s.inMode runId mode) he hl
  cases n with
  | zero =>
    refine Or.inl ⟨_, _, _, x.loop_zero he hl, ?_⟩
    rw [← hnow] at hl ⊢
    exact y.loop_zero (s := s.inMode runId mode) he hl
  | succ n =>
    cases hs : s.currentStep? with
    | none =>
      refine Or.inl ⟨_, s.errors, _, x.loop_dangling he hl hs, ?_⟩
      rw [← hnow] at hl ⊢
      exact y.loop_dangling (s := s.inMode runId mode) he hl hs
    | some step => exact Or.inr ⟨n, step, rfl, he, hl, rfl⟩

theorem loop_inMode (started : Instant) (n : Nat) (fresh : Bool) {s : Session} (hm : s.options.mode = .strict)
    (runId : String) (w : ω) : (x.under .halt).loop started n fresh (s.inMode runId .adaptive) w =
      (x.loop started n fresh s w).map fun r => (r.1, r.2.1.inMode runId .adaptive, r.2.2) := by
  have hnow : (x.under .halt).now = x.now := rfl
  rcases loop_beside hnow started n fresh s w runId .adaptive with
    ⟨o, es, v, hrest, hrest'⟩ | ⟨n, step, rfl, he, hl, hs⟩
  · rw [hrest, hrest', Option.map_some]
  rw [x.loop_step he hl hs, (x.under .halt).loop_step (s := s.inMode runId .adaptive) he hl hs, hnow,
    x.iterate_inMode hm]
  cases hi : x.iterate step s (x.now w).2 with
  | none => rfl
  | some r =>
    obtain ⟨t, -, hd, happly, -⟩ := x.iterate_observed [] he (Nat.lt_of_not_le hl) hs hi
    have hkept : r.2.1.options.mode = .strict := by rw [← happly, t.apply_options, hm]
    simp only [Option.map_some, Option.bind_some]
    by_cases hh : r.1 = .halt
    · rw [if_pos hh, if_pos hh]
      rfl
    · rw [if_neg hh, if_neg hh]
      exact loop_inMode started n false hkept runId r.2.2

/-- A strict run is an adaptive one that halts at every failure. -/
theorem run_inMode {s : Session} (hm : s.options.mode = .strict) (runId : String) (w : ω) :
    (x.under .halt).run (s.inMode runId .adaptive) w =
      (x.run s w).map fun r => (r.1, r.2.1.inMode runId .adaptive, r.2.2) := by
  rw [run_eq, run_eq]
  show ((x.under .halt).loop (x.now w).1 s.options.maxIterations true (s.inMode runId .adaptive) (x.now w).2).map _ = _
  rw [x.loop_inMode _ _ _ hm, Option.map_map, Option.map_map]
  rfl

/-! ## Failures that are passed over -/

variable {x}

/-- How a run from a session goes on after every failure and ends, and how it ends if it halts there: the same if no
step has failed, and otherwise just after the first one that has. -/
inductive Cuts (s : Session) (r : Outcome × Session × ω) : Outcome × Session × ω → Prop
  | whole {rs} (ht : r.2.1.trace = s.trace ++ rs) (hs : ∀ q ∈ rs, q.status ≠ .failed) : Cuts s r r
  | halted {rs q after s' w'} (ht : r.2.1.trace = s.trace ++ (rs ++ q :: after)) (hs : ∀ p ∈ rs, p.status ≠ .failed)
      (hq : q.status = .failed) (ht' : s'.trace = s.trace ++ (rs ++ [q])) (hstate : s'.state = q.after) :
      Cuts s r (.haltedOnError, s', w')

theorem Cuts.turn {s : Session} {t : Turn ω} {r r' : Outcome × Session × ω} (h : Cuts (t.apply s) r r')
    (ht : t.record.status ≠ .failed) : Cuts s r r' := by
  cases h with
  | whole htrace hs =>
    rw [t.apply_trace, List.append_assoc] at htrace
    exact .whole htrace (List.forall_mem_cons.mpr ⟨ht, hs⟩)
  | halted htrace hs hq htrace' hstate =>
    rw [t.apply_trace, List.append_assoc] at htrace htrace'
    exact .halted htrace (List.forall_mem_cons.mpr ⟨ht, hs⟩) hq htrace' hstate

theorem Cuts.finish {s : Session} {r r' : Outcome × Session × ω} (h : Cuts s r r') (started : Instant) :
    Cuts s (r.1, r.2.1.finish r.1 (Instant.elapsed started (x.now r.2.2).1), (x.now r.2.2).2)
      (r'.1, r'.2.1.finish r'.1 (Instant.elapsed started (x.now r'.2.2).1), (x.now r'.2.2).2) := by
  cases h with
  | whole ht hs => exact .whole ht hs
  | halted ht hs hq ht' hstate => exact .halted ht hs hq ht' hstate

section Trace
variable {s : Session} {r r' : Outcome × Session × ω}

theorem Cuts.trace_eq (h : Cuts s r r') (hs : s.trace = []) : r'.2.1.trace = Record.upToFailure r.2.1.trace := by
  cases h with
  | whole ht hrs =>
    rw [hs, List.nil_append] at ht
    rw [ht, Record.upToFailure_of_none hrs]
  | halted ht hrs hq ht' _ =>
    rw [hs, List.nil_append] at ht ht'
    rw [ht, Record.upToFailure_append hrs hq, ← ht']

theorem Cuts.eq_of_none (h : Cuts s r r') (hs : s.trace = []) (hn : r.2.1.trace.find? (·.status == .failed) = none) :
    r' = r := by
  cases h with
  | whole => rfl
  | halted ht hrs hq _ _ =>
    rw [ht, hs, List.nil_append, Record.find?_append hrs hq] at hn
    cases hn

theorem Cuts.halted_of_some (h : Cuts s r r') (hs : s.trace = []) {q : Record}
    (hq : r.2.1.trace.find? (·.status == .failed) = some q) : r'.1 = .haltedOnError ∧ r'.2.1.state = q.after := by
  cases h with
  | whole ht hrs =>
    rw [ht, hs, List.nil_append, Record.find?_of_none hrs] at hq
    cases hq
  | halted ht hrs hfailed _ hstate =>
    rw [ht, hs, List.nil_append, Record.find?_append hrs hfailed] at hq
    obtain rfl := Option.some.inj hq
    exact ⟨rfl, hstate⟩

end Trace

theorem loop_trace {started : Instant} {n : Nat} {fresh : Bool} {s : Session} {w : ω} {r : Outcome × Session × ω}
    (h : x.loop started n fresh s w = some r) : ∃ rs, r.2.1.trace = s.trace ++ rs := by
  obtain ⟨turns, m, v, hasked, -, hcloses, -⟩ := x.loop_asked n [] h
  obtain ⟨es, -, hs'⟩ := hcloses.stops
  exact ⟨turns.map Turn.record, by rw [hs']; exact hasked.path.trace⟩

theorem iterate_cut {s : Session} (hm : s.options.mode = .adaptive) {step : Step} {w : ω}
    {r : Decision × Session × ω} (h : (x.under .proceed).iterate step s w = some r) :
    ∃ (t : Turn ω) (v : ω), r = (.proceed, t.apply s, v) ∧
      ((t.record.status ≠ .failed ∧ (x.under .halt).iterate step s w = some (.proceed, t.apply s, v)) ∨
        (t.record.status = .failed ∧ (x.under .halt).iterate step s w = some (.halt, (t.ruled .halt).apply s, v))) := by
  obtain ⟨t, u, hproceed, hhalt⟩ := x.turn_under .proceed .halt hm step w
  rw [iterate_turn _ _ _ _ [] [] [], hproceed] at h
  rw [iterate_turn _ _ _ _ [] [] [], hhalt]
  obtain ⟨v, hv, rfl⟩ := Option.map_eq_some_iff.mp h
  rw [show (x.under .halt).stepFinished? u = some v from hv]
  cases he : t.ending with
  | succeeded =>
    have hstatus : t.record.status ≠ .failed := by rw [Turn.record_succeeded he]; decide
    exact ⟨t.ruled .proceed, v, rfl, Or.inl ⟨hstatus, rfl⟩⟩
  | skipped c =>
    have hstatus : t.record.status ≠ .failed := by rw [Turn.record_skipped he]; decide
    exact ⟨t.ruled .proceed, v, rfl, Or.inl ⟨hstatus, rfl⟩⟩
  | failed e => exact ⟨t.ruled .proceed, v, rfl, Or.inr ⟨(t.record_failed he).1, rfl⟩⟩

theorem loop_cut {started : Instant} (n : Nat) {fresh : Bool} {s : Session} (hm : s.options.mode = .adaptive) {w : ω}
    {r : Outcome × Session × ω} (h : (x.under .proceed).loop started n fresh s w = some r) :
    ∃ r', (x.under .halt).loop started n fresh s w = some r' ∧ Cuts s r r' := by
  -- By recursion on the turns left: both take the same turns as long as no step fails.
  have hnow : (x.under .halt).now = (x.under .proceed).now := rfl
  rcases loop_beside hnow started n fresh s w s.runId s.options.mode with
    ⟨o, es, v, hrest, hrest'⟩ | ⟨n, step, rfl, he, hl, hs⟩
  · obtain rfl := Option.some.inj (hrest.symm.trans h)
    exact ⟨_, hrest', .whole (List.append_nil _).symm (by simp)⟩
  rw [loop_step (x.under .proceed) he hl hs] at h
  rw [loop_step (x.under .halt) he hl hs]
  obtain ⟨q, hq, h⟩ := Option.bind_eq_some_iff.mp h
  obtain ⟨t, v, rfl, ⟨ht, hhalt⟩ | ⟨ht, hhalt⟩⟩ := iterate_cut hm hq
  · obtain ⟨r', hr', hcuts⟩ := loop_cut n (by rw [t.apply_options, hm]) h
    exact ⟨r', (congrArg (Option.bind · _) hhalt).trans hr', hcuts.turn ht⟩
  · -- The failed turn is the first of those that go on, and the last one of those that halt.
    obtain ⟨rs, hrs⟩ := loop_trace h
    have hgone : r.2.1.trace = s.trace ++ ([] ++ t.record :: rs) := by
      rw [hrs, t.apply_trace, List.append_assoc]
      rfl
    have hleft : ((t.ruled .halt).apply s).trace = s.trace ++ ([] ++ [t.record]) := (t.ruled .halt).apply_trace s
    have hstate : ((t.ruled .halt).apply s).state = t.record.after := by
      rw [Turn.apply_state, t.record_after]
      rfl
    exact ⟨_, congrArg (Option.bind · _) hhalt, .halted hgone (by simp) ht hleft hstate⟩

/-- A run that goes on after every failure and ends is cut at the first one, if it halts there. -/
theorem run_cut {s : Session} (hm : s.options.mode = .adaptive) {w : ω} {r : Outcome × Session × ω}
    (h : (x.under .proceed).run s w = some r) : ∃ r', (x.under .halt).run s w = some r' ∧ Cuts s r r' := by
  rw [run_eq] at h ⊢
  obtain ⟨q, hq, rfl⟩ := Option.map_eq_some_iff.mp h
  obtain ⟨q', hq', hcuts⟩ := loop_cut _ hm hq
  exact ⟨_, congrArg (Option.map _) hq', hcuts.finish (x := x) (x.now w).1⟩

/-! ## Fresh sessions -/

section Fresh
variable {runId runId' : String} {program : Program} {initial : State} {options : Options} {w v' : ω} {o' : Outcome}
  {f' : Session}

/-- A strict run is an adaptive one that halts at every failure, told under another identifier. -/
theorem run_halting (x : Executor ω) (runId runId' : String) (program : Program) (initial : State) (options : Options)
    (w : ω) : (x.under .halt).run (.start runId' program initial { options with mode := .adaptive }) w =
      (x.run (.start runId program initial { options with mode := .strict }) w).map fun r =>
        (r.1, r.2.1.inMode runId' .adaptive, r.2.2) :=
  x.run_inMode (s := .start runId program initial { options with mode := .strict }) rfl runId' w

/-- Beside an adaptive run that passes over failures there is a strict one, up to the first of them. -/
theorem run_strict (runId : String)
    (hrun' : (x.under .proceed).run (.start runId' program initial { options with mode := .adaptive }) w =
      some (o', f', v')) :
    ∃ o s' w', x.run (.start runId program initial { options with mode := .strict }) w = some (o, s', w') ∧
      s'.trace = Record.upToFailure f'.trace ∧
      (f'.trace.find? (·.status == .failed) = none →
        o = o' ∧ f'.report = { s'.report with runId := runId' } ∧ f'.checkpoints = s'.checkpoints ∧
          f'.cursor = s'.cursor ∧ w' = v') ∧
      ∀ r, f'.trace.find? (·.status == .failed) = some r →
        o = .haltedOnError ∧ s'.report.outcome = some .haltedOnError ∧ s'.report.finalState = r.after := by
  obtain ⟨r', hhalt, hcuts⟩ := run_cut rfl hrun'
  rw [x.run_halting runId] at hhalt
  obtain ⟨⟨o, s', w'⟩, hrun, rfl⟩ := Option.map_eq_some_iff.mp hhalt
  refine ⟨o, s', w', hrun, hcuts.trace_eq rfl, fun hnone => ?_, fun r hr => ?_⟩
  · have hsame := hcuts.eq_of_none rfl hnone
    simp only [Prod.mk.injEq] at hsame
    obtain ⟨rfl, rfl, rfl⟩ := hsame
    exact ⟨rfl, rfl, rfl, rfl, rfl⟩
  · obtain ⟨rfl, hstate⟩ := hcuts.halted_of_some rfl hr
    obtain ⟨turns, hran⟩ := x.run_ran hrun
    exact ⟨rfl, hran.outcome_eq, hstate⟩

theorem Ticks.under (hx : x.Ticks) (p : Policy) : (x.under p).Ticks := hx

/-- On a clock that always moves on, an adaptive run that passes over failures and a strict one both end, the strict one
at the first failure. -/
theorem Ticks.strict_cut (hx : x.Ticks) (runId runId' : String) (program : Program) (initial : State)
    (options : Options) (w : ω) : ∃ o s' w' o' f' v',
      x.run (.start runId program initial { options with mode := .strict }) w = some (o, s', w') ∧
      (x.under .proceed).run (.start runId' program initial { options with mode := .adaptive }) w = some (o', f', v') ∧
      s'.trace = Record.upToFailure f'.trace := by
  obtain ⟨turns, o', f', v', hran'⟩ :=
    (hx.under .proceed).ran (.start runId' program initial { options with mode := .adaptive }) w
  obtain ⟨o, s', w', hrun, htrace, -, -⟩ := run_strict runId hran'.ends
  exact ⟨o, s', w', o', f', v', hrun, hran'.ends, htrace⟩

end Fresh

/-- **Strict runs.** Of fresh sessions of one program in one state, under options that differ in the mode, one is run in
strict mode and the other in adaptive mode, in the same world. Where failures are passed over, the adaptive run breaks
off, or both end, and the records of the strict run are those of the adaptive one up to the first failed one. If there
is none, both leave the same, told under two identifiers; if there is one, the strict run is halted in the state that
this record has left. Where the adaptive run is halted by every failure, both break off, or both leave the same, in the
same world. -/
theorem strict_cuts_adaptive (runId runId' : String) (program : Program) (initial : State) (options : Options)
    (x : Executor ω) (w : ω) :
    let strict := Session.start runId program initial { options with mode := .strict }
    let adaptive := Session.start runId' program initial { options with mode := .adaptive }
    ((x.under .proceed).BreaksOff adaptive w ∨ ∃ o s' w' o' f' v',
      x.run strict w = some (o, s', w') ∧ (x.under .proceed).run adaptive w = some (o', f', v') ∧
        s'.trace = Record.upToFailure f'.trace ∧
        (f'.trace.find? (·.status == .failed) = none →
          o = o' ∧ f'.report = { s'.report with runId := runId' } ∧ f'.checkpoints = s'.checkpoints ∧
            f'.cursor = s'.cursor ∧ w' = v') ∧
        ∀ r, f'.trace.find? (·.status == .failed) = some r →
          o = .haltedOnError ∧ s'.report.outcome = some .haltedOnError ∧ s'.report.finalState = r.after) ∧
    ((x.BreaksOff strict w ∧ (x.under .halt).BreaksOff adaptive w) ∨ ∃ o s' f' w',
      x.run strict w = some (o, s', w') ∧ (x.under .halt).run adaptive w = some (o, f', w') ∧
        f'.report = { s'.report with runId := runId' } ∧ f'.checkpoints = s'.checkpoints ∧ f'.cursor = s'.cursor) := by
  intro strict adaptive
  refine ⟨?_, ?_⟩
  · rcases (x.under .proceed).run_ends adaptive w with hbreak | ⟨o', f', v', hrun'⟩
    · exact Or.inl hbreak
    obtain ⟨o, s', w', hrun, hcut⟩ := run_strict runId hrun'
    exact Or.inr ⟨o, s', w', o', f', v', hrun, hrun', hcut⟩
  · have hhalting : (x.under .halt).run adaptive w =
        (x.run strict w).map fun r => (r.1, r.2.1.inMode runId' .adaptive, r.2.2) := x.run_halting ..
    rcases x.run_ends strict w with hbreak | ⟨o, s', w', hrun⟩
    · refine Or.inl ⟨hbreak, breaksOff_of_run_eq_none ?_⟩
      rw [hhalting, hbreak.1, Option.map_none]
    · refine Or.inr ⟨o, s', s'.inMode runId' .adaptive, w', hrun, ?_, rfl, rfl, rfl⟩
      rw [hhalting, hrun, Option.map_some]

end Executor

end Runbook
