import Runbook.Proofs.Cancelled
import Runbook.Proofs.Interrupted
import Runbook.Proofs.Modes
import Runbook.Proofs.Progress

/-!
# Bounded retries

Under the policy that tries a failed step again, up to a number of attempts in total, each step is tried at most that
often, and at least once, so that a run cannot be kept from its end by failures alone.

* `Program.stepsFrom`, `Session.recordsOf` : the steps ahead, the records of one step;
* `Policy.ruling_retry`, `Takes.ruled` : what the policy makes of a turn;
* `Climbs.count_last` : there are as many records of a step as its last attempt counts;
* `Retrying` : what every session of such a run has; `Retrying.again` : its counter goes on by one;
  `Retrying.length_le` : a path that leaves work to do has not used up the attempts at the steps ahead;
* `CutShort`, `Retrying.cut_short` : why a failed step is not tried again;
* `retries_bounded` : how often the steps of a fresh session are tried.
-/

namespace Runbook

variable {ω : Type}

/-- The number of steps from the one that a cursor names on; none for a cursor that names no step. -/
def Program.stepsFrom (p : Program) (cursor : Option String) : Nat :=
  ((cursor.bind p.position?).map (p.steps.length - ·)).getD 0

/-- The records of the step of a name. -/
def Session.recordsOf (s : Session) (name : String) : List Record := s.trace.filter (·.step == name)

namespace Program

variable {p : Program}

theorem stepsFrom_getElem (hn : (p.steps.map (·.name)).Nodup) {k : Nat} {step : Step} (hk : p.steps[k]? = some step) :
    p.stepsFrom (some step.name) = p.steps.length - k := by
  rw [stepsFrom, Option.bind_some, position?_getElem hn hk, Option.map_some, Option.getD_some]

end Program

namespace Session

variable {s : Session}

theorem place_of_currentStep? {step : Step} (h : s.currentStep? = some step) :
    ∃ k : Nat, s.program.steps[k]? = some step ∧ s.cursor = some step.name := by
  obtain ⟨name, hcursor, hstep⟩ := Option.bind_eq_some_iff.mp h
  obtain ⟨k, hk⟩ := List.mem_iff_getElem?.mp (List.mem_of_find?_eq_some hstep)
  exact ⟨k, hk, by rw [hcursor, Program.name_eq_of_step? hstep]⟩

theorem recordsOf_last {name : String} {r : Record} (h : (s.recordsOf name).getLast? = some r) :
    ∃ before after, s.trace = before ++ r :: after ∧ r.step = name ∧ ∀ q ∈ after, q.step ≠ name := by
  obtain ⟨rs, hrs⟩ := List.getLast?_eq_some_iff.mp h
  obtain ⟨front, back, htrace, -, hback⟩ := List.filter_eq_append_iff.mp hrs
  obtain ⟨middle, after, rfl, -, hname, hafter⟩ := List.filter_eq_cons_iff.mp hback
  refine ⟨front ++ middle, after, by rw [htrace, List.append_assoc], beq_iff_eq.mp hname, fun q hq hstep => ?_⟩
  exact List.filter_eq_nil_iff.mp hafter q hq (beq_iff_eq.mpr hstep)

end Session

/-! ## The policy -/

section Policy
variable {n a : Nat} {ending : StepEnd} {e : StepError}

theorem Policy.ruling_retry (n a : Nat) (e : StepError) : (retry n).ruling a (.failed e) =
    if e = .cancelled then .halt else if a < n then .retry else .proceed := rfl

theorem Policy.lt_of_ruling_retry (h : (retry n).ruling a ending = .retry) : a < n := by
  cases ending with
  | succeeded | skipped => cases h
  | failed e =>
    rw [ruling_retry] at h
    by_contra hle
    rw [if_neg hle] at h
    split at h <;> cases h

theorem Policy.ruling_of_lt (e : StepError) (h : a < n) : (retry n).ruling a (.failed e) = .retry ∨
    e = .cancelled ∧ (retry n).ruling a (.failed e) = .halt := by
  rw [ruling_retry, if_pos h]
  by_cases he : e = .cancelled
  · exact Or.inr ⟨he, if_pos he⟩
  · exact Or.inl (if_neg he)

end Policy

theorem Turn.failed_of_record {t : Turn ω} (h : t.record.status = .failed) : ∃ e, t.ending = .failed e := by
  cases he : t.ending with
  | succeeded => rw [Turn.record_succeeded he] at h; cases h
  | skipped c => rw [Turn.record_skipped he] at h; cases h
  | failed e => exact ⟨e, rfl⟩

/-! ## Counting attempts -/

namespace Climbs

variable {p : Program} {k a : Nat} {bs : List (List Record)}

theorem placed (h : Climbs p k a bs) :
    ∀ r ∈ bs.flatten, ∃ j step, k ≤ j ∧ p.steps[j]? = some step ∧ r.step = step.name := by
  induction h with
  | nil => simp
  | cons hs hb rest ih =>
    intro r hr
    rw [List.flatten_cons] at hr
    rcases List.mem_append.mp hr with hfirst | hlater
    · exact ⟨_, _, Nat.le_refl _, hs, hb.named r hfirst⟩
    · obtain ⟨j, step, hj, hstep, hname⟩ := ih r hlater
      exact ⟨j, step, Nat.le_of_succ_le hj, hstep, hname⟩

theorem count_last (hn : (p.steps.map (·.name)).Nodup) (h : Climbs p k 1 bs)
    (hfew : ∀ b ∈ bs, b.length < UInt32.size) {name : String} {r : Record}
    (hr : (bs.flatten.filter (·.step == name)).getLast? = some r) :
    (bs.flatten.filter (·.step == name)).length = r.attempt := by
  induction bs generalizing k with
  | nil => cases hr
  | cons b bs ih =>
    cases h with
    | @cons _ _ step _ _ hs hb rest =>
      obtain ⟨hfirst, hrest⟩ := List.forall_mem_cons.mp hfew
      rw [List.flatten_cons, List.filter_append] at hr ⊢
      by_cases hname : step.name = name
      · have hall : b.filter (·.step == name) = b := by
          rw [List.filter_eq_self]
          intro q hq
          rw [hb.named q hq, hname, beq_self_eq_true]
        have hnone : bs.flatten.filter (·.step == name) = [] := by
          rw [List.filter_eq_nil_iff]
          intro q hq hstep
          obtain ⟨j, next, hj, hnext, hqname⟩ := rest.placed q hq
          have hplace := Program.eq_of_name_eq hn hs hnext (by rw [hname, ← hqname, beq_iff_eq.mp hstep])
          omega
        rw [hall, hnone, List.append_nil] at hr ⊢
        -- The attempts of the block are numbered from 1 on.
        have hlength := List.length_pos_of_ne_nil hb.nonempty
        have hlast := congrArg (·.getLast?) (hb.numbered_of_few hfirst)
        simp only [List.getLast?_map, hr, Option.map_some, List.getLast?_range', if_neg (Nat.ne_of_gt hlength),
          Option.some.injEq] at hlast
        omega
      · have hnone : b.filter (·.step == name) = [] := by
          rw [List.filter_eq_nil_iff]
          intro q hq hstep
          exact hname ((hb.named q hq).symm.trans (beq_iff_eq.mp hstep))
        rw [hnone, List.nil_append] at hr ⊢
        exact ih rest hrest hr

end Climbs

namespace Executor

variable {x : Executor ω} {started : Instant} {s s' m : Session} {w w' v : ω} {turns ts us : List (Turn ω)} {t : Turn ω}
  {o : Outcome} {p : Policy} {n k : Nat}

/-! ## Paths under the policy -/

theorem Path.split (h : x.Path started s w (ts ++ us) m v) :
    ∃ r u, x.Path started s w ts r u ∧ x.Path started r u us m v := by
  induction ts generalizing s w with
  | nil => exact ⟨s, w, .nil s w, h⟩
  | cons t ts ih =>
    cases h with
    | cons first rest =>
      obtain ⟨r, u, hfront, hback⟩ := ih rest
      exact ⟨r, u, .cons first hfront, hback⟩

theorem Takes.ruled (h : x.Takes started s w t v) (hx : x.recover = p.recovery) (hm : s.options.mode = .adaptive) :
    t.decision = p.ruling s.attempt t.ending := by
  rw [← h.attempt]
  obtain ⟨u, u', hdecides⟩ := h.decided
  generalize t.ending = ending at hdecides ⊢
  generalize t.decision = d at hdecides ⊢
  generalize t.consultations = cs at hdecides
  cases hdecides with
  | settled hn =>
    cases ending with
    | succeeded | skipped => rfl
    | failed e => exact absurd rfl (hn e)
  | strict hs => rw [hm] at hs; cases hs
  | adaptive _ =>
    rw [ruling, hx]
    rfl

/-- A session of steps with different names, in adaptive mode, before one of the `n` attempts at a step that a policy
allows; the first attempt always is. -/
structure Retrying (x : Executor ω) (n : Nat) (s : Session) : Prop where
  few : n < UInt32.size
  recover : x.recover = (Policy.retry n).recovery
  mode : s.options.mode = .adaptive
  distinct : (s.program.steps.map (·.name)).Nodup
  within : s.attempt ≤ max n 1

/-- A step is tried again only before the last attempt allowed, so the counter goes on by one. -/
theorem Retrying.again (h : x.Retrying n s) (ht : x.Takes started s w t v) (hd : t.decision = .retry) :
    s.attempt < n ∧ (t.apply s).attempt = s.attempt + 1 := by
  have hruled := ht.ruled h.recover h.mode
  rw [hd] at hruled
  have hlt := Policy.lt_of_ruling_retry hruled.symm
  rw [t.apply_attempt, hd]
  exact ⟨hlt, nextAttempt_of_lt hlt h.few⟩

theorem Retrying.turn (h : x.Retrying n s) (ht : x.Takes started s w t v) : x.Retrying n (t.apply s) where
  few := h.few
  recover := h.recover
  mode := by rw [t.apply_options, h.mode]
  distinct := by rw [t.apply_program]; exact h.distinct
  within := by
    cases hd : t.decision with
    | proceed => rw [t.apply_attempt, hd]; exact Nat.le_max_right n 1
    | halt => rw [t.apply_attempt, hd]; exact h.within
    | retry =>
      obtain ⟨hlt, hnext⟩ := h.again ht hd
      rw [hnext]
      exact Nat.le_trans hlt (Nat.le_max_left n 1)

theorem Retrying.path (h : x.Retrying n s) (hp : x.Path started s w turns m v) : x.Retrying n m := by
  induction hp with
  | nil => exact h
  | cons first rest ih => exact ih (h.turn first)

/-- Every turn is one of the attempts allowed, and one that is tried again is not the last of them. -/
theorem Retrying.attempt_le (h : x.Retrying n s) (hp : x.Path started s w turns m v) :
    ∀ t ∈ turns, t.attempt ≤ max n 1 ∧ (t.decision = .retry → t.attempt < n) := by
  intro t ht
  obtain ⟨ts, us, rfl⟩ := List.append_of_mem ht
  obtain ⟨r, u, hfront, hback⟩ := hp.split
  cases hback with
  | cons first rest =>
    rw [first.attempt]
    exact ⟨(h.path hfront).within, fun hd => ((h.path hfront).again first hd).1⟩

/-- A path that leaves work to do has been shorter than what the steps ahead may take, each as often as allowed. -/
theorem Retrying.length_le (h : x.Retrying n s) (hp : x.Path started s w turns m v) {step : Step}
    (hk : s.program.steps[k]? = some step) (hc : s.cursor = some step.name) (ho : m.isEnded = false) :
    turns.length + s.attempt ≤ (s.program.steps.length - k) * max n 1 := by
  induction hp generalizing k step with
  | nil s w =>
    have hlt := (List.getElem?_eq_some_iff.mp hk).1
    have hone : max n 1 ≤ (s.program.steps.length - k) * max n 1 := Nat.le_mul_of_pos_left _ (by omega)
    rw [List.length_nil, Nat.zero_add]
    exact Nat.le_trans h.within hone
  | @cons s w t w₁ ts m v first rest ih =>
    obtain ⟨-, hcursor⟩ := first.place h.distinct hk hc
    have hattempt := t.apply_attempt s
    have hopen : (t.apply s).cursor ≠ none := by
      intro hnone
      obtain ⟨-, rfl⟩ := rest.of_ended (Session.isEnded_of_cursor_none hnone)
      rw [Session.isEnded_of_cursor_none hnone] at ho
      cases ho
    have hrest : ∀ {j : Nat} {next : Step}, s.program.steps[j]? = some next → (t.apply s).cursor = some next.name →
        ts.length + (t.apply s).attempt ≤ (s.program.steps.length - j) * max n 1 := by
      intro j next hnext hnamed
      rw [← t.apply_program s] at hnext ⊢
      exact ih (h.turn first) hnext hnamed ho
    rw [List.length_cons]
    -- Another attempt takes one turn of those left, the next step as many as are allowed.
    cases hd : t.decision with
    | proceed =>
      rw [hd] at hcursor
      have hfirst : (t.apply s).attempt = 1 := by rw [hattempt, hd]
      cases hnext : s.program.steps[k + 1]? with
      | none => exact absurd (by rw [hcursor, hnext, Option.map_none]) hopen
      | some next =>
        rw [hnext, Option.map_some] at hcursor
        have hlt := (List.getElem?_eq_some_iff.mp hnext).1
        have hahead := hrest hnext hcursor
        have hsplit : s.program.steps.length - k = (s.program.steps.length - (k + 1)) + 1 := by omega
        have hwithin := h.within
        rw [hsplit, Nat.add_mul, Nat.one_mul]
        omega
    | retry =>
      rw [hd] at hcursor
      obtain ⟨-, hagain⟩ := h.again first hd
      have hahead := hrest hk hcursor
      omega
    | halt =>
      rw [hd] at hcursor
      exact absurd hcursor hopen

/-! ## Runs under the policy -/

/-- Why a run ends after a failed turn that was not the last attempt allowed: it has been cancelled, its state is
completed, its time is up, or it may not iterate further. -/
inductive CutShort (limit : Nat) (turns : List (Turn ω)) (t : Turn ω) (s : Session) : Outcome → Prop
  | cancelled (he : t.ending = .failed .cancelled) : CutShort limit turns t s .haltedOnError
  | completed (hs : s.state.isCompleted = true) : CutShort limit turns t s .completed
  | timedOut {e} (he : s.errors.getLast? = some e) (hk : e.kind = .timeout) : CutShort limit turns t s .timedOut
  | exhausted {e} (hn : turns.length = limit) (he : s.errors.getLast? = some e) (hk : e.kind = .iterationLimit) :
      CutShort limit turns t s .exhaustedIterations

/-- A failed turn that was not the last attempt allowed, and is the last one of its step, is the last of its run. -/
theorem Retrying.cut_short (h : x.Retrying n s) (hran : x.Ran s w (ts ++ t :: us) o s' w')
    (hf : t.record.status = .failed) (ha : t.attempt < n) (hlast : ∀ u ∈ us, u.step.name ≠ t.step.name) :
    us = [] ∧ CutShort s.options.maxIterations (ts ++ t :: us) t s' o := by
  obtain ⟨m, v, es, d, hpath, hstops, hs'⟩ := hran.stops
  obtain ⟨r, u, hfront, hback⟩ := hpath.split
  cases hback with
  | cons first rest =>
    have hruled := first.ruled h.recover (h.path hfront).mode
    obtain ⟨e, he⟩ := Turn.failed_of_record hf
    rw [he, ← first.attempt] at hruled
    rcases Policy.ruling_of_lt e ha with hretry | ⟨rfl, hhalt⟩
    · -- The cursor stays, so a further turn would be of the same step.
      rw [hretry] at hruled
      have hcursor : (t.apply r).cursor = some t.step.name := by rw [t.apply_cursor, hruled, first.cursor_eq]
      have hnil : us = [] := by
        cases rest with
        | nil => rfl
        | cons again _ =>
          exact absurd (Option.some.inj (again.cursor_eq.symm.trans hcursor)) (hlast _ List.mem_cons_self)
      subst hnil
      cases rest
      refine ⟨rfl, ?_⟩
      cases hstops with
      | resting _ hturns => exact absurd hturns (by simp)
      | completed hended _ _ =>
        rw [Session.isEnded_of_cursor_some hcursor] at hended
        exact .completed (by rw [hs']; exact hended)
      | dangling _ hnone _ =>
        have hnamed : (t.apply r).currentStep? = r.currentStep? := by
          rw [Session.currentStep?, hcursor, t.apply_program, ← first.cursor_eq, Session.currentStep?]
        rw [hnamed, first.named] at hnone
        cases hnone
      | timedOut => exact .timedOut (by rw [hs']; exact List.getLast?_concat) rfl
      | exhausted _ _ hn _ => exact .exhausted hn (by rw [hs']; exact List.getLast?_concat) rfl
      | halted hturns hh _ =>
        obtain ⟨-, hsame⟩ := List.append_inj' hturns rfl
        obtain ⟨rfl, -⟩ := List.cons.inj hsame
        rw [hruled] at hh
        cases hh
    · obtain ⟨hnil, rfl, -⟩ := hran.halted (hruled.trans hhalt)
      exact ⟨hnil, .cancelled he⟩

theorem Path.of_unnamed (h : x.Path started s w turns m v) (hs : s.currentStep? = none) : turns = [] := by
  cases h with
  | nil => rfl
  | cons first rest =>
    rw [first.named] at hs
    cases hs

theorem Path.climbing (h : x.Path started s w turns m v) (hn : (s.program.steps.map (·.name)).Nodup)
    (ha : s.attempt = 1) : ∃ k bs, turns.map Turn.record = bs.flatten ∧ Climbs s.program k 1 bs := by
  cases hs : s.currentStep? with
  | none => exact ⟨0, [], by rw [h.of_unnamed hs]; rfl, .nil 0 1⟩
  | some step =>
    obtain ⟨k, hk, hcursor⟩ := Session.place_of_currentStep? hs
    obtain ⟨bs, -, hrecords, hclimbs, -⟩ := h.climbs hn hk hcursor (a := 1) ha
    exact ⟨k, bs, hrecords, hclimbs⟩

section Fresh
variable (h : x.Retrying n s) (hran : x.Ran s w turns o s' w') (ha : s.attempt = 1) (ht : s.trace = [])
include h hran ha ht

theorem Retrying.count_last {name : String} {r : Record} (hr : (s'.recordsOf name).getLast? = some r) :
    (s'.recordsOf name).length = r.attempt := by
  obtain ⟨m, v, es, d, hpath, -, -⟩ := hran.stops
  obtain ⟨k, bs, hrecords, hclimbs⟩ := hpath.climbing h.distinct ha
  have hgives : x.GivesUp := givesUp_of_policy h.recover fun _ hpolicy => Policy.retry.inj hpolicy ▸ h.few
  have hfew := hgives.length_lt hpath ha hrecords hclimbs
  rw [Session.recordsOf, hran.trace, ht, List.nil_append, hrecords] at hr ⊢
  exact hclimbs.count_last h.distinct hfew hr

theorem Retrying.recordsOf_length_le (name : String) : (s'.recordsOf name).length ≤ max n 1 := by
  cases hr : (s'.recordsOf name).getLast? with
  | none =>
    rw [List.getLast?_eq_none_iff.mp hr]
    exact Nat.zero_le _
  | some r =>
    have hmem : r ∈ s'.trace := List.mem_of_mem_filter (List.mem_of_getLast? hr)
    rw [hran.trace, ht, List.nil_append] at hmem
    obtain ⟨t, hturn, rfl⟩ := List.mem_map.mp hmem
    obtain ⟨m, v, es, d, hpath, -, -⟩ := hran.stops
    rw [h.count_last hran ha ht hr, t.record_attempt]
    exact (h.attempt_le hpath t hturn).1

/-- A step whose last record has failed, with fewer records than attempts are allowed, is the last one of its run. -/
theorem Retrying.last_of_failed {name : String} {r : Record} (hr : (s'.recordsOf name).getLast? = some r)
    (hf : r.status = .failed) (hfew : (s'.recordsOf name).length < max n 1) :
    ∃ ts t, turns = ts ++ [t] ∧ t.record = r ∧ CutShort s.options.maxIterations turns t s' o := by
  obtain ⟨before, after, hsplit, hname, hafter⟩ := Session.recordsOf_last hr
  rw [hran.trace, ht, List.nil_append] at hsplit
  obtain ⟨ts, rest, rfl, -, hrest⟩ := List.map_eq_append_iff.mp hsplit
  obtain ⟨t, us, rfl, rfl, rfl⟩ := List.map_eq_cons_iff.mp hrest
  -- There is a record of the step, so the number of the last attempt is below that of those allowed.
  have hpos := List.length_pos_of_mem (List.mem_of_getLast? hr)
  have hnumber := h.count_last hran ha ht hr
  rw [t.record_attempt] at hnumber
  have hlast : ∀ u ∈ us, u.step.name ≠ t.step.name := by
    intro u hu hsame
    refine hafter u.record (List.mem_map_of_mem hu) ?_
    rw [← hname, u.record_step, t.record_step, hsame]
  obtain ⟨rfl, hcut⟩ := h.cut_short hran hf (by omega) hlast
  exact ⟨ts, t, rfl, rfl, hcut⟩

end Fresh

theorem Ran.exhausted (h : x.Ran s w turns .exhaustedIterations s' w') (ho : s.outcome = none) :
    turns.length = s.options.maxIterations ∧ ∃ m v, x.Path (x.now w).1 s (x.now w).2 turns m v ∧ m.isEnded = false := by
  obtain ⟨m, v, es, d, hpath, hstops, -⟩ := h.stops
  rw [ho, Option.getD_none] at hstops
  cases hstops with
  | exhausted now hopen hlength _ => exact ⟨hlength, m, v, hpath, hopen⟩

/-- A run that ends because of the number of its turns may take fewer than there are attempts ahead, or has no step. -/
theorem Retrying.exhausted (h : x.Retrying n s) (hran : x.Ran s w turns .exhaustedIterations s' w')
    (ho : s.outcome = none) (ha : s.attempt = 1) :
    s.options.maxIterations < s.program.stepsFrom s.cursor * max n 1 ∨
      s.options.maxIterations = 0 ∧ ∃ name, s.cursor = some name ∧ s.program.step? name = none := by
  obtain ⟨hlength, m, v, hpath, hopen⟩ := hran.exhausted ho
  cases hs : s.currentStep? with
  | some step =>
    -- With work left, not all attempts at the steps ahead have been made.
    obtain ⟨k, hk, hcursor⟩ := Session.place_of_currentStep? hs
    have hshort := h.length_le hpath hk hcursor hopen
    left
    rw [hcursor, Program.stepsFrom_getElem h.distinct hk]
    omega
  | none =>
    obtain rfl := hpath.of_unnamed hs
    cases hpath
    cases hcursor : s.cursor with
    | none =>
      rw [Session.isEnded_of_cursor_none hcursor] at hopen
      cases hopen
    | some name =>
      rw [Session.currentStep?, hcursor, Option.bind_some] at hs
      exact Or.inr ⟨hlength.symm, name, rfl, hs⟩

/-- **Bounded retries.** Where all names of steps are different, and a failed step of a fresh adaptive run is tried
again up to `maxAttempts` times in total, the counter of attempts stays within that number, or 1, on every path of the
run, and no step is tried again at which it would overflow. The run breaks off with its clock, or ends. It leaves at most
as many records of each step. A step whose last record has failed before the last attempt allowed is the last of the
trace, and its run has been cut short. A run that may take as many turns as there are attempts allowed for the steps ahead
does not end because of their number, but where its cursor names no step at all and it may take no turn, which valid
options do not ask for. -/
theorem retries_bounded {program : Program} (hn : (program.steps.map (·.name)).Nodup) (runId : String) (initial : State)
    (options : Options) (maxAttempts : UInt32) (x : Executor ω) (w : ω) :
    let fresh := Session.start runId program initial { options with mode := .adaptive }
    let retrying := x.under (.retry maxAttempts.toNat)
    let bound := max maxAttempts.toNat 1
    (∀ turns m v, retrying.Path (x.now w).1 fresh (x.now w).2 turns m v →
      m.attempt ≤ bound ∧ m.attempt < UInt32.size ∧
        ∀ t ∈ turns, t.decision = .retry → t.attempt + 1 < UInt32.size) ∧
    (retrying.BreaksOff fresh w ∨ ∃ turns o s' w', retrying.Ran fresh w turns o s' w' ∧
      s'.trace = turns.map Turn.record ∧
      (∀ name, (s'.recordsOf name).length ≤ bound) ∧
      (∀ name r, (s'.recordsOf name).getLast? = some r → r.status = .failed → (s'.recordsOf name).length < bound →
        ∃ ts t, turns = ts ++ [t] ∧ t.record = r ∧ CutShort options.maxIterations turns t s' o) ∧
      (program.stepsFrom fresh.cursor * bound ≤ options.maxIterations → o = .exhaustedIterations →
        options.maxIterations = 0 ∧ ∃ name, fresh.cursor = some name ∧ program.step? name = none)) := by
  intro fresh retrying bound
  have hretrying : retrying.Retrying maxAttempts.toNat fresh :=
    ⟨maxAttempts.toNat_lt_size, rfl, rfl, hn, Nat.le_max_right maxAttempts.toNat 1⟩
  refine ⟨fun turns m v hpath => ?_, ?_⟩
  · have hle := (hretrying.path hpath).within
    have hbound : bound < UInt32.size := Nat.max_lt.mpr ⟨maxAttempts.toNat_lt_size, by decide⟩
    refine ⟨hle, Nat.lt_of_le_of_lt hle hbound, fun t ht hd => ?_⟩
    exact Nat.lt_of_le_of_lt ((hretrying.attempt_le hpath t ht).2 hd) maxAttempts.toNat_lt_size
  rcases retrying.breaksOff_or_ran fresh w with hbreak | ⟨turns, o, s', w', hran⟩
  · exact Or.inl hbreak
  refine Or.inr ⟨turns, o, s', w', hran, hran.trace, hretrying.recordsOf_length_le hran rfl rfl,
    fun _ _ hr hf hfew => hretrying.last_of_failed hran rfl rfl hr hf hfew, fun hlimit ho => ?_⟩
  subst ho
  rcases hretrying.exhausted hran rfl rfl with hless | hdangling
  · exact absurd hless (Nat.not_lt_of_le hlimit)
  · exact hdangling

theorem retries_bounded_brief : (briefSession.program.steps.map (·.name)).Nodup ∧ ∃ turns o s' w',
    (flaky.under (.retry 3)).Ran briefSession (.frozen 0 0) turns o s' w' ∧ (s'.recordsOf "b").length ≤ 3 ∧
      (s'.recordsOf "a").map (·.status) = [.failed] ∧ ∃ ts t, turns = ts ++ [t] ∧ CutShort 1 turns t s' o := by
  have hnodup : (briefSession.program.steps.map (·.name)).Nodup := by decide
  refine ⟨hnodup, ?_⟩
  have hseen : ((flaky.under (.retry 3)).run briefSession (.frozen 0 0)).map (fun r =>
      (r.2.1.recordsOf "a").map (·.status)) = some [.failed] := by decide
  rcases (retries_bounded hnodup "run" .empty { checkpoint := true, maxIterations := 1 } 3 flaky (.frozen 0 0)).2 with
    ⟨hnone, -⟩ | ⟨turns, o, s', w', hran, -, hbound, hcut, -⟩
  · rw [show (flaky.under (.retry 3)).run briefSession (.frozen 0 0) = none from hnone] at hseen
    cases hseen
  have hran : (flaky.under (.retry 3)).Ran briefSession (.frozen 0 0) turns o s' w' := hran
  rw [hran.ends, Option.map_some] at hseen
  have hstatus := Option.some.inj hseen
  obtain ⟨r, hrecords, hfailed⟩ := List.map_eq_singleton_iff.mp hstatus
  have hfew : (s'.recordsOf "a").length < 3 := by
    rw [hrecords]
    exact (by decide : 1 < 3)
  obtain ⟨ts, t, hturns, -, hshort⟩ := hcut "a" r (by rw [hrecords]; rfl) hfailed hfew
  exact ⟨turns, o, s', w', hran, hbound "b", hstatus, ts, t, hturns, hshort⟩

end Executor

end Runbook
