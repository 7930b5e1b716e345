import Mathlib.Data.List.Forall2
import Runbook.Proofs.Captured

/-!
# Runs that go alike

Two runs of one executor go alike if they start alike and the executor cannot tell their worlds and states apart, so far
as it looks at them.

* `Likeness` : what two runs are compared by; `Executor.Respects` : the executor cannot tell apart what is alike;
* `Session.Alike` : sessions of which a run meets the same; traces, errors and checkpoints do not count;
* `Turn.Like`, `Record.Like`, `ErrorRecord.Like`, `Checkpoint.Like` : what alike sessions leave;
* `Respects.turn`, `Respects.takes`, `Turn.Like.apply` : the turns of alike sessions are alike, and lead to alike
  sessions.
-/

namespace Runbook

variable {ω : Type}

/-- What two runs are compared by: the steps that may come up in them, and how the worlds, the states and the times of
the one go with those of the other. -/
structure Likeness (ω : Type) where
  steps : Step → Prop
  world : ω → ω → Prop
  state : State → State → Prop
  time : Instant → Instant → Prop

/-! ## Records, errors and checkpoints -/

/-- Records that only differ in what is alike. -/
structure Record.Like (R : Likeness ω) (a b : Record) : Prop where
  step : a.step = b.step
  status : a.status = b.status
  attempt : a.attempt = b.attempt
  startedAt : R.time a.startedAt b.startedAt
  endedAt : R.time a.endedAt b.endedAt
  before : R.state a.before b.before
  after : R.state a.after b.after
  error : a.error = b.error
  reason : a.reason = b.reason

/-- Errors that only differ in what is alike. -/
structure ErrorRecord.Like (R : Likeness ω) (a b : ErrorRecord) : Prop where
  kind : a.kind = b.kind
  message : a.message = b.message
  step : a.step = b.step
  timestamp : R.time a.timestamp b.timestamp

/-- Checkpoints that only differ in what is alike. -/
structure Checkpoint.Like (R : Likeness ω) (a b : Checkpoint) : Prop where
  timestamp : R.time a.timestamp b.timestamp
  cursor : a.cursor = b.cursor
  state : R.state a.state b.state
  traceLength : a.traceLength = b.traceLength

/-- Turns that only differ in what is alike; the questions they put do not count. -/
structure Turn.Like (R : Likeness ω) (t u : Turn ω) : Prop where
  step : t.step = u.step
  attempt : t.attempt = u.attempt
  startedAt : R.time t.startedAt u.startedAt
  endedAt : R.time t.endedAt u.endedAt
  before : R.state t.before u.before
  after : R.state t.after u.after
  ending : t.ending = u.ending
  decision : t.decision = u.decision
  capturedAt : Option.Rel R.time t.capturedAt u.capturedAt

namespace Turn.Like

variable {R : Likeness ω} {t u : Turn ω} {ts us : List (Turn ω)}

theorem record (h : t.Like R u) : t.record.Like R u.record := by
  obtain ⟨hstep, hattempt, hstarted, hended, hbefore, hafter, hending, -, -⟩ := h
  unfold Turn.record
  rw [hending]
  split <;> exact ⟨congrArg Step.name hstep, rfl, hattempt, hstarted, hended, hbefore, hafter, rfl, rfl⟩

theorem errors (h : t.Like R u) : List.Forall₂ (ErrorRecord.Like R) t.errors u.errors := by
  unfold Turn.errors
  rw [h.ending]
  split
  · exact .cons ⟨rfl, rfl, congrArg (fun step : Step => some step.name) h.step, h.endedAt⟩ .nil
  · exact .nil

theorem mark (h : t.Like R u) (n : Nat) :
    List.Forall₂ (Checkpoint.Like R) (t.mark? n).toList (u.mark? n).toList := by
  obtain ⟨hstep, -, -, -, -, hafter, -, hdecision, hcaptured⟩ := h
  unfold Turn.mark?
  rw [hstep, hdecision]
  generalize t.capturedAt = a at hcaptured ⊢
  generalize u.capturedAt = b at hcaptured ⊢
  cases hcaptured with
  | none => exact .nil
  | some htime => exact .cons ⟨htime, rfl, hafter, rfl⟩ .nil

theorem records (h : List.Forall₂ (Turn.Like R) ts us) :
    List.Forall₂ (Record.Like R) (ts.map Turn.record) (us.map Turn.record) := by
  induction h with
  | nil => exact .nil
  | cons h _ ih => exact .cons h.record ih

theorem stepErrors (h : List.Forall₂ (Turn.Like R) ts us) :
    List.Forall₂ (ErrorRecord.Like R) (ts.flatMap Turn.errors) (us.flatMap Turn.errors) := by
  induction h with
  | nil => exact .nil
  | cons h _ ih => exact List.rel_append h.errors ih

theorem captured (h : List.Forall₂ (Turn.Like R) ts us) (n : Nat) :
    List.Forall₂ (Checkpoint.Like R) (Turn.captured n ts) (Turn.captured n us) := by
  induction h generalizing n with
  | nil => exact .nil
  | cons h _ ih => exact List.rel_append (h.mark n) (ih (n + 1))

end Turn.Like

/-! ## Sessions -/

/-- Two programs agree on names that stay among themselves: these stand for the same steps, among those that may come
up, and the same names follow them. -/
structure Program.AgreeOn (steps : Step → Prop) (names : String → Prop) (p q : Program) : Prop where
  step : ∀ {n}, names n → p.step? n = q.step? n
  next : ∀ {n}, names n → p.nextName? n = q.nextName? n
  known : ∀ {n s}, names n → p.step? n = some s → steps s
  closed : ∀ {n m}, names n → p.nextName? n = some m → names m

/-- Sessions of which a run meets the same, but for what is alike. -/
structure Session.Alike (R : Likeness ω) (s f : Session) : Prop where
  programs : ∃ names, Program.AgreeOn R.steps names s.program f.program ∧ ∀ n ∈ s.cursor, names n
  state : R.state s.state f.state
  cursor : s.cursor = f.cursor
  attempt : s.attempt = f.attempt
  mode : s.options.mode = f.options.mode
  checkpoint : s.options.checkpoint = f.options.checkpoint

/-- An executor cannot tell apart what is alike: it answers, writes, decides and reads the clock alike. -/
structure Executor.Respects (x : Executor ω) (R : Likeness ω) : Prop where
  evaluate : ∀ {step c s t w v}, R.steps step → c ∈ step.conditions → R.state s t → R.world w v →
    (x.evaluate c s w).1 = (x.evaluate c t v).1 ∧ R.world (x.evaluate c s w).2 (x.evaluate c t v).2
  dispatch : ∀ {step a s t w v}, R.steps step → a ∈ step.actions → R.state s t → R.world w v →
    (x.dispatch a s w).1 = (x.dispatch a t v).1 ∧ R.state (x.dispatch a s w).2.1 (x.dispatch a t v).2.1 ∧
      R.world (x.dispatch a s w).2.2 (x.dispatch a t v).2.2
  recover : ∀ {step e n w v}, R.steps step → R.world w v →
    (x.recover step e n w).1 = (x.recover step e n v).1 ∧ R.world (x.recover step e n w).2 (x.recover step e n v).2
  isCancelled : ∀ {w v}, R.world w v → x.isCancelled w = x.isCancelled v
  now : ∀ {w v}, R.world w v → R.time (x.now w).1 (x.now v).1 ∧ R.world (x.now w).2 (x.now v).2
  tick : ∀ {w v w' v'}, R.world w v → x.stepFinished? w = some w' → x.stepFinished? v = some v' → R.world w' v'
  completed : ∀ {s t : State}, R.state s t → s.isCompleted = t.isCompleted

namespace Session.Alike

variable {R : Likeness ω} {s f : Session}

/-- Sessions at one place of one program are alike, if all steps may come up and each state is like itself. -/
theorem of_eq (hsteps : ∀ step, R.steps step) (hrefl : ∀ t, R.state t t) (hprogram : s.program = f.program)
    (hstate : s.state = f.state) (hcursor : s.cursor = f.cursor) (hattempt : s.attempt = f.attempt)
    (hmode : s.options.mode = f.options.mode) (hcheckpoint : s.options.checkpoint = f.options.checkpoint) :
    s.Alike R f where
  programs := by
    rw [hprogram]
    exact ⟨fun _ => True, ⟨fun _ => rfl, fun _ => rfl, fun _ _ => hsteps _, fun _ _ => trivial⟩, fun _ _ => trivial⟩
  state := by
    rw [hstate]
    exact hrefl _
  cursor := hcursor
  attempt := hattempt
  mode := hmode
  checkpoint := hcheckpoint

theorem currentStep?_eq (h : s.Alike R f) : s.currentStep? = f.currentStep? := by
  obtain ⟨names, hagree, hmem⟩ := h.programs
  unfold Session.currentStep?
  rw [← h.cursor]
  cases hcursor : s.cursor with
  | none => rfl
  | some n => exact hagree.step (hmem n hcursor)

theorem known (h : s.Alike R f) {step : Step} (hs : s.currentStep? = some step) : R.steps step := by
  obtain ⟨names, hagree, hmem⟩ := h.programs
  obtain ⟨n, hcursor, hstep⟩ := Option.bind_eq_some_iff.mp hs
  exact hagree.known (hmem n hcursor) hstep

theorem isEnded_eq {x : Executor ω} (hx : x.Respects R) (h : s.Alike R f) : s.isEnded = f.isEnded := by
  unfold Session.isEnded
  rw [hx.completed h.state, h.cursor]

end Session.Alike

/-! ## Steps -/

namespace Executor.Respects

variable {x : Executor ω} {R : Likeness ω} {step : Step} {s t : State} {w v : ω}

theorem firstUnmet (hx : x.Respects R) (hk : R.steps step) (hs : R.state s t) {cs : List String}
    (hcs : ∀ c ∈ cs, c ∈ step.conditions) (hw : R.world w v) :
    (x.firstUnmet s cs w).1 = (x.firstUnmet t cs v).1 ∧ R.world (x.firstUnmet s cs w).2 (x.firstUnmet t cs v).2 := by
  induction cs generalizing w v with
  | nil => exact ⟨rfl, hw⟩
  | cons c cs ih =>
    obtain ⟨hc, hcs⟩ := List.forall_mem_cons.mp hcs
    obtain ⟨hreply, hworld⟩ := hx.evaluate hk hc hs hw
    unfold Executor.firstUnmet
    generalize x.evaluate c s w = p at hreply hworld ⊢
    generalize x.evaluate c t v = q at hreply hworld ⊢
    obtain ⟨reply, w₁⟩ := p
    obtain ⟨reply', v₁⟩ := q
    obtain rfl : reply = reply' := hreply
    cases h : reply.guarded with
    | error e => simpa [h] using hworld
    | ok holds =>
      cases holds with
      | false => simpa [h] using hworld
      | true => simpa [h] using ih hcs hworld

theorem applyActions (hx : x.Respects R) (hk : R.steps step) {as : List String} (has : ∀ a ∈ as, a ∈ step.actions)
    (hs : R.state s t) (hw : R.world w v) :
    (x.applyActions as s w).1 = (x.applyActions as t v).1 ∧
      R.state (x.applyActions as s w).2.1 (x.applyActions as t v).2.1 ∧
      R.world (x.applyActions as s w).2.2 (x.applyActions as t v).2.2 := by
  induction as generalizing s t w v with
  | nil => exact ⟨rfl, hs, hw⟩
  | cons a as ih =>
    obtain ⟨ha, has⟩ := List.forall_mem_cons.mp has
    obtain ⟨hreply, hstate, hworld⟩ := hx.dispatch hk ha hs hw
    unfold Executor.applyActions
    rw [← hx.isCancelled hw]
    cases x.isCancelled w with
    | true => exact ⟨rfl, hs, hw⟩
    | false =>
      generalize x.dispatch a s w = p at hreply hstate hworld ⊢
      generalize x.dispatch a t v = q at hreply hstate hworld ⊢
      obtain ⟨reply, s₁, w₁⟩ := p
      obtain ⟨reply', t₁, v₁⟩ := q
      obtain rfl : reply = reply' := hreply
      cases h : reply.guarded with
      | error e => simpa [h] using And.intro hstate hworld
      | ok _ => simpa [h] using ih has hstate hworld

theorem perform (hx : x.Respects R) (hk : R.steps step) (hs : R.state s t) (hw : R.world w v) :
    (x.perform step s w).1 = (x.perform step t v).1 ∧ R.state (x.perform step s w).2.1 (x.perform step t v).2.1 ∧
      R.world (x.perform step s w).2.2 (x.perform step t v).2.2 := by
  obtain ⟨hunmet, hworld⟩ := hx.firstUnmet hk hs (fun _ hc => hc) hw
  unfold Executor.perform
  generalize x.firstUnmet s step.conditions w = p at hunmet hworld ⊢
  generalize x.firstUnmet t step.conditions v = q at hunmet hworld ⊢
  obtain ⟨unmet, w₁⟩ := p
  obtain ⟨unmet', v₁⟩ := q
  obtain rfl : unmet = unmet' := hunmet
  rcases unmet with e | _ | c
  · exact ⟨rfl, hs, hworld⟩
  · obtain ⟨hresult, hstate, hworld⟩ := hx.applyActions hk (fun _ ha => ha) hs hworld
    simp only at hresult hstate hworld ⊢
    generalize x.applyActions step.actions s w₁ = p at hresult hstate hworld ⊢
    generalize x.applyActions step.actions t v₁ = q at hresult hstate hworld ⊢
    obtain ⟨result, s₁, w₂⟩ := p
    obtain ⟨result', t₁, v₂⟩ := q
    obtain rfl : result = result' := hresult
    cases result <;> exact ⟨rfl, hstate, hworld⟩
  · exact ⟨rfl, hs, hworld⟩

theorem decision (hx : x.Respects R) (hk : R.steps step) {s f : Session} (ha : s.Alike R f) (ending : StepEnd)
    (hw : R.world w v) : (x.decision s step ending w).1 = (x.decision f step ending v).1 ∧
      R.world (x.decision s step ending w).2 (x.decision f step ending v).2 := by
  unfold Executor.decision
  rw [← ha.mode, ← ha.attempt]
  cases ending with
  | succeeded => exact ⟨rfl, hw⟩
  | skipped c => exact ⟨rfl, hw⟩
  | failed e =>
    cases s.options.mode with
    | strict => exact ⟨rfl, hw⟩
    | adaptive => exact hx.recover hk hw

/-- A step is made alike in alike sessions and worlds, whatever the questions it is told to have put. -/
theorem turn (hx : x.Respects R) (hk : R.steps step) {s f : Session} (ha : s.Alike R f) (hw : R.world w v)
    (es es' : List (Evaluation ω)) (cs cs' : List (Call ω)) (rs rs' : List (Consultation ω)) :
    (x.turn step s w es cs rs).1.Like R (x.turn step f v es' cs' rs').1 ∧
      R.world (x.turn step s w es cs rs).2 (x.turn step f v es' cs' rs').2 := by
  obtain ⟨hbegun, hw⟩ := hx.now hw
  obtain ⟨hending, hafter, hw⟩ := hx.perform hk ha.state hw
  obtain ⟨hended, hw⟩ := hx.now hw
  obtain ⟨hdecision, hw⟩ := hx.decision hk ha (x.perform step s.state (x.now w).2).1 hw
  unfold Executor.turn
  simp only [← hending, ← ha.checkpoint]
  cases s.options.checkpoint with
  | false => exact ⟨⟨rfl, ha.attempt, hbegun, hended, ha.state, hafter, rfl, hdecision, .none⟩, hw⟩
  | true =>
    obtain ⟨hcaptured, hw⟩ := hx.now hw
    exact ⟨⟨rfl, ha.attempt, hbegun, hended, ha.state, hafter, rfl, hdecision, .some hcaptured⟩, hw⟩

/-- A turn that is taken in one session is alike to the one that its step makes in the other. -/
theorem takes_turn (hx : x.Respects R) {s f : Session} (ha : s.Alike R f) {started : Instant} {t : Turn ω} {w' : ω}
    (hw : R.world w v) (ht : x.Takes started s w t w') (es : List (Evaluation ω)) (cs : List (Call ω))
    (rs : List (Consultation ω)) : t.Like R (x.turn t.step f (x.now v).2 es cs rs).1 ∧
      R.world (x.turn t.step s (x.now w).2 t.evaluations t.calls t.consultations).2
        (x.turn t.step f (x.now v).2 es cs rs).2 := by
  have hturn := hx.turn (ha.known ht.named) ha (hx.now hw).2 t.evaluations es t.calls cs t.consultations rs
  rwa [ht.made] at hturn

/-- The turns that are taken in alike sessions are alike. -/
theorem takes (hx : x.Respects R) {s f : Session} (ha : s.Alike R f) {started started' : Instant} {t u : Turn ω}
    {w' v' : ω} (hw : R.world w v) (ht : x.Takes started s w t w') (hu : x.Takes started' f v u v') :
    t.Like R u ∧ R.world w' v' := by
  have hstep : t.step = u.step := Option.some.inj (by rw [← ht.named, ha.currentStep?_eq, hu.named])
  obtain ⟨hlike, hworld⟩ := hx.takes_turn ha hw ht u.evaluations u.calls u.consultations
  have hmade := hu.made
  have hticked := hu.ticked
  rw [← hstep] at hmade hticked
  rw [hmade] at hlike
  exact ⟨hlike, hx.tick hworld ht.ticked hticked⟩

end Executor.Respects

/-- Alike turns lead alike sessions to alike sessions. -/
theorem Turn.Like.apply {R : Likeness ω} {t u : Turn ω} (h : t.Like R u) {s f : Session} (ha : s.Alike R f) :
    (t.apply s).Alike R (u.apply f) := by
  obtain ⟨names, hagree, hmem⟩ := ha.programs
  -- The cursors stay on names that stand for the same steps in both programs.
  have hcursor : (t.apply s).cursor = (u.apply f).cursor := by
    rw [t.apply_cursor, u.apply_cursor, h.decision, ← ha.cursor]
    cases u.decision with
    | proceed =>
      cases hc : s.cursor with
      | none => rfl
      | some n => exact hagree.next (hmem n hc)
    | retry => rfl
    | halt => rfl
  have hnames : ∀ n ∈ (t.apply s).cursor, names n := by
    rw [t.apply_cursor]
    cases t.decision with
    | proceed =>
      intro n hn
      obtain ⟨m, hc, hnext⟩ := Option.bind_eq_some_iff.mp hn
      exact hagree.closed (hmem m hc) hnext
    | retry => exact hmem
    | halt => simp
  refine ⟨⟨names, by rw [t.apply_program, u.apply_program]; exact hagree, hnames⟩, ?_, hcursor, ?_, ?_, ?_⟩
  · rw [t.apply_state, u.apply_state]
    exact h.after
  · rw [t.apply_attempt, u.apply_attempt, h.decision, ha.attempt]
  · rw [t.apply_options, u.apply_options]
    exact ha.mode
  · rw [t.apply_options, u.apply_options]
    exact ha.checkpoint

end Runbook
