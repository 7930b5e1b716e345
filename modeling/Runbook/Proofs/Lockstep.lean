import Runbook.Proofs.Likeness

/-!
# Runs in lockstep

Where alike worlds show the same time and tick together, runs from alike sessions under the same limits take alike turns
and end for the same reason, or break off together.

* `Likeness.same` : runs that differ in nothing but the questions they are told to put;
* `Executor.InStep` : alike worlds show the same time and tick together;
* `Executor.Abreast` : two courses of a run, by alike turns and with the same last error;
* `Executor.Together` : two loops without an end, or with ends abreast;
* `loop_alike`, `run_alike` : loops and runs in lockstep.
-/

namespace Runbook

variable {ω : Type}

/-- The same steps, worlds, states and times. -/
def Likeness.same : Likeness ω := ⟨fun _ => True, Eq, Eq, Eq⟩

namespace Executor

/-- Alike worlds show the same time, and their clocks move on or break off together. -/
structure InStep (x : Executor ω) (R : Likeness ω) : Prop where
  time : ∀ {a b}, R.time a b → a = b
  tick : ∀ {w v}, R.world w v → (x.stepFinished? w).isSome = (x.stepFinished? v).isSome

theorem respects_same (x : Executor ω) : x.Respects .same where
  evaluate _ _ hs hw := by cases hs; cases hw; exact ⟨rfl, rfl⟩
  dispatch _ _ hs hw := by cases hs; cases hw; exact ⟨rfl, rfl, rfl⟩
  recover _ hw := by cases hw; exact ⟨rfl, rfl⟩
  isCancelled hw := by cases hw; rfl
  now hw := by cases hw; exact ⟨rfl, rfl⟩
  tick hw h h' := by
    cases hw
    exact Option.some.inj (h.symm.trans h')
  completed hs := by cases hs; rfl

theorem inStep_same (x : Executor ω) : x.InStep .same where
  time h := h
  tick hw := by cases hw; rfl

/-- From two sessions alike turns have led to two others, and the same errors were noted after them. -/
def Abreast (x : Executor ω) (R : Likeness ω) (started : Instant) (s : Session) (w : ω) (f : Session) (v : ω)
    (s' f' : Session) : Prop :=
  ∃ turns turns' m m' u u' es, x.Path started s w turns m u ∧ x.Path started f v turns' m' u' ∧
    List.Forall₂ (Turn.Like R) turns turns' ∧ m.Alike R m' ∧ s' = { m with errors := m.errors ++ es } ∧
    f' = { m' with errors := m'.errors ++ es }

variable {x : Executor ω} {R : Likeness ω} {started : Instant} {s f : Session} {w v : ω}

/-- A turn that is taken in one of two like sessions is, but for its questions, what its step makes in the other. -/
theorem takes_same {t : Turn ω} (ha : s.Alike (.same : Likeness ω) f) (ht : x.Takes started s w t v)
    (es : List (Evaluation ω)) (cs : List (Call ω)) (rs : List (Consultation ω)) :
    t.Like .same (x.turn t.step f (x.now w).2 es cs rs).1 ∧
      x.stepFinished? (x.turn t.step f (x.now w).2 es cs rs).2 = some v := by
  obtain ⟨hlike, hworld⟩ := x.respects_same.takes_turn ha rfl ht es cs rs
  have hticked := ht.ticked
  rw [show _ = _ from hworld] at hticked
  exact ⟨hlike, hticked⟩

theorem Abreast.refl (ha : s.Alike R f) : x.Abreast R started s w f v s f :=
  ⟨[], [], s, f, w, v, [], .nil s w, .nil f v, .nil, ha, errors_nil s, errors_nil f⟩

theorem Abreast.error (ha : s.Alike R f) (e : ErrorRecord) :
    x.Abreast R started s w f v (s.pushError e) (f.pushError e) :=
  ⟨[], [], s, f, w, v, [e], .nil s w, .nil f v, .nil, ha, rfl, rfl⟩

theorem Abreast.cons {t t' : Turn ω} {w₁ v₁ : ω} {s' f' : Session} (ht : x.Takes started s w t w₁)
    (ht' : x.Takes started f v t' v₁) (hlike : t.Like R t')
    (h : x.Abreast R started (t.apply s) w₁ (t'.apply f) v₁ s' f') : x.Abreast R started s w f v s' f' := by
  obtain ⟨turns, turns', m, m', u, u', es, hp, hp', hturns, ha, hs', hf'⟩ := h
  exact ⟨t :: turns, t' :: turns', m, m', u, u', es, .cons ht hp, .cons ht' hp', .cons hlike hturns, ha, hs', hf'⟩

theorem timeoutError_alike (ha : s.Alike R f) (ht : s.options.timeout = f.options.timeout) (now : Instant)
    (spent : Duration) : timeoutError s now spent = timeoutError f now spent := by
  unfold timeoutError
  rw [ht, ha.cursor]

theorem ceilingError_alike (ha : s.Alike R f) (hm : s.options.maxIterations = f.options.maxIterations)
    (now : Instant) : ceilingError s now = ceilingError f now := by
  unfold ceilingError
  rw [hm, ha.cursor]

/-- The outcomes of two runs in lockstep: the same, unless the sessions had ended, which rest each with its own. -/
def SameEnd (s f : Session) (b b' : Bool) (o o' : Outcome) : Prop :=
  (s.isEnded = false ∧ o = o') ∨ (s.isEnded = true ∧ o = restingOutcome b s ∧ o' = restingOutcome b' f)

/-- The ends of two loops in lockstep: neither has one, or both have, abreast and in alike worlds. -/
inductive Together (x : Executor ω) (R : Likeness ω) (started : Instant) (s : Session) (w : ω) (f : Session) (v : ω)
    (b b' : Bool) : Option (Outcome × Session × ω) → Option (Outcome × Session × ω) → Prop
  | broken : Together x R started s w f v b b' none none
  | ended {o o' s' f' w' v'} (ha : x.Abreast R started s w f v s' f') (hw : R.world w' v') (ho : SameEnd s f b b' o o') :
      Together x R started s w f v b b' (some (o, s', w')) (some (o', f', v'))

theorem Together.cons {b b' : Bool} {t t' : Turn ω} {w₁ v₁ : ω} {r r' : Option (Outcome × Session × ω)}
    (he : s.isEnded = false) (ht : x.Takes started s w t w₁) (ht' : x.Takes started f v t' v₁) (hlike : t.Like R t')
    (h : x.Together R started (t.apply s) w₁ (t'.apply f) v₁ false false r r') :
    x.Together R started s w f v b b' r r' := by
  cases h with
  | broken => exact .broken
  | ended ha hw ho =>
    refine .ended (.cons ht ht' hlike ha) hw (Or.inl ⟨he, ?_⟩)
    rcases ho with ⟨-, ho⟩ | ⟨-, ho, ho'⟩
    · exact ho
    · rw [ho, ho']
      rfl

/-- A step has no end in either of two alike sessions, or alike turns are taken in both. -/
theorem iterate_alike (hx : x.Respects R) (hi : x.InStep R) (ha : s.Alike R f) (hw : R.world w v)
    (he : s.isEnded = false) (hl : Instant.elapsed started (x.now w).1 < s.options.timeout) (he' : f.isEnded = false)
    (hl' : Instant.elapsed started (x.now v).1 < f.options.timeout) {step : Step} (hs : s.currentStep? = some step) :
    (x.iterate step s (x.now w).2 = none ∧ x.iterate step f (x.now v).2 = none) ∨
      ∃ t t' w₁ v₁, x.Takes started s w t w₁ ∧ x.Takes started f v t' v₁ ∧ t.Like R t' ∧ R.world w₁ v₁ ∧
        x.iterate step s (x.now w).2 = some (t.decision, t.apply s, w₁) ∧
        x.iterate step f (x.now v).2 = some (t.decision, t'.apply f, v₁) := by
  have hsome : (x.iterate step s (x.now w).2).isSome = (x.iterate step f (x.now v).2).isSome := by
    obtain ⟨-, hworld⟩ := hx.turn (ha.known hs) ha (hx.now hw).2 [] [] [] [] [] []
    rw [x.iterate_turn step s _ [] [] [], x.iterate_turn step f _ [] [] [], Option.isSome_map, Option.isSome_map,
      hi.tick hworld]
  cases h : x.iterate step s (x.now w).2 with
  | none =>
    rw [h, Option.isSome_none] at hsome
    exact Or.inl ⟨rfl, Option.not_isSome_iff_eq_none.mp (by simp [← hsome])⟩
  | some r =>
    rw [h, Option.isSome_some] at hsome
    obtain ⟨r', h'⟩ := Option.isSome_iff_exists.mp hsome.symm
    obtain ⟨t, htakes, hd, happly, -⟩ := x.iterate_observed [] he hl hs h
    obtain ⟨t', htakes', hd', happly', -⟩ := x.iterate_observed [] he' hl' (ha.currentStep?_eq ▸ hs) h'
    obtain ⟨hlike, hworld⟩ := hx.takes ha hw htakes htakes'
    refine Or.inr ⟨t, t', r.2.2, r'.2.2, htakes, htakes', hlike, hworld, ?_, ?_⟩
    · rw [hd, happly]
    · rw [h', hlike.decision, hd', happly']

/-- The iterations of runs from alike sessions go in lockstep. -/
theorem loop_alike (hx : x.Respects R) (hi : x.InStep R) (n : Nat) (b b' : Bool) {s f : Session} {w v : ω}
    (ha : s.Alike R f) (ht : s.options.timeout = f.options.timeout)
    (hm : s.options.maxIterations = f.options.maxIterations) (hw : R.world w v) :
    x.Together R started s w f v b b' (x.loop started n b s w) (x.loop started n b' f v) := by
  by_cases he : s.isEnded = true
  · have he' : f.isEnded = true := by rw [← ha.isEnded_eq hx, he]
    rw [x.loop_ended he, x.loop_ended he']
    exact .ended (.refl ha) hw (Or.inr ⟨he, rfl, rfl⟩)
  rw [Bool.not_eq_true] at he
  have he' : f.isEnded = false := by rw [← ha.isEnded_eq hx, he]
  -- Both look at the clock, which shows the same.
  obtain ⟨hnow, hworld⟩ := hx.now hw
  have hnow := hi.time hnow
  by_cases hl : s.options.timeout ≤ Instant.elapsed started (x.now w).1
  · have hl' : f.options.timeout ≤ Instant.elapsed started (x.now v).1 := by rw [← ht, ← hnow]; exact hl
    rw [x.loop_late he hl, x.loop_late he' hl', ← hnow, timeoutError_alike ha ht]
    exact .ended (.error ha _) hworld (Or.inl ⟨he, rfl⟩)
  have hl' : ¬ f.options.timeout ≤ Instant.elapsed started (x.now v).1 := by rw [← ht, ← hnow]; exact hl
  cases n with
  | zero =>
    rw [x.loop_zero he hl, x.loop_zero he' hl', ← hnow, ceilingError_alike ha hm]
    exact .ended (.error ha _) hworld (Or.inl ⟨he, rfl⟩)
  | succ n =>
    cases hs : s.currentStep? with
    | none =>
      rw [x.loop_dangling he hl hs, x.loop_dangling he' hl' (ha.currentStep?_eq ▸ hs)]
      exact .ended (.refl ha) hworld (Or.inl ⟨he, rfl⟩)
    | some step =>
      rw [x.loop_step he hl hs, x.loop_step he' hl' (ha.currentStep?_eq ▸ hs)]
      rcases iterate_alike hx hi ha hw he (Nat.lt_of_not_le hl) he' (Nat.lt_of_not_le hl') hs with
        ⟨hnone, hnone'⟩ | ⟨t, t', w₁, v₁, htakes, htakes', hlike, hw₁, hsome, hsome'⟩
      · rw [hnone, hnone']
        exact .broken
      rw [hsome, hsome', Option.bind_some, Option.bind_some]
      by_cases hd : t.decision = .halt
      · simp only [if_pos hd]
        exact .ended (.cons htakes htakes' hlike (.refl (hlike.apply ha))) hw₁ (Or.inl ⟨he, rfl⟩)
      · simp only [if_neg hd]
        refine .cons he htakes htakes' hlike (loop_alike hx hi n false false (hlike.apply ha) ?_ ?_ hw₁)
        · rw [t.apply_options, t'.apply_options, ht]
        · rw [t.apply_options, t'.apply_options, hm]

/-- Runs of alike sessions go in lockstep: both break off, or both end abreast, in alike worlds. -/
theorem run_alike (hx : x.Respects R) (hi : x.InStep R) (ha : s.Alike R f)
    (ht : s.options.timeout = f.options.timeout) (hm : s.options.maxIterations = f.options.maxIterations)
    (hw : R.world w v) : (x.BreaksOff s w ∧ x.BreaksOff f v) ∨
      ∃ o o' s' f' d w' v', x.run s w = some (o, s'.finish o d, w') ∧ x.run f v = some (o', f'.finish o' d, v') ∧
        x.Abreast R (x.now w).1 s (x.now w).2 f (x.now v).2 s' f' ∧ R.world w' v' ∧ SameEnd s f true true o o' := by
  obtain ⟨hnow, hworld⟩ := hx.now hw
  have hnow := hi.time hnow
  have hrun := x.run_eq s w
  have hrun' := x.run_eq f v
  rw [← hnow, ← hm] at hrun'
  have htogether : x.Together R (x.now w).1 s (x.now w).2 f (x.now v).2 true true _ _ :=
    loop_alike hx hi s.options.maxIterations true true ha ht hm hworld
  generalize x.loop (x.now w).1 s.options.maxIterations true s (x.now w).2 = r at htogether hrun
  generalize x.loop (x.now w).1 s.options.maxIterations true f (x.now v).2 = r' at htogether hrun'
  cases htogether with
  | broken => exact Or.inl ⟨breaksOff_of_run_eq_none hrun, breaksOff_of_run_eq_none hrun'⟩
  | ended habreast hw' hend =>
    obtain ⟨hended, hw'⟩ := hx.now hw'
    rw [Option.map_some, ← hi.time hended] at hrun'
    exact Or.inr ⟨_, _, _, _, _, _, _, hrun, hrun', habreast, hw', hend⟩

end Executor

end Runbook
