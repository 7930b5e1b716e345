import Runbook.Proofs.Commute
import Runbook.Proofs.Interrupted
import Runbook.Proofs.Vocabulary
import Runbook.Run.World

/-!
# Data that a program does not mention

A condition asks for one path and an action writes one slot, so a field whose name is the first of none of them is neither
read nor written: a run with it goes as the run without it.

* `Fields.Adds`, `State.Adds` : one field more, in some place; `Adds.write`, `Adds.writePath`, `Adds.getPath?` : what starts
  with another name meets the same with it and without it;
* `Condition.subject?` : the path that a condition asks for; `Step.Mentions`, `Program.Unmentioned` : the names that the
  paths of a step start with, and a name that no path of a program starts with;
* `Likeness.adding`, `respects_adding` : an executor that takes conditions and actions as they are written cannot tell apart
  states of which one has an unmentioned field more;
* `unmentioned_data_changes_nothing` : nor can a whole run.
-/

namespace Runbook

open Text (trim trimString)

variable {k name : String} {v : Json} {fs gs : Fields} {s t : State}

/-! ## One field more -/

/-- The second fields are the first with one more, of a name that these do not have, in some place. -/
inductive Fields.Adds (k : String) (v : Json) : Fields → Fields → Prop
  | here {rest : Fields} (h : rest.get? k = none) : Adds k v rest ((k, v) :: rest)
  | there {n : String} {u : Json} {front back : Fields} (h : n ≠ k) (rest : Adds k v front back) :
      Adds k v ((n, u) :: front) ((n, u) :: back)

namespace Fields

/-- A field that is not there is added at the end. -/
theorem adds_set (h : fs.get? k = none) : Adds k v fs (fs.set k v) := by
  induction fs with
  | nil => exact .here rfl
  | cons f fs ih =>
    obtain ⟨n, u⟩ := f
    by_cases hn : n = k
    · simp [get?, hn] at h
    · rw [get?, if_neg hn] at h
      rw [set, if_neg hn]
      exact .there hn (ih h)

namespace Adds

theorem get?_self (h : Adds k v fs gs) : fs.get? k = none ∧ gs.get? k = some v := by
  induction h with
  | here h => exact ⟨h, by simp [get?]⟩
  | there hn _ ih => simpa only [get?, if_neg hn] using ih

theorem get?_ne (h : Adds k v fs gs) (hn : name ≠ k) : gs.get? name = fs.get? name := by
  induction h with
  | here => rw [get?, if_neg (Ne.symm hn)]
  | there _ _ ih => rw [get?, get?, ih]

theorem set (h : Adds k v fs gs) (hn : name ≠ k) (u : Json) : Adds k v (fs.set name u) (gs.set name u) := by
  induction h with
  | @here rest h =>
    have hset : Fields.set name u ((k, v) :: rest) = (k, v) :: Fields.set name u rest := if_neg (Ne.symm hn)
    rw [hset]
    exact .here (by rw [get?_set, if_neg (Ne.symm hn), h])
  | @there m w fs gs hm rest ih =>
    rw [Fields.set, Fields.set]
    split
    · exact .there hm rest
    · exact .there hm ih

/-- A write below another name stops at the same name, and leaves one field more again. -/
theorem write (h : Adds k v fs gs) (hn : name ≠ k) (value : Json) (ns : List String) :
    Adds k v (fs.write value name ns).1 (gs.write value name ns).1 ∧
      (fs.write value name ns).2 = (gs.write value name ns).2 := by
  cases ns with
  | nil => exact ⟨h.set hn value, rfl⟩
  | cons n ns =>
    have hsame : gs.enter? name = fs.enter? name := by rw [enter?, h.get?_ne hn, enter?]
    cases henter : fs.enter? name with
    | none =>
      rw [write_of_blocked henter, write_of_blocked (hsame.trans henter)]
      exact ⟨h, rfl⟩
    | some sub =>
      rw [write_of_enter henter, write_of_enter (hsame.trans henter)]
      exact ⟨h.set hn _, rfl⟩

end Adds

end Fields

/-- The second state is the first with one field more. -/
def State.Adds (k : String) (v : Json) (s t : State) : Prop := Fields.Adds k v s.fields t.fields

namespace State.Adds

theorem get?_self (h : s.Adds k v t) : s.get? k = none ∧ t.get? k = some v := Fields.Adds.get?_self h

theorem isCompleted_eq (h : s.Adds k v t) (hk : completedName ≠ k) : s.isCompleted = t.isCompleted := by
  unfold isCompleted get?
  rw [Fields.Adds.get?_ne h hk]

/-- What is read at a path that starts with another name is the same. -/
theorem getPath? (h : s.Adds k v t) {path : String} (hk : (Path.names path).head? ≠ some k) :
    s.getPath? path = t.getPath? path := by
  have hne : Path.names path ≠ [] := fun hnil => trimmedNames_ne_nil path (by rw [Path.trimmedNames, hnil, List.map_nil])
  obtain ⟨n, ns, hnames⟩ := List.exists_cons_of_ne_nil hne
  have hn : n ≠ k := fun heq => hk (by rw [hnames, heq, List.head?_cons])
  unfold State.getPath? find? toJson
  rw [hnames, Json.find?_cons, Json.find?_cons, Fields.Adds.get?_ne h hn]

/-- A write at a path that starts with another name ends in the same way, and leaves one field more again. -/
theorem writePath (h : s.Adds k v t) {path : String} (hk : (Path.trimmedNames path).head? ≠ some k) (value : Json) :
    (s.writePath path value).1 = (t.writePath path value).1 ∧
      (s.writePath path value).2.Adds k v (t.writePath path value).2 := by
  by_cases hblank : "" ∈ Path.trimmedNames path
  · rw [writePath_of_blank hblank, writePath_of_blank hblank]
    exact ⟨rfl, h⟩
  · obtain ⟨n, ns, hnames⟩ := List.exists_cons_of_ne_nil (trimmedNames_ne_nil path)
    have hn : n ≠ k := fun heq => hk (by rw [hnames, heq, List.head?_cons])
    obtain ⟨hfields, hstop⟩ := Fields.Adds.write h hn value ns
    rw [writePath_eq s value hnames hblank, writePath_eq t value hnames hblank, hstop]
    exact ⟨rfl, hfields⟩

end State.Adds

/-! ## What a program mentions -/

/-- The path that a condition asks for. -/
def Condition.subject? : Condition → Option String
  | present path => some path
  | absent path => some path
  | falsy path => some path
  | compare path _ _ => some path
  | truthy path => some path
  | unrecognized => none

/-- An action of a step writes a slot, or a condition asks for a path, whose first name is the given one. -/
def Step.Mentions (step : Step) (name : String) : Prop :=
  (∃ a ∈ step.actions, ∃ slot ∈ (Instruction.ofChars (trim a.toList)).slot?, (Path.names slot.1).head? = some name) ∨
    ∃ c ∈ step.conditions, ∃ path ∈ (Condition.ofChars (trim c.toList)).subject?, (Path.names path).head? = some name

instance (step : Step) (name : String) : Decidable (step.Mentions name) := inferInstanceAs (Decidable (_ ∨ _))

/-- A name that does not end a run, and that no path of a program starts with. The slots of completion, computing and
saving only count where an action writes them. -/
structure Program.Unmentioned (p : Program) (name : String) : Prop where
  other : name ≠ State.completedName
  silent : ∀ step ∈ p.steps, ¬ step.Mentions name

namespace Condition

/-- A condition looks at the state at its path only. -/
theorem holds_congr {c : Condition} (h : ∀ path ∈ c.subject?, s.getPath? path = t.getPath? path) :
    c.holds s = c.holds t := by
  cases c with
  | unrecognized => rfl
  | present path | absent path => simp only [holds, State.hasPath, h path rfl]
  | falsy path | truthy path => simp only [holds, isTruthyAt, h path rfl]
  | compare path op operand => simp only [holds, h path rfl]

theorem evaluate_adds (h : s.Adds k v t) {text : String}
    (hk : ∀ path ∈ (ofChars (trim text.toList)).subject?, (Path.names path).head? ≠ some k) :
    evaluate text s = evaluate text t := by
  simp only [evaluate, holds_congr fun path hpath => h.getPath? (hk path hpath)]

end Condition

/-- An instruction without a slot ends in the same way in every state. -/
theorem Instruction.carryOut_fst_of_no_slot {i : Instruction} (h : i.slot? = none) (text : String) (s t : State) :
    (i.carryOut text s).1 = (i.carryOut text t).1 := by
  cases i with
  | fail message | badPath path | nothing => rfl
  | assign path operand | complete | compute | persist => nomatch h

/-- An action whose slot starts with another name ends in the same way, and leaves one field more again. -/
theorem Dispatcher.vocabulary_adds {ω : Type} (h : s.Adds k v t) {action : String}
    (hk : ∀ slot ∈ (Instruction.ofChars (trim action.toList)).slot?, (Path.names slot.1).head? ≠ some k) (w : ω) :
    (vocabulary action s w).1 = (vocabulary action t w).1 ∧
      (vocabulary action s w).2.1.Adds k v (vocabulary action t w).2.1 ∧
      (vocabulary action s w).2.2 = (vocabulary action t w).2.2 := by
  have hfirst := Instruction.isFirst_ofChars (trim action.toList)
  rw [vocabulary_eq hfirst s w, vocabulary_eq hfirst t w]
  cases hslot : (Instruction.ofChars (trim action.toList)).slot? with
  | none =>
    obtain ⟨hs, -⟩ := Instruction.carryOut_of_no_slot (trimString action) s hslot
    obtain ⟨ht, -⟩ := Instruction.carryOut_of_no_slot (trimString action) t hslot
    rw [hs, ht, Instruction.carryOut_fst_of_no_slot hslot _ s t]
    exact ⟨rfl, h, rfl⟩
  | some slot =>
    have hpath : Path.IsDotted slot.1.toList := hfirst.isDotted hslot
    have hother : (Path.trimmedNames slot.1).head? ≠ some k := by
      rw [Path.trimmedNames_eq hpath]
      exact hk slot hslot
    obtain ⟨hend, hleft⟩ := h.writePath hother slot.2
    rw [Instruction.carryOut_of_slot _ s hslot, Instruction.carryOut_of_slot _ t hslot, Instruction.writeSlot,
      Instruction.writeSlot, hend]
    exact ⟨rfl, hleft, rfl⟩

/-! ## Runs -/

/-- Runs of a program from states of which one has a field more; all else is the same. -/
def Likeness.adding {ω : Type} (p : Program) (k : String) (v : Json) : Likeness ω :=
  ⟨(· ∈ p.steps), Eq, State.Adds k v, Eq⟩

namespace Executor

variable {ω : Type} {x : Executor ω} {p : Program}

/-- An executor that takes conditions and actions as they are written cannot tell whether there is a field that the
program does not mention. -/
theorem respects_adding (hevaluate : x.evaluate = .ofState) (hdispatch : x.dispatch = .vocabulary)
    (hp : p.Unmentioned k) : x.Respects (.adding p k v) where
  evaluate := by
    rintro step c s t w _ hstep hc hs rfl
    have hsilent : ¬ step.Mentions k := hp.silent step hstep
    rw [hevaluate]
    exact ⟨congrArg Reply.ofExcept (Condition.evaluate_adds hs fun path hpath hhead =>
      hsilent (.inr ⟨c, hc, path, hpath, hhead⟩)), rfl⟩
  dispatch := by
    rintro step a s t w _ hstep ha hs rfl
    have hsilent : ¬ step.Mentions k := hp.silent step hstep
    rw [hdispatch]
    exact Dispatcher.vocabulary_adds hs (fun slot hslot hhead => hsilent (.inl ⟨a, ha, slot, hslot, hhead⟩)) w
  recover := by
    rintro step e n w _ - rfl
    exact ⟨rfl, rfl⟩
  isCancelled := by
    rintro w _ rfl
    rfl
  now := by
    rintro w _ rfl
    exact ⟨rfl, rfl⟩
  tick := by
    rintro w _ w' v' rfl h h'
    exact Option.some.inj (h.symm.trans h')
  completed hs := State.Adds.isCompleted_eq hs hp.other.symm

theorem inStep_adding : x.InStep (.adding p k v) where
  time h := h
  tick := by
    rintro w _ rfl
    rfl

/-- Errors that only differ in their times, which are the same, are the same. -/
theorem errors_eq_of_adding {es es' : List ErrorRecord}
    (h : List.Forall₂ (ErrorRecord.Like (.adding p k v : Likeness ω)) es es') : es = es' := by
  induction h with
  | nil => rfl
  | @cons e e' _ _ hlike _ ih =>
    obtain ⟨hkind, hmessage, hstep, htime⟩ := hlike
    obtain ⟨⟩ := e
    obtain ⟨⟩ := e'
    cases hkind; cases hmessage; cases hstep; cases htime
    rw [ih]

/-- **Data that a program does not mention does not matter to a run.** From two states of which the second has one field
more, of a name that does not end a run and that no slot of the program's actions and no path of its conditions starts
with, runs under any options, with any recovery, clock and cancellation, break off together; or both end, with the same
outcome in the same world, and leave the same trace, errors, checkpoints and cursor, but that the states of the second run
have that field, with its value, all along. -/
theorem unmentioned_data_changes_nothing (hevaluate : x.evaluate = .ofState) (hdispatch : x.dispatch = .vocabulary)
    (hp : p.Unmentioned k) (hs : s.Adds k v t) (runId : String) (options : Options) (w : ω) :
    (x.BreaksOff (.start runId p s options) w ∧ x.BreaksOff (.start runId p t options) w) ∨
      ∃ o s' t' w', x.run (.start runId p s options) w = some (o, s', w') ∧
        x.run (.start runId p t options) w = some (o, t', w') ∧ s'.Like (.adding p k v : Likeness ω) t' ∧
        s'.errors = t'.errors := by
  have halike : (Session.start runId p s options).Alike (.adding p k v : Likeness ω) (.start runId p t options) :=
    ⟨⟨fun _ => True, ⟨fun _ => rfl, fun _ => rfl, fun _ h => List.mem_of_find?_eq_some h, fun _ _ => trivial⟩,
      fun _ _ => trivial⟩, hs, rfl, rfl, rfl, rfl⟩
  rcases run_alike (respects_adding hevaluate hdispatch hp) inStep_adding halike rfl rfl (show w = w from rfl) with
    hbreak | ⟨o, o', s', t', d, w', _, hrun, hrun', habreast, rfl, hend⟩
  · exact .inl hbreak
  obtain rfl : o = o' := by
    rcases hend with ⟨-, ho⟩ | ⟨-, ho, ho'⟩
    · exact ho
    · rw [ho, ho']
      rfl
  obtain ⟨turns, turns', m, m', u, u', es, hpath, hpath', hturns, hm, rfl, rfl⟩ := habreast
  have herrors : m.errors ++ es = m'.errors ++ es := by
    rw [hpath.errors, hpath'.errors, errors_eq_of_adding (Turn.Like.stepErrors hturns)]
    rfl
  have htrace : List.Forall₂ (Record.Like (.adding p k v : Likeness ω)) m.trace m'.trace := by
    rw [hpath.trace, hpath'.trace]
    exact Turn.Like.records hturns
  have hcheckpoints : List.Forall₂ (Checkpoint.Like (.adding p k v : Likeness ω)) m.checkpoints.entries
      m'.checkpoints.entries := by
    rw [hpath.checkpoints, hpath'.checkpoints]
    exact CheckpointStore.foldl_push_like (Turn.Like.captured hturns 0) rfl .nil
  refine .inr ⟨o, _, _, w', hrun, hrun', ⟨htrace, ?_, hcheckpoints, hm.state, hm.cursor, rfl⟩, herrors⟩
  unfold Session.stepErrors Session.finish
  rw [herrors]
  exact List.forall₂_same.mpr fun e _ => ⟨rfl, rfl, rfl, rfl⟩

/-- A program whose first step finds no object to write to, and that does not mention `extra`. -/
def conflictProgram : Program :=
  ⟨"p", "g", [⟨"a", ["set a.b = 1"], []⟩, ⟨"b", ["compute sums"], ["note missing"]⟩, ⟨"c", ["mark complete"], ["a > 0"]⟩]⟩

/-- An executor that takes conditions and actions as they are written and tries a failed step once more. -/
def retrying : Executor (World Unit) := .onWorld .ofState .vocabulary (.retry 2) true

theorem unmentioned_data_changes_nothing_conflict :
    let s : State := ⟨[("a", .num (.int 1))]⟩
    let options : Options := { mode := .adaptive, checkpoint := true }
    let w : World Unit := ⟨⟨0, some 5⟩, false, ()⟩
    conflictProgram.Unmentioned "extra" ∧ s.Adds "extra" (.obj [("a", .null)]) (s.set "extra" (.obj [("a", .null)])) ∧
      ∃ o s' t' w', retrying.run (.start "run" conflictProgram s options) w = some (o, s', w') ∧
        retrying.run (.start "run" conflictProgram (s.set "extra" (.obj [("a", .null)])) options) w = some (o, t', w') ∧
        s'.Like (.adding conflictProgram "extra" (.obj [("a", .null)]) : Likeness (World Unit)) t' ∧
        s'.errors = t'.errors ∧
        s'.trace.map (fun r => (r.status, r.attempt)) = [(.failed, 1), (.failed, 2), (.success, 1), (.success, 1)] := by
  intro s options w
  have hp : conflictProgram.Unmentioned "extra" := ⟨by decide, by decide⟩
  have hs : s.Adds "extra" (.obj [("a", .null)]) (s.set "extra" (.obj [("a", .null)])) := Fields.adds_set rfl
  have htrace : (retrying.run (.start "run" conflictProgram s options) w).map
      (fun r => r.2.1.trace.map fun r => (r.status, r.attempt)) =
      some [(.failed, 1), (.failed, 2), (.success, 1), (.success, 1)] := by decide +kernel
  refine ⟨hp, hs, ?_⟩
  rcases unmentioned_data_changes_nothing (x := retrying) rfl rfl hp hs "run" options w with
    ⟨⟨hnone, -⟩, -⟩ | ⟨o, s', t', w', hrun, hrun', hlike, herrors⟩
  · rw [hnone] at htrace
    nomatch htrace
  · rw [hrun] at htrace
    exact ⟨o, s', t', w', hrun, hrun', hlike, herrors, Option.some.inj htrace⟩

end Executor

end Runbook
