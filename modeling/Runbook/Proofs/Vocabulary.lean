import Runbook.Proofs.Frame
import Runbook.Proofs.Shapes
import Runbook.Run.Strategy

/-!
# What an action does

The vocabulary writes the state in place, so what a write leaves where it fails is left for good.

* `Instruction.slot?` : the one slot that an instruction writes, and its value;
* `Instruction.carryOut` : an instruction carried out in place: how it ends, and the state that it leaves;
  `carryOut_of_slot`, `carryOut_of_error` : that is the write of the slot, which leaves nothing where it fails;
* `Dispatcher.vocabulary_eq` : the vocabulary carries out what an action says;
* `vocabulary_writes_one_slot` : the state after an action;
* `declared_failure_fails`, `broken_failure_saves` : failures on one line fail, whatever they tell, but a line end in
  what is told makes another action of them.
-/

namespace Runbook

open Text

variable {ω : Type}

/-! ## Slots -/

theorem State.writePath_of_error {s : State} {path : String} {value : Json} {e : StateError}
    (h : (s.writePath path value).1 = .error e) : (s.writePath path value).2 = s := by
  by_cases hblank : "" ∈ Path.trimmedNames path
  · rw [writePath_of_blank hblank]
  · obtain ⟨n, ns, hnames⟩ := List.exists_cons_of_ne_nil (trimmedNames_ne_nil path)
    obtain ⟨hstate, -, herror⟩ := writePath_of_names s value hnames hblank
    obtain ⟨segment, -, hstop⟩ := (herror e).mp h
    rw [hstate, Fields.write_of_stop hstop]

/-- The field that ends a run is a slot like others. -/
theorem State.writePath_completed (s : State) :
    s.writePath completedName (.bool true) = (.ok (), s.markCompleted) := by
  have hnames : Path.trimmedNames completedName = ["completed"] := by decide
  rw [writePath_eq s (.bool true) hnames (by rw [hnames]; decide)]
  rfl

theorem Reply.eq_error_of_ofExcept {α : Type} {r : Except StepError α} {e : StepError}
    (h : Reply.ofExcept r = .failed e) : r = .error e := by
  cases r with
  | ok a => nomatch h
  | error e' =>
    injection h with h
    rw [h]

namespace Instruction

variable {s : State} {i : Instruction} {text path : String} {value : Json}

/-- The slot that an instruction writes, and its value. -/
def slot? : Instruction → Option (String × Json)
  | fail _ => none
  | badPath _ => none
  | assign path operand => some (path, Json.ofLiteral operand)
  | complete => some (State.completedName, .bool true)
  | compute => some ("processing.result", .str "computed")
  | persist => some ("output.saved", .bool true)
  | nothing => none

/-- A write at a path as a step of a program: what it leaves stays, also where it fails. -/
def writeSlot (s : State) (path : String) (value : Json) : Except StepError Unit × State :=
  ((s.writePath path value).1.mapError .state, (s.writePath path value).2)

/-- An instruction carried out in place, where `text` is the action it was read from: how it ends, and the state that
it leaves. -/
def carryOut (text : String) (s : State) : Instruction → Except StepError Unit × State
  | fail message => (.error (.action text message), s)
  | badPath path => (.error (.invalidAction ("'" ++ path ++ "' is not a dotted state path")), s)
  | assign path operand => writeSlot s path (Json.ofLiteral operand)
  | complete => (.ok (), s.markCompleted)
  | compute => writeSlot s "processing.result" (.str "computed")
  | persist => writeSlot s "output.saved" (.bool true)
  | nothing => (.ok (), s)

theorem writeSlot_of_error {e : StepError} (h : (writeSlot s path value).1 = .error e) :
    (writeSlot s path value).2 = s := by
  unfold writeSlot at h ⊢
  cases hwrite : (s.writePath path value).1 with
  | error e => exact State.writePath_of_error hwrite
  | ok _ =>
    rw [hwrite] at h
    nomatch h

theorem carryOut_of_slot (text : String) (s : State) (h : i.slot? = some (path, value)) :
    i.carryOut text s = writeSlot s path value := by
  cases i with
  | complete =>
    obtain ⟨rfl, rfl⟩ := Prod.mk.inj (Option.some.inj h)
    rw [writeSlot, State.writePath_completed]
    rfl
  | assign p operand | compute | persist =>
    obtain ⟨rfl, rfl⟩ := Prod.mk.inj (Option.some.inj h)
    rfl
  | _ => nomatch h

/-- An instruction without a slot fails or does nothing. -/
theorem carryOut_of_no_slot (text : String) (s : State) (h : i.slot? = none) :
    (i.carryOut text s).2 = s ∧ ((i.carryOut text s).1 = .ok () ↔ i = nothing) := by
  cases i <;> simp only [slot?, reduceCtorEq] at h <;> simp [carryOut]

theorem carryOut_of_error {e : StepError} (h : (i.carryOut text s).1 = .error e) : (i.carryOut text s).2 = s := by
  cases hslot : i.slot? with
  | none => exact (carryOut_of_no_slot text s hslot).1
  | some slot =>
    rw [carryOut_of_slot text s hslot] at h ⊢
    exact writeSlot_of_error h

/-- What an instruction fails with tells which it is: a failure, a bad path, or else a write. -/
theorem carryOut_eq_error {e : StepError} (h : (i.carryOut text s).1 = .error e) :
    (∃ message, i = fail message ∧ e = .action text message) ∨
      (∃ path, i = badPath path ∧ e = .invalidAction ("'" ++ path ++ "' is not a dotted state path")) ∨
      ∃ e', e = .state e' := by
  have hwrite {path : String} {value : Json} (h : (writeSlot s path value).1 = .error e) : ∃ e', e = .state e' := by
    unfold writeSlot at h
    cases hwrite : (s.writePath path value).1 with
    | error e' =>
      rw [hwrite] at h
      exact ⟨e', (Except.error.inj h).symm⟩
    | ok _ =>
      rw [hwrite] at h
      nomatch h
  cases i with
  | fail message => exact .inl ⟨message, rfl, (Except.error.inj h).symm⟩
  | badPath path => exact .inr (.inl ⟨path, rfl, (Except.error.inj h).symm⟩)
  | assign _ _ | compute | persist => exact .inr (.inr (hwrite h))
  | complete | nothing => nomatch h

theorem exists_fail_of_carryOut {action message : String}
    (h : (i.carryOut text s).1 = .error (.action action message)) : ∃ m, i = fail m := by
  obtain ⟨m, hm, -⟩ | ⟨_, -, he⟩ | ⟨_, he⟩ := carryOut_eq_error h
  · exact ⟨m, hm⟩
  · nomatch he
  · nomatch he

theorem exists_badPath_of_carryOut {reason : String}
    (h : (i.carryOut text s).1 = .error (.invalidAction reason)) : ∃ p, i = badPath p := by
  obtain ⟨_, -, he⟩ | ⟨p, hp, -⟩ | ⟨_, he⟩ := carryOut_eq_error h
  · nomatch he
  · exact ⟨p, hp⟩
  · nomatch he

theorem setPath_of_carryOut (hslot : i.slot? = some (path, value)) (h : (i.carryOut text s).1 = .ok ()) :
    s.setPath path value = .ok (i.carryOut text s).2 := by
  rw [carryOut_of_slot text s hslot, writeSlot] at h ⊢
  rw [State.setPath_eq_ok]
  cases hwrite : (s.writePath path value).1 with
  | error e =>
    rw [hwrite] at h
    nomatch h
  | ok _ => rw [← hwrite]

theorem perform_eq (text : String) (s : State) (i : Instruction) :
    i.perform text s = (i.carryOut text s).1.map fun _ => (i.carryOut text s).2 := by
  have hwrite (path : String) (value : Json) : (s.setPath path value).mapError .state =
      (writeSlot s path value).1.map fun _ => (writeSlot s path value).2 := by
    rw [State.setPath, writeSlot]
    cases (s.writePath path value).1 <;> rfl
  cases i with
  | assign path operand => exact hwrite path (Json.ofLiteral operand)
  | compute => exact hwrite "processing.result" (.str "computed")
  | persist => exact hwrite "output.saved" (.bool true)
  | _ => rfl

/-- The path of a slot is well-formed, also where it is the target of an assignment. -/
theorem IsFirst.isDotted {action : List Char} (h : IsFirst action i) (hslot : i.slot? = some (path, value)) :
    Path.IsDotted path.toList := by
  cases i with
  | assign p operand =>
    obtain ⟨target, -, hpath, rfl⟩ := h.fits
    obtain ⟨rfl, -⟩ := Prod.mk.inj (Option.some.inj hslot)
    rwa [String.toList_ofList]
  | complete | compute | persist =>
    obtain ⟨rfl, -⟩ := Prod.mk.inj (Option.some.inj hslot)
    decide
  | _ => nomatch hslot

end Instruction

/-! ## The vocabulary -/

namespace Dispatcher

open Instruction

/-- The vocabulary carries out what an action says. -/
theorem vocabulary_eq {action : String} {i : Instruction} (h : IsFirst (trim action.toList) i) (s : State) (w : ω) :
    vocabulary action s w =
      (.ofExcept (i.carryOut (trimString action) s).1, (i.carryOut (trimString action) s).2, w) := by
  obtain rfl := isFirst_iff.mp h
  have hperform : Instruction.apply action s = _ := perform_eq (trimString action) s (ofChars (trim action.toList))
  unfold vocabulary
  rw [hperform]
  cases hend : ((ofChars (trim action.toList)).carryOut (trimString action) s).1 with
  | error e =>
    rw [carryOut_of_error hend]
    rfl
  | ok _ => rfl

/-- **An action writes one slot or none, and leaves no trace where it fails.** It does what the first of its shapes
says, in place. Where that fails, the state is as it was; else the action does nothing, or its slot has the value that
its shape gives, and everything apart from the slot is as it was. -/
theorem vocabulary_writes_one_slot (action : String) (s : State) (w : ω) :
    ∃ i ended, IsFirst (trim action.toList) i ∧ i.carryOut (trimString action) s = ended ∧
      vocabulary action s w = (.ofExcept ended.1, ended.2, w) ∧
      (∀ e, ended.1 = .error e → ended.2 = s) ∧
      (ended.1 = .ok () → i = .nothing ∧ ended.2 = s ∨
        ∃ path value, i.slot? = some (path, value) ∧ Path.IsDotted path.toList ∧ s.setPath path value = .ok ended.2 ∧
          s.WrittenAt (Path.names path) value ended.2) := by
  have hfirst := isFirst_ofChars (trim action.toList)
  refine ⟨_, _, hfirst, rfl, vocabulary_eq hfirst s w, fun e he => carryOut_of_error he, fun hok => ?_⟩
  cases hslot : (ofChars (trim action.toList)).slot? with
  | none =>
    obtain ⟨hstate, hdone⟩ := carryOut_of_no_slot (trimString action) s hslot
    exact .inl ⟨hdone.mp hok, hstate⟩
  | some slot =>
    have hpath := hfirst.isDotted hslot
    have hset := setPath_of_carryOut hslot hok
    refine .inr ⟨slot.1, slot.2, rfl, hpath, hset, ?_⟩
    have hwritten := State.writtenAt_of_setPath hset
    rwa [Path.trimmedNames_eq hpath] at hwritten

/-! ## Declared failures -/

/-- A failure starts with another word than assignments and completions do. -/
theorem dropPhrase?_of_declares {text rest : List Char} (h : Declares text rest) {word : String}
    (hword : word ∈ ["set", "mark"]) : dropPhrase? word.toList text = none := by
  obtain ⟨hfail, -⟩ := declares_iff.mp h
  have hlower {w : String} (h : w.toList.all (·.isLower) = true) := List.all_eq_true.mp h
  rcases List.mem_pair.mp hword with rfl | rfl
  · exact dropPhrase?_apart (hlower (by decide)) (hlower (by decide)) (by decide) (by decide) hfail
  · exact dropPhrase?_apart (hlower (by decide)) (hlower (by decide)) (by decide) (by decide) hfail

theorem assignment?_of_declares {text rest : List Char} (h : Declares text rest) : assignment? text = none := by
  rw [assignment?, dropPhrase?_of_declares h (by simp)]
  rfl

theorem saysComplete_of_declares {text rest : List Char} (h : Declares text rest) : saysComplete text = false := by
  rw [Bool.eq_false_iff, Ne, saysComplete_iff]
  rintro ⟨w, mid, u, after, ⟨word, hword, hw⟩, -, -, hs, -⟩
  have hnone := dropPhrase?_of_declares h hword
  rw [dropPhrase?_eq_some.mpr ⟨w, hw, hs⟩] at hnone
  nomatch hnone

/-- A failure whose message goes on on another line is none, and what is left for it to be. -/
theorem ofChars_of_broken {text rest : List Char} (h : Declares text rest) (hline : '\n' ∈ told rest) :
    ofChars text = .compute ∨ ofChars text = .persist ∨ ofChars text = .nothing := by
  have hfail : failure? text = none := by
    rw [Option.eq_none_iff_forall_ne_some]
    intro message hmessage
    obtain ⟨rest', h', hline', -⟩ := failure?_eq_some.mp hmessage
    have hrest : rest = rest' := Option.some.inj ((declares_iff.mp h).1.symm.trans (declares_iff.mp h').1)
    exact hline' (hrest ▸ hline)
  rw [ofChars_of_neither hfail (assignment?_of_declares h), saysComplete_of_declares h]
  split
  · next hfalse => nomatch hfalse
  · split
    · exact .inl rfl
    · split
      · exact .inr (.inl rfl)
      · exact .inr (.inr rfl)

/-- **A declared failure fails if its message is on one line.** The error names the action and tells the message,
whatever words of other actions there are in it, and the state is as it was. If the message goes on on another line,
the action is no failure: it computes or saves something if a word in it says so, and does nothing else. -/
theorem declared_failure_fails {action : String} {rest : List Char} (h : Declares (trim action.toList) rest)
    (s : State) (w : ω) :
    ((∃ message, vocabulary action s w = (.failed (.action (trimString action) message), s, w)) ↔
        '\n' ∉ told rest) ∧
      ('\n' ∉ told rest →
        vocabulary action s w = (.failed (.action (trimString action) (messageOf (told rest))), s, w)) ∧
      ('\n' ∈ told rest → ∃ i, IsFirst (trim action.toList) i ∧ (i = .compute ∨ i = .persist ∨ i = .nothing) ∧
        vocabulary action s w =
          (.ofExcept (i.carryOut (trimString action) s).1, (i.carryOut (trimString action) s).2, w)) := by
  have hone (hline : '\n' ∉ told rest) :
      vocabulary action s w = (.failed (.action (trimString action) (messageOf (told rest))), s, w) :=
    vocabulary_eq (isFirst_iff.mpr (ofChars_of_failure (failure?_eq_some.mpr ⟨rest, h, hline, rfl⟩))) s w
  have hfirst := isFirst_ofChars (trim action.toList)
  have hrun := vocabulary_eq hfirst s w
  refine ⟨⟨fun ⟨message, hmessage⟩ hline => ?_, fun hline => ⟨_, hone hline⟩⟩, hone, fun hline =>
    ⟨_, hfirst, ofChars_of_broken h hline, hrun⟩⟩
  obtain ⟨m, hm⟩ := exists_fail_of_carryOut (Reply.eq_error_of_ofExcept (Prod.mk.inj (hrun.symm.trans hmessage)).1)
  have hkind := ofChars_of_broken h hline
  simp [hm] at hkind

/-- The message has the shapes of an assignment and of a save in it. -/
theorem declared_failure_fails_wordy :
    Declares (trim " FAIL : set a = 1, save it ".toList) " : set a = 1, save it".toList ∧
      '\n' ∉ told " : set a = 1, save it".toList ∧
      vocabulary " FAIL : set a = 1, save it " State.empty () =
        (.failed (.action "FAIL : set a = 1, save it" "set a = 1, save it"), State.empty, ()) := by
  have hdeclares : Declares (trim " FAIL : set a = 1, save it ".toList) " : set a = 1, save it".toList :=
    declares_iff.mpr ⟨by decide, by simp; decide⟩
  have hline : '\n' ∉ told " : set a = 1, save it".toList := by decide
  have htext : trimString " FAIL : set a = 1, save it " = "FAIL : set a = 1, save it" := by decide
  have hmessage : messageOf (told " : set a = 1, save it".toList) = "set a = 1, save it" := by decide
  have hfails := (declared_failure_fails hdeclares State.empty ()).2.1 hline
  rw [htext, hmessage] at hfails
  exact ⟨hdeclares, hline, hfails⟩

/-- A failure that goes on on another line saves, since a word in it says so. -/
theorem broken_failure_saves : ¬ ∀ (action : String) (rest : List Char) (s : State) (w : Unit),
    Declares (trim action.toList) rest →
      ∃ message, vocabulary action s w = (.failed (.action (trimString action) message), s, w) := by
  intro hall
  have hfirst : IsFirst (trim "fail: cannot\nsave".toList) .persist := isFirst_iff.mpr (by decide)
  have hdeclares : Declares (trim "fail: cannot\nsave".toList) ": cannot\nsave".toList :=
    declares_iff.mpr ⟨by decide, by simp; decide⟩
  obtain ⟨message, h⟩ := hall "fail: cannot\nsave" ": cannot\nsave".toList State.empty () hdeclares
  rw [vocabulary_eq hfirst] at h
  obtain ⟨m, hm⟩ := exists_fail_of_carryOut (Reply.eq_error_of_ofExcept (Prod.mk.inj h).1)
  nomatch hm

end Dispatcher

end Runbook
