import Runbook.Proofs.Readback
import Runbook.Proofs.Tidy
import Runbook.Proofs.Vocabulary

/-!
# Assignments to any target

An action with the word of assignment, a text, a sign and an operand is an assignment if that text is one word. It
writes a slot if the word is a path, and is refused if not. A text of several words is no target, so the shapes that
come after assignments are tried, and one of them may end the run.

* `Text.HasGap`, `Text.exists_gap` : a text of several words, split at its first gap;
* `assignment?_word`, `assignment?_words` : what is read as the target of an assignment;
* `State.completed_of_writtenAt` : a write that ends a run writes the field that ends it;
* `IsFirst.ends`, `IsFirst.ends_run` : the actions that end a run, and the assignments among them;
* `word_is_assigned_or_refused` : what an assignment does, by the words of its target;
* `words_end_run` : an assignment to several words that ends the run.
-/

namespace Runbook

open Text

variable {ω : Type}

/-! ## Words of a target -/

/-- A text is of several words: a blank stands in it, apart from those around it. -/
def Text.HasGap (s : List Char) : Prop := ∃ c ∈ trim s, isBlank c = true

instance (s : List Char) : Decidable (Text.HasGap s) := List.decidableBEx _ _

/-- Trimming the start of two texts takes blanks off the first, unless that is blank; its end stays as it is. -/
theorem Text.exists_trimStart_append {s : List Char} (hne : trim s ≠ []) (t : List Char) :
    ∃ b, AllBlank b ∧ trimStart (s ++ t) = trim s ++ (b ++ t) := by
  obtain ⟨a, ha, hs⟩ := exists_trimStart s
  obtain ⟨b, hb, hr⟩ := exists_trimEnd (trimStart s)
  refine ⟨b, hb, ?_⟩
  cases hstart : trimStart s with
  | nil =>
    rw [trim, hstart] at hne
    exact absurd rfl hne
  | cons c r =>
    calc trimStart (s ++ t) = trimStart (a ++ (trimStart s ++ t)) := by rw [← List.append_assoc, ← hs]
      _ = trimStart s ++ t := by
        rw [trimStart_append ha, hstart, List.cons_append, trimStart_cons (isBlank_head_trimStart hstart)]
      _ = trim s ++ b ++ t := congrArg (· ++ t) hr
      _ = trim s ++ (b ++ t) := List.append_assoc ..

/-- A text of several words is one word, a gap, and a text that starts with another word, but for blanks around it. -/
theorem Text.exists_gap {s : List Char} (h : HasGap s) :
    ∃ word gap c rest, trim s = word ++ (gap ++ c :: rest) ∧ (∀ d ∈ word, isBlank d = false) ∧ AllBlank gap ∧
      gap ≠ [] ∧ isBlank c = false := by
  obtain ⟨b, hb, hblank⟩ := h
  have htrim : trim (trim s) = trim s := trim_trim s
  generalize trim s = t at hb htrim ⊢
  have hsplit : t = (t.takeWhile fun c => !isBlank c) ++ t.dropWhile fun c => !isBlank c :=
    List.takeWhile_append_dropWhile.symm
  have hword : ∀ d ∈ t.takeWhile fun c => !isBlank c, isBlank d = false := by
    intro d hd
    simpa using List.all_eq_true.mp List.all_takeWhile d hd
  obtain ⟨gap, hgap, hafter⟩ := exists_trimStart (t.dropWhile fun c => !isBlank c)
  cases hrest : trimStart (t.dropWhile fun c => !isBlank c) with
  | nil =>
    -- what follows the word is blank, and no blanks are at the end, so all of the text is the word
    have hshort := trim_append allBlank_nil (t.takeWhile fun c => !isBlank c) (trimStart_eq_nil.mp hrest)
    rw [List.nil_append, ← hsplit, htrim] at hshort
    have hmem : b ∈ t.takeWhile fun c => !isBlank c := mem_of_mem_trim (hshort ▸ hb)
    exact absurd hblank (by simp [hword b hmem])
  | cons c rest =>
    have hc := isBlank_head_trimStart hrest
    rw [hrest] at hafter
    refine ⟨_, gap, c, rest, hafter ▸ hsplit, hword, hgap, ?_, hc⟩
    rintro rfl
    have hhead := List.head?_dropWhile_not (fun c => !isBlank c) t
    rw [hafter] at hhead
    simp [hc] at hhead

namespace Instruction

/-- A word that other words follow is no target. -/
theorem target?_words {word gap rest : List Char} {c : Char} (hword : ∀ d ∈ word, isBlank d = false ∧ d ≠ '=')
    (hgap : AllBlank gap) (hne : gap ≠ []) (hc : isBlank c = false) (hsign : c ≠ '=') (taken : List Char) :
    target? taken (word ++ (gap ++ c :: rest)) = none := by
  induction word generalizing taken with
  | nil =>
    obtain ⟨b, gap, rfl⟩ := List.exists_cons_of_ne_nil hne
    rw [List.nil_append, List.cons_append, target?, (allBlank_cons.mp hgap).1, if_pos rfl]
  | cons d word ih =>
    obtain ⟨⟨hd, -⟩, hword⟩ := List.forall_mem_cons.mp hword
    have hassigned : assigned? (word ++ (gap ++ c :: rest)) = none := by
      cases word with
      | nil =>
        have hstart : trimStart (gap ++ c :: rest) = c :: rest := by rw [trimStart_append hgap, trimStart_cons hc]
        have hnone := assigned?_eq_none hc hsign rest
        rw [assigned?, trimStart_cons hc] at hnone
        rw [List.nil_append, assigned?, hstart]
        exact hnone
      | cons e word =>
        obtain ⟨he, hesign⟩ := hword e List.mem_cons_self
        exact assigned?_eq_none he hesign _
    rw [List.cons_append, target?, hd, if_neg Bool.false_ne_true, hassigned]
    exact ih hword (d :: taken)

variable {target tail operand : List Char}

/-- One word before an operand is the target, whatever it is made of. -/
theorem assignment?_word (hne : trim target ≠ []) (hword : ¬ HasGap target)
    (hsign : '=' ∉ target) (h : Comparison.operand? tail = some operand) :
    assignment? ('s' :: 'e' :: 't' :: ' ' :: (target ++ ' ' :: '=' :: tail)) = some (trim target, operand) := by
  obtain ⟨b, hb, hstart⟩ := exists_trimStart_append hne (' ' :: '=' :: tail)
  have hassigned : assigned? (b ++ ' ' :: '=' :: tail) = some operand := by
    rw [assigned?_eq (r := tail) (trimStart_append hb _), h]
  rw [assignment?_set, hstart]
  refine target?_append hne (fun c hc => ⟨Bool.eq_false_iff.mpr fun hb => hword ⟨c, hc, hb⟩, ?_⟩) hassigned []
  rintro rfl
  exact hsign (mem_of_mem_trim hc)

/-- Several words are no target. -/
theorem assignment?_words (hwords : HasGap target) (hsign : '=' ∉ target) :
    assignment? ('s' :: 'e' :: 't' :: ' ' :: (target ++ ' ' :: '=' :: tail)) = none := by
  obtain ⟨word, gap, c, rest, htarget, hword, hgap, hne, hc⟩ := exists_gap hwords
  have hsigns (d : Char) (hd : d ∈ word ++ (gap ++ c :: rest)) : d ≠ '=' := by
    rintro rfl
    exact hsign (mem_of_mem_trim (htarget ▸ hd))
  obtain ⟨b, -, hstart⟩ := exists_trimStart_append (s := target) (by simp [htarget]) (' ' :: '=' :: tail)
  rw [assignment?_set, hstart, htarget, List.append_assoc, List.append_assoc, List.cons_append]
  exact target?_words (fun d hd => ⟨hword d hd, hsigns d (by simp [hd])⟩) hgap hne hc (hsigns c (by simp)) []

end Instruction

/-! ## Actions that end a run -/

theorem State.find?_completed (s : State) : s.find? ["completed"] = s.get? completedName := Option.bind_fun_some _

theorem State.isCompleted_iff {s : State} : s.isCompleted = true ↔ s.find? ["completed"] = some (.bool true) := by
  rw [find?_completed, isCompleted]
  constructor
  · intro h
    split at h
    · next b hget => rw [hget, h]
    · nomatch h
  · intro h
    rw [h]

/-- A write that ends a run writes the field that ends it. -/
theorem State.completed_of_writtenAt {s s' : State} {names : List String} {value : Json}
    (h : s.WrittenAt names value s') (hne : names ≠ []) (hended : s'.isCompleted = true) :
    s.isCompleted = true ∨ names = ["completed"] ∧ value = .bool true := by
  rw [isCompleted_iff] at hended
  by_cases hfield : names = ["completed"]
  · refine .inr ⟨hfield, ?_⟩
    have hfound := h.found
    rw [hfield, hended] at hfound
    exact (Option.some.inj hfound).symm
  · have habove : ¬ names <+: ["completed"] := by
      obtain ⟨name, names, rfl⟩ := List.exists_cons_of_ne_nil hne
      rw [List.cons_prefix_cons, List.prefix_nil]
      rintro ⟨rfl, rfl⟩
      exact hfield rfl
    have hbelow : ¬ ["completed"] <+: names := by
      rintro ⟨rest, rfl⟩
      obtain ⟨name, rest, rfl⟩ := List.exists_cons_of_ne_nil (l := rest) fun hnil => hfield (by rw [hnil]; rfl)
      -- what is true has no fields
      have hfound : (s'.get? completedName).bind (Json.find? (name :: rest)) = some value := h.found
      rw [← find?_completed, hended] at hfound
      nomatch hfound
    rw [h.apart ["completed"] hbelow habove, ← isCompleted_iff] at hended
    exact .inl hended

/-- A write at a well-formed path succeeds, or a name on the path leads to a value that is no object. -/
theorem State.writePath_of_isDotted {path : String} (hpath : Path.IsDotted path.toList) (s : State) (value : Json) :
    (∃ s', s.writePath path value = (.ok (), s')) ∨ ∃ segment, s.toJson.Blocks (Path.names path) segment ∧
      s.writePath path value = (.error (.conflict path segment), s) := by
  have hempty : "" ∉ Path.trimmedNames path := by
    rw [Path.trimmedNames_eq hpath, Path.names, List.mem_map]
    rintro ⟨name, hname, h⟩
    exact (hpath name hname).1 (String.ofList_eq_empty_iff.mp h)
  obtain ⟨n, ns, hnames⟩ := List.exists_cons_of_ne_nil (trimmedNames_ne_nil path)
  rw [writePath_eq s value hnames hempty]
  cases hstop : (s.fields.write value n ns).2 with
  | none => exact .inl ⟨_, rfl⟩
  | some segment =>
    refine .inr ⟨segment, ?_, by rw [Fields.write_of_stop hstop]; rfl⟩
    rw [← Path.trimmedNames_eq hpath, hnames]
    exact Fields.write_stop.mp hstop

namespace Instruction

/-- An action that ends a run assigns the field that ends it, or is a completion. -/
theorem IsFirst.ends {action : List Char} {i : Instruction} (h : IsFirst action i) {text : String} {s : State}
    (hended : (i.carryOut text s).2.isCompleted = true) : s.isCompleted = true ∨ i = complete ∨
      ∃ operand, i = assign State.completedName operand ∧ Json.ofLiteral operand = .bool true := by
  cases hslot : i.slot? with
  | none =>
    rw [(carryOut_of_no_slot text s hslot).1] at hended
    exact .inl hended
  | some slot =>
    obtain ⟨path, value⟩ := slot
    cases hend : (i.carryOut text s).1 with
    | error e =>
      rw [carryOut_of_error hend] at hended
      exact .inl hended
    | ok _ =>
      have hwritten := State.writtenAt_of_setPath (setPath_of_carryOut hslot hend)
      refine (State.completed_of_writtenAt hwritten (State.trimmedNames_ne_nil path) hended).imp_right ?_
      rintro ⟨hnames, rfl⟩
      have hpath : path = State.completedName := by
        rw [← Path.intercalate_names path, ← Path.trimmedNames_eq (h.isDotted hslot), hnames]
        rfl
      cases i with
      | complete => exact .inl rfl
      | assign p operand =>
        obtain ⟨rfl, hvalue⟩ := Prod.mk.inj (Option.some.inj hslot)
        exact .inr ⟨operand, by rw [hpath], hvalue⟩
      | compute | persist => exact absurd ((Prod.mk.inj (Option.some.inj hslot)).1.trans hpath) (by decide)
      | _ => nomatch hslot

end Instruction

/-! ## The texts as they are written -/

section Written

variable {target text : String}

/-- An assignment to one word is read as one, to a path or to what is none. -/
theorem Instruction.ofChars_word (hsign : '=' ∉ target.toList) (htarget : ¬ AllBlank target.toList)
    (hline : '\n' ∉ text.toList) (htext : ¬ AllBlank text.toList) (hword : ¬ HasGap target.toList) :
    ofChars (trim ("set " ++ target ++ " = " ++ text).toList) =
      if Path.IsDotted (trimString target).toList then assign (trimString target) (trim text.toList)
      else badPath (trimString target) := by
  rw [trim_assignment, trimString, String.toList_ofList]
  simp only [← Path.isWellFormed_iff]
  refine ofChars_of_assignment (failure?_set _) (assignment?_word ?_ hword hsign ?_)
  · rwa [Ne, trim_eq_nil]
  · exact Comparison.operand?_trimEnd hline htext

/-- An assignment to several words is read as one of the shapes that come after it. -/
theorem Instruction.ofChars_words (hsign : '=' ∉ target.toList) (hwords : HasGap target.toList) (text : String) :
    ofChars (trim ("set " ++ target ++ " = " ++ text).toList) ∈ [complete, compute, persist, nothing] := by
  rw [trim_assignment, ofChars_of_neither (failure?_set _) (assignment?_words hwords hsign)]
  split
  · simp
  · split
    · simp
    · split <;> simp

/-- An assignment to one word ends a run if it assigns the field that ends it, one to several words if these make up a
completion. -/
theorem Instruction.IsFirst.ends_run {i : Instruction} {s : State}
    (h : IsFirst (trim ("set " ++ target ++ " = " ++ text).toList) i) (hsign : '=' ∉ target.toList)
    (htarget : ¬ AllBlank target.toList) (hline : '\n' ∉ text.toList) (htext : ¬ AllBlank text.toList) {told : String}
    (hended : (i.carryOut told s).2.isCompleted = true) :
    s.isCompleted = true ∨
      trimString target = State.completedName ∧ Json.ofLiteral (trim text.toList) = .bool true ∨
      HasGap target.toList ∧ SaysComplete (trim ("set " ++ target ++ " = " ++ text).toList) := by
  refine (h.ends hended).imp_right ?_
  by_cases hwide : HasGap target.toList
  · have hkind := ofChars_words hsign hwide text
    rintro (hcomplete | ⟨operand, hassign, -⟩)
    · exact .inr ⟨hwide, (hcomplete ▸ h).fits⟩
    · rw [isFirst_iff.mp h, hassign] at hkind
      simp at hkind
  · have hread := (ofChars_word hsign htarget hline htext hwide).symm.trans (isFirst_iff.mp h)
    rintro (hcomplete | ⟨operand, hassign, hvalue⟩)
    · rw [hcomplete] at hread
      split at hread <;> nomatch hread
    · rw [hassign] at hread
      split at hread
      · obtain ⟨hname, rfl⟩ := assign.inj hread
        exact .inl ⟨hname, hvalue⟩
      · nomatch hread

namespace Dispatcher

open Instruction

/-- An assignment to a path leaves its value there, or tells where the path conflicts with the state. -/
theorem vocabulary_of_assign {action path : String} {operand : List Char}
    (h : IsFirst (trim action.toList) (assign path operand)) (s : State) (w : ω) :
    (∃ s', s.setPath path (Json.ofLiteral operand) = .ok s' ∧ s'.getPath? path = some (Json.ofLiteral operand) ∧
        vocabulary action s w = (.done (), s', w)) ∨
      ∃ segment, s.toJson.Blocks (Path.names path) segment ∧
        vocabulary action s w = (.failed (.state (.conflict path segment)), s, w) := by
  have hpath : Path.IsDotted path.toList := h.isDotted rfl
  rw [vocabulary_eq h, carryOut, writeSlot]
  rcases State.writePath_of_isDotted hpath s (Json.ofLiteral operand) with ⟨s', hwrite⟩ | ⟨segment, hblocks, hwrite⟩
  · have hset := State.setPath_eq_ok.mpr hwrite
    exact .inl ⟨s', hset, State.getPath?_of_setPath hpath hset, by rw [hwrite]; rfl⟩
  · exact .inr ⟨segment, hblocks, by rw [hwrite]; rfl⟩

/-- **An assignment to one word is carried out or refused.** If the word is a path, the assignment leaves the value of
its operand there, or tells where the path conflicts with the state; if it is none, the action is invalid. The error
leaves the state as it was. An assignment to several words is never invalid: one of the shapes after it is carried out,
or nothing is done. So a run is ended by an assignment of `true` to the field that ends it, or by several words that
make up a completion. -/
theorem word_is_assigned_or_refused (hsign : '=' ∉ target.toList) (htarget : ¬ AllBlank target.toList)
    (hline : '\n' ∉ text.toList) (htext : ¬ AllBlank text.toList) (s : State) (w : ω) :
    let action := "set " ++ target ++ " = " ++ text
    let path := trimString target
    let value := Json.ofLiteral (trim text.toList)
    let ended := vocabulary action s w
    (Path.IsDotted path.toList →
        (∃ s', s.setPath path value = .ok s' ∧ s'.getPath? path = some value ∧ ended = (.done (), s', w)) ∨
          ∃ segment, s.toJson.Blocks (Path.names path) segment ∧
            ended = (.failed (.state (.conflict path segment)), s, w)) ∧
      (¬ Path.IsDotted path.toList → ¬ HasGap target.toList →
        ended = (.failed (.invalidAction ("'" ++ path ++ "' is not a dotted state path")), s, w)) ∧
      (HasGap target.toList → ∃ i, IsFirst (trim action.toList) i ∧ i ∈ [complete, compute, persist, nothing] ∧
        ended = (.ofExcept (i.carryOut (trimString action) s).1, (i.carryOut (trimString action) s).2, w)) ∧
      ((∃ reason, ended = (.failed (.invalidAction reason), s, w)) ↔
        ¬ Path.IsDotted path.toList ∧ ¬ HasGap target.toList) ∧
      (ended.2.1.isCompleted = true → s.isCompleted = true ∨ path = State.completedName ∧ value = .bool true ∨
        HasGap target.toList ∧ SaysComplete (trim action.toList)) := by
  intro action path value ended
  have hfirst := isFirst_ofChars (trim action.toList)
  have hrun : ended = _ := vocabulary_eq hfirst s w
  have hword (h : ¬ HasGap target.toList) := ofChars_word hsign htarget hline htext h
  have hwords (h : HasGap target.toList) : ofChars (trim action.toList) ∈ _ := ofChars_words hsign h text
  have hone (hpath : Path.IsDotted path.toList) : ¬ HasGap target.toList := by
    rintro ⟨c, hc, hblank⟩
    have hmem : c ∈ path.toList := String.toList_ofList.symm ▸ hc
    exact Bool.false_ne_true ((hpath.not_isBlank hmem).symm.trans hblank)
  have hdone (hpath : Path.IsDotted path.toList) :=
    vocabulary_of_assign (isFirst_iff.mpr ((hword (hone hpath)).trans (if_pos hpath))) s w
  have hrefused (hpath : ¬ Path.IsDotted path.toList) (h : ¬ HasGap target.toList) : ended = _ :=
    vocabulary_eq (isFirst_iff.mpr ((hword h).trans (if_neg hpath))) s w
  refine ⟨hdone, hrefused, fun h => ⟨_, hfirst, hwords h, hrun⟩, ⟨?_, ?_⟩, fun h => ?_⟩
  · rintro ⟨reason, h⟩
    refine ⟨fun hpath => ?_, fun hwide => ?_⟩
    · rcases hdone hpath with ⟨s', -, -, hended⟩ | ⟨segment, -, hended⟩
      · nomatch (Prod.mk.inj (hended.symm.trans h)).1
      · nomatch (Prod.mk.inj (hended.symm.trans h)).1
    · obtain ⟨p, hp⟩ := exists_badPath_of_carryOut (Reply.eq_error_of_ofExcept (Prod.mk.inj (hrun.symm.trans h)).1)
      have hkind := hwords hwide
      simp [hp] at hkind
  · rintro ⟨hpath, h⟩
    exact ⟨_, hrefused hpath h⟩
  · rw [hrun] at h
    exact hfirst.ends_run hsign htarget hline htext h

/-- The word is a word of completion and one of storing with two dots in it, and so is the text. -/
theorem word_is_assigned_or_refused_dots :
    '=' ∉ " complete..store ".toList ∧ ¬ AllBlank " complete..store ".toList ∧ '\n' ∉ "= mark it complete".toList ∧
      ¬ AllBlank "= mark it complete".toList ∧
      vocabulary ("set " ++ " complete..store " ++ " = " ++ "= mark it complete") State.empty () =
        (.failed (.invalidAction "'complete..store' is not a dotted state path"), State.empty, ()) := by
  have hsign : '=' ∉ " complete..store ".toList := by decide
  have htarget : ¬ AllBlank " complete..store ".toList := by decide
  have hline : '\n' ∉ "= mark it complete".toList := by decide
  have htext : ¬ AllBlank "= mark it complete".toList := by decide
  have hpath : trimString " complete..store " = "complete..store" := by decide
  have hrefused := (word_is_assigned_or_refused hsign htarget hline htext State.empty ()).2.1
    (by decide) (by decide)
  rw [hpath] at hrefused
  exact ⟨hsign, htarget, hline, htext, hrefused⟩

/-- An assignment of `false` to two words, of which the second is a word of completion, ends the run. -/
theorem words_end_run : ¬ ∀ (target text : String) (s : State) (w : Unit), '=' ∉ target.toList →
    '\n' ∉ target.toList → ¬ AllBlank target.toList → '\n' ∉ text.toList → ¬ AllBlank text.toList →
      let path := trimString target
      let ended := vocabulary ("set " ++ target ++ " = " ++ text) s w
      (Path.IsDotted path.toList →
          (∃ s', s.setPath path (Json.ofLiteral (trim text.toList)) = .ok s' ∧ ended = (.done (), s', w)) ∨
            ∃ e, ended = (.failed (.state e), s, w)) ∧
        (¬ Path.IsDotted path.toList → ∃ reason, ended = (.failed (.invalidAction reason), s, w)) ∧
        (ended.2.1.isCompleted = true → s.isCompleted = true ∨ path = State.completedName) := by
  intro hall
  have hended : vocabulary ("set " ++ "task complete" ++ " = " ++ "false") State.empty () =
      (.done (), State.empty.markCompleted, ()) :=
    vocabulary_eq (i := .complete) (isFirst_iff.mpr (by decide)) State.empty ()
  obtain ⟨-, hrefused, -⟩ := hall "task complete" "false" State.empty () (by decide) (by decide)
    (by decide) (by decide) (by decide)
  obtain ⟨reason, h⟩ := hrefused (by decide)
  nomatch (Prod.mk.inj (hended.symm.trans h)).1

end Dispatcher

end Written

end Runbook
