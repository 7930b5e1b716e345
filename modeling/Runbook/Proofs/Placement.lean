import Runbook.Program.Parse
import Runbook.Proofs.Markers
import Runbook.Proofs.Places

/-!
# Where the lines of a program text belong

A program text is read in one pass that remembers the part it is in and the step that is open. What it reads can be
told by the places of the lines alone.

* `LineBears lines i m` : line `i` of a text says `m`; `InSteps`, `InState` : the parts that a place stands in;
* `Under` : the places that belong to a step line; `StepAt` : the step that a step line opens;
* `Placed` : a program that is read off by places; `Placed.unique` : there is one at most;
* `stepAt?`, `headerAt`, `body` : the passes over the markers of the lines; `tells_steps`, `tells_header`, `tells_body`;
* `Outline.foldl_steps`, `Outline.foldl_header` : reading line by line makes these passes;
* `parse_eq_iff_placed` : the parsed program is the one that is read off by places.
-/

namespace Runbook

open Text (trim)

/-! ## Programs read off by places -/

section Reading

/-- Line `i` of a text says `m`. -/
def LineBears (lines : List (List Char)) (i : Nat) (m : Marker) : Prop :=
  ∃ line, lines[i]? = some line ∧ m.Says line

variable (bears : Nat → Marker → Prop)

/-- Place `i` lies after a heading of the steps, with no heading of the state since. -/
def InSteps (i : Nat) : Prop := Since (bears · .stepsSection) (bears · .stateSection) i

/-- Place `i` lies after a heading of the state, with no heading of the steps since. -/
def InState (i : Nat) : Prop := Since (bears · .stateSection) (bears · .stepsSection) i

/-- A step line or a heading. -/
def Opens (i : Nat) : Prop := bears i .stateSection ∨ bears i .stepsSection ∨ ∃ name, bears i (.step name)

/-- Place `k` lies after place `i`, and nothing opens after `i` down to `k`. -/
def Under (i k : Nat) : Prop := i < k ∧ ∀ j, i < j → j ≤ k → ¬ Opens bears j

/-- The step that the step line at place `i` opens. -/
structure StepAt (i : Nat) (s : Step) : Prop where
  name : bears i (.step s.name)
  actions : Tells (fun k => Under bears i k ∧ ∃ text, bears k (.action text))
    (fun k text => bears k (.action text)) s.actions
  conditions : Tells (fun k => Under bears i k ∧ ∃ text, bears k (.condition text))
    (fun k text => bears k (.condition text)) s.conditions

/-- A program that is read off the lines of a text by their places. -/
structure Placed (p : Program) : Prop where
  name : TellsLast (fun i => ¬ InState bears i ∧ ∃ text, bears i (.program text))
    (fun i text => bears i (.program text)) "" p.name
  goal : TellsLast (fun i => ¬ InState bears i ∧ ∃ text, bears i (.goal text))
    (fun i text => bears i (.goal text)) "" p.goal
  steps : Tells (fun i => InSteps bears i ∧ ∃ name, bears i (.step name)) (StepAt bears) p.steps

variable {bears}

theorem StepAt.unique (hbears : ∀ i m n, bears i m → bears i n → m = n) {i : Nat} {s t : Step} (hs : StepAt bears i s)
    (ht : StepAt bears i t) : s = t := by
  have hname := hbears i _ _ hs.name ht.name
  have hactions := hs.actions.unique (fun k a b ha hb => Marker.action.inj (hbears k _ _ ha hb)) ht.actions
  have hconditions := hs.conditions.unique (fun k a b ha hb => Marker.condition.inj (hbears k _ _ ha hb)) ht.conditions
  cases s
  cases t
  simp_all

theorem Placed.unique (hbears : ∀ i m n, bears i m → bears i n → m = n) {p q : Program} (hp : Placed bears p)
    (hq : Placed bears q) : p = q := by
  have hname := hp.name.unique (fun k a b ha hb => Marker.program.inj (hbears k _ _ ha hb)) hq.name
  have hgoal := hp.goal.unique (fun k a b ha hb => Marker.goal.inj (hbears k _ _ ha hb)) hq.goal
  have hsteps := hp.steps.unique (fun k s t hs ht => hs.unique hbears ht) hq.steps
  cases p
  cases q
  simp_all

end Reading

/-! ## The lines of a text as markers -/

namespace Program

/-- The marker of each line of a text. -/
def marks (lines : List (List Char)) : List (Option Marker) := lines.map fun line => Marker.ofLine? (trim line)

/-- Place `i` bears the marker `m`. -/
def MarkAt (ms : List (Option Marker)) (i : Nat) (m : Marker) : Prop := ms[i]? = some (some m)

theorem lineBears_eq (lines : List (List Char)) : LineBears lines = MarkAt (marks lines) := by
  funext i m
  rw [MarkAt, marks, List.getElem?_map, Option.map_eq_some_iff]
  simp only [Marker.ofLine?_trim, LineBears]

end Program

/-- The part that the line after a line stands in. -/
def Part.next (part : Part) : Option Marker → Part
  | some .stateSection => .state
  | some .stepsSection => .steps
  | _ => part

namespace Marker

/-- The text that a marker bears. -/
def text? : Marker → Option String
  | program t | goal t | step t | action t | condition t => some t
  | stateSection | stepsSection => none

/-- The text of a marker of one kind. -/
def textAs? (kind : String → Marker) (m : Marker) : Option String := m.text?.filter fun t => kind t = m

theorem textAs?_eq_some {kind : String → Marker} (hkind : ∀ t, (kind t).text? = some t) {m : Marker} {t : String} :
    m.textAs? kind = some t ↔ m = kind t := by
  rw [textAs?, Option.filter_eq_some_iff, decide_eq_true_eq]
  constructor
  · exact fun h => h.2.symm
  · rintro rfl
    exact ⟨hkind t, rfl⟩

/-- A step line or a heading. -/
def ends : Option Marker → Bool
  | some stateSection | some stepsSection | some (step _) => true
  | _ => false

end Marker

namespace Program

open Marker

/-- Whether the lines still belong to one step. -/
def stays (still : Bool) (m : Option Marker) : Bool := still && !ends m

/-- The texts of one kind down to the next line that opens. -/
def body (kind : String → Marker) (ms : List (Option Marker)) : List String :=
  scan stays (fun still m _ => if still then m.bind (textAs? kind) else none) true ms

/-- What a line gives to the name or the goal. -/
def headerAt (kind : String → Marker) (part : Part) (m : Option Marker) (_ : List (Option Marker)) : Option String :=
  if part = .state then none else m.bind (textAs? kind)

/-- The step that a line opens, with what the lines after it give to it. -/
def stepAt? (part : Part) (m : Option Marker) (after : List (Option Marker)) : Option Step :=
  if part = .steps then (m.bind (textAs? .step)).map fun name => ⟨name, body .action after, body .condition after⟩
  else none

end Program

open Program Marker

section Marks

variable {ms : List (Option Marker)} {kind : String → Marker}

/-! ## What a pass over the markers tells -/

theorem opens_markAt {j : Nat} : Opens (MarkAt ms) j ↔ ∃ m, ms[j]? = some m ∧ ends m = true := by
  unfold Opens MarkAt
  constructor
  · rintro (h | h | ⟨name, h⟩) <;> exact ⟨_, h, rfl⟩
  · rintro ⟨m, hm, hends⟩
    rw [hm]
    match m with
    | some .stateSection => exact .inl rfl
    | some .stepsSection => exact .inr (.inl rfl)
    | some (.step name) => exact .inr (.inr ⟨name, rfl⟩)

theorem foldl_stays {still : Bool} : ms.foldl stays still = true ↔ still = true ∧ ∀ m ∈ ms, ends m = false := by
  induction ms generalizing still with
  | nil => simp
  | cons m ms ih => simp [ih, stays, and_assoc]

/-- The lines from place `i + 1` on belong to the line at place `i` as long as nothing opens. -/
theorem stays_iff_under {i k : Nat} (hk : ¬ Opens (MarkAt ms) (i + 1 + k)) :
    ((ms.drop (i + 1)).take k).foldl stays true = true ↔ Under (MarkAt ms) i (i + 1 + k) := by
  rw [foldl_stays, and_iff_right rfl]
  constructor
  · refine fun h => ⟨by omega, fun j hij hjk hopens => ?_⟩
    obtain ⟨n, rfl⟩ := Nat.exists_eq_add_of_le hij
    rcases Nat.lt_or_ge n k with hnk | hkn
    · obtain ⟨m, hm, hends⟩ := opens_markAt.mp hopens
      have hmem : m ∈ (ms.drop (i + 1)).take k :=
        List.mem_of_getElem? (i := n) (by rwa [List.getElem?_take_of_lt hnk, List.getElem?_drop])
      exact Bool.false_ne_true ((h m hmem).symm.trans hends)
    · obtain rfl : n = k := by omega
      exact hk hopens
  · rintro ⟨-, h⟩ m hm
    obtain ⟨n, hn⟩ := List.mem_iff_getElem?.mp hm
    rw [List.getElem?_take] at hn
    split at hn
    · rw [List.getElem?_drop] at hn
      refine Bool.eq_false_iff.mpr fun hends => ?_
      exact h (i + 1 + n) (by omega) (by omega) (opens_markAt.mpr ⟨m, hn, hends⟩)
    · nomatch hn

theorem bind_textAs?_eq_some (hkind : ∀ t, (kind t).text? = some t) {m : Option Marker} {t : String} :
    m.bind (textAs? kind) = some t ↔ m = some (kind t) := by
  rw [Option.bind_eq_some_iff]
  simp only [textAs?_eq_some hkind, exists_eq_right]

/-- The texts after place `i` are told by the places under it. -/
theorem tells_body (hkind : ∀ t, (kind t).text? = some t) (hends : ∀ t, ends (some (kind t)) = false) (i : Nat) :
    Tells (fun k => Under (MarkAt ms) i k ∧ ∃ text, MarkAt ms k (kind text)) (fun k text => MarkAt ms k (kind text))
      (body kind (ms.drop (i + 1))) := by
  have hscan (k : Nat) (text : String) : scanAt stays (fun still m _ => if still then m.bind (textAs? kind) else none)
      true (ms.drop (i + 1)) k = some text ↔
        Under (MarkAt ms) i (i + 1 + k) ∧ MarkAt ms (i + 1 + k) (kind text) := by
    simp only [scanAt, Option.bind_eq_some_iff, Option.ite_none_right_eq_some, bind_textAs?_eq_some hkind,
      List.getElem?_drop]
    have hopens (h : MarkAt ms (i + 1 + k) (kind text)) : ¬ Opens (MarkAt ms) (i + 1 + k) := by
      rw [opens_markAt]
      rintro ⟨m, hm, hm'⟩
      obtain rfl : some (kind text) = m := Option.some.inj (h.symm.trans hm)
      exact Bool.false_ne_true ((hends text).symm.trans hm')
    constructor
    · rintro ⟨m, hm, hstays, rfl⟩
      exact ⟨(stays_iff_under (hopens hm)).mp hstays, hm⟩
    · rintro ⟨hunder, hm⟩
      exact ⟨_, hm, (stays_iff_under (hopens hm)).mpr hunder, rfl⟩
  exact Tells.shift (i + 1) (fun k hk => hk.1.1) (tells_scan_of_iff _ _ hscan)

theorem Part.next_eq_steps {part : Part} {m : Option Marker} :
    part.next m = .steps ↔ m = some .stepsSection ∨ (part = .steps ∧ m ≠ some .stateSection) := by
  unfold Part.next
  split <;> simp_all

theorem Part.next_eq_state {part : Part} {m : Option Marker} :
    part.next m = .state ↔ m = some .stateSection ∨ (part = .state ∧ m ≠ some .stepsSection) := by
  unfold Part.next
  split <;> simp_all

theorem foldl_next_succ {i : Nat} {m : Option Marker} (hm : ms[i]? = some m) :
    (ms.take (i + 1)).foldl Part.next .header = ((ms.take i).foldl Part.next .header).next m := by
  rw [List.take_add_one, hm, List.foldl_append]
  rfl

/-- A place stands in the part of the last heading before it. -/
theorem foldl_next_eq {part : Part} {a b : Marker} (hpart : Part.header ≠ part)
    (hnext : ∀ p m, Part.next p m = part ↔ m = some a ∨ (p = part ∧ m ≠ some b)) {i : Nat}
    (hi : i ≤ ms.length) : (ms.take i).foldl Part.next .header = part ↔ Since (MarkAt ms · a) (MarkAt ms · b) i := by
  induction i with
  | zero => exact iff_of_false (by simpa using hpart) not_since_zero
  | succ i ih =>
    have hm := List.getElem?_eq_getElem (l := ms) hi
    rw [foldl_next_succ hm, hnext, ih (Nat.le_of_lt hi), since_succ]
    simp only [MarkAt, hm, Option.some.injEq, ne_eq]

theorem foldl_next_eq_steps {i : Nat} (hi : i ≤ ms.length) :
    (ms.take i).foldl Part.next .header = .steps ↔ InSteps (MarkAt ms) i :=
  foldl_next_eq (by decide) (fun _ _ => Part.next_eq_steps) hi

theorem foldl_next_eq_state {i : Nat} (hi : i ≤ ms.length) :
    (ms.take i).foldl Part.next .header = .state ↔ InState (MarkAt ms) i :=
  foldl_next_eq (by decide) (fun _ _ => Part.next_eq_state) hi

theorem lt_length_of_markAt {i : Nat} {m : Marker} (h : MarkAt ms i m) : i < ms.length :=
  (List.getElem?_eq_some_iff.mp h).1

theorem tells_header (hkind : ∀ t, (kind t).text? = some t) :
    Tells (fun i => ¬ InState (MarkAt ms) i ∧ ∃ text, MarkAt ms i (kind text)) (fun i text => MarkAt ms i (kind text))
      (scan Part.next (headerAt kind) .header ms) := by
  refine tells_scan_of_iff _ _ fun i text => ?_
  simp only [scanAt, headerAt, Option.bind_eq_some_iff, Option.ite_none_left_eq_some, bind_textAs?_eq_some hkind]
  constructor
  · rintro ⟨m, hm, hpart, rfl⟩
    rw [foldl_next_eq_state (lt_length_of_markAt hm).le] at hpart
    exact ⟨hpart, hm⟩
  · rintro ⟨hpart, hm⟩
    rw [← foldl_next_eq_state (lt_length_of_markAt hm).le] at hpart
    exact ⟨_, hm, hpart, rfl⟩

theorem tells_steps : Tells (fun i => InSteps (MarkAt ms) i ∧ ∃ name, MarkAt ms i (.step name)) (StepAt (MarkAt ms))
    (scan Part.next stepAt? .header ms) := by
  have hscan (i : Nat) (s : Step) : scanAt Part.next stepAt? .header ms i = some s ↔
      InSteps (MarkAt ms) i ∧ ∃ name, MarkAt ms i (.step name) ∧
        ⟨name, body .action (ms.drop (i + 1)), body .condition (ms.drop (i + 1))⟩ = s := by
    simp only [scanAt, stepAt?, Option.bind_eq_some_iff, Option.ite_none_right_eq_some, Option.map_eq_some_iff,
      bind_textAs?_eq_some (fun _ => rfl : ∀ t, (Marker.step t).text? = some t)]
    constructor
    · rintro ⟨m, hm, hpart, name, rfl, rfl⟩
      rw [foldl_next_eq_steps (lt_length_of_markAt hm).le] at hpart
      exact ⟨hpart, name, hm, rfl⟩
    · rintro ⟨hpart, name, hm, rfl⟩
      rw [← foldl_next_eq_steps (lt_length_of_markAt hm).le] at hpart
      exact ⟨_, hm, hpart, name, rfl, rfl⟩
  refine (tells_scan_of_iff _ _ hscan).congr (fun i => and_congr_right fun _ => ?_) ?_
  · constructor
    · rintro ⟨s, name, hm, -⟩
      exact ⟨name, hm⟩
    · rintro ⟨name, hm⟩
      exact ⟨_, name, hm, rfl⟩
  · rintro i s ⟨name, hm, rfl⟩
    exact ⟨hm, tells_body (fun _ => rfl) (fun _ => rfl) i, tells_body (fun _ => rfl) (fun _ => rfl) i⟩

end Marks

/-! ## Reading line by line -/

theorem scan_stays_false (f : Option Marker → Option String) (ms : List (Option Marker)) :
    scan stays (fun still m _ => if still then f m else none) false ms = [] := by
  induction ms with
  | nil => rfl
  | cons m ms ih => simpa [scan, stays] using ih

theorem body_cons (kind : String → Marker) (m : Option Marker) (ms : List (Option Marker)) :
    body kind (m :: ms) = (m.bind (textAs? kind)).toList ++ if ends m then [] else body kind ms := by
  rw [body, scan]
  cases h : ends m with
  | true => simp [stays, h, scan_stays_false]
  | false => simp [stays, h, body]

namespace Outline

/-- One more line. -/
def readLine (o : Outline) : Option Marker → Outline
  | some m => o.read m
  | none => o

/-- In the state nothing changes but the part. -/
theorem readLine_of_state {o : Outline} (hstate : o.part = .state) (m : Option Marker) :
    o.readLine m = { o with part := o.part.next m } := by
  obtain ⟨name, goal, part, closed, current⟩ := o
  obtain rfl : part = .state := hstate
  match m with
  | none => rfl
  | some m => cases m <;> rfl

theorem readLine_of_ne_state {o : Outline} (hstate : o.part ≠ .state) (m : Marker) : o.readLine (some m) = o.take m :=
  if_neg hstate

theorem readLine_part (o : Outline) (m : Option Marker) : (o.readLine m).part = o.part.next m := by
  by_cases hstate : o.part = .state
  · rw [readLine_of_state hstate]
  · match m with
    | none => rfl
    | some m =>
      rw [readLine_of_ne_state hstate]
      cases m with
      | step name =>
        rw [take]
        split <;> rfl
      | _ => rfl

/-- A text that lines of one kind set anew outside the state is the last one that they set. -/
theorem foldl_header {kind : String → Marker} (field : Outline → String)
    (hpart : ∀ (o : Outline) (part : Part), field { o with part } = field o)
    (htake : ∀ (o : Outline) (m : Marker), field (o.take m) = (m.textAs? kind).getD (field o))
    (ms : List (Option Marker)) (o : Outline) :
    field (ms.foldl readLine o) = (scan Part.next (headerAt kind) o.part ms).getLast?.getD (field o) := by
  induction ms generalizing o with
  | nil => rfl
  | cons m ms ih =>
    have hread : field (o.readLine m) = (headerAt kind o.part m ms).getD (field o) := by
      by_cases hstate : o.part = .state
      · rw [readLine_of_state hstate, hpart, headerAt, if_pos hstate, Option.getD_none]
      · rw [headerAt, if_neg hstate]
        match m with
        | none => rfl
        | some m => rw [readLine_of_ne_state hstate, htake, Option.bind_some]
    rw [List.foldl_cons, ih, readLine_part, hread, scan, List.getLast?_append]
    cases headerAt kind o.part m ms <;> cases (scan Part.next (headerAt kind) (o.part.next m) ms).getLast? <;> rfl

theorem take_name (o : Outline) (m : Marker) : (o.take m).name = (m.textAs? .program).getD o.name := by
  cases m <;> simp [take, close, textAs?, text?, Option.filter, apply_ite name]

theorem take_goal (o : Outline) (m : Marker) : (o.take m).goal = (m.textAs? .goal).getD o.goal := by
  cases m <;> simp [take, close, textAs?, text?, Option.filter, apply_ite goal]

/-- A step is open in the part of the steps only. -/
def Proper (o : Outline) : Prop := o.current.isSome = true → o.part = .steps

theorem Proper.current_eq_none {o : Outline} (ho : o.Proper) (hpart : o.part ≠ .steps) : o.current = none := by
  rw [← Option.not_isSome_iff_eq_none]
  exact fun h => hpart (ho h)

theorem Proper.readLine {o : Outline} (ho : o.Proper) (m : Option Marker) : (o.readLine m).Proper := by
  by_cases hstate : o.part = .state
  · rw [readLine_of_state hstate]
    intro h
    exact absurd (hstate.symm.trans (ho h)) (by decide)
  · match m with
    | none => exact ho
    | some m =>
      rw [readLine_of_ne_state hstate]
      cases m with
      | step name =>
        rw [take]
        split
        · exact fun _ => ‹_›
        · exact ho
      | program _ | goal _ => exact ho
      | stateSection | stepsSection => exact fun h => nomatch h
      | action _ | condition _ => simpa [Proper, take] using ho

/-- The open step with all that the lines to come give to it. -/
def extend (ms : List (Option Marker)) (s : Step) : Step :=
  ⟨s.name, s.actions ++ body .action ms, s.conditions ++ body .condition ms⟩

/-- The steps after one more line. -/
theorem readLine_steps {o : Outline} (ho : o.Proper) (m : Option Marker) (ms : List (Option Marker)) :
    (o.readLine m).closed.reverse ++ ((o.readLine m).current.map (extend ms)).toList =
      o.closed.reverse ++ (o.current.map (extend (m :: ms))).toList ++ (stepAt? o.part m ms).toList := by
  by_cases hstate : o.part = .state
  · have hnone : o.current = none := ho.current_eq_none (by simp [hstate])
    simp [readLine_of_state hstate, hnone, stepAt?, hstate]
  · match m with
    | none =>
      have hextend : extend (none :: ms) = extend ms := by simp [funext_iff, extend, body_cons, ends]
      simp [readLine, stepAt?, hextend]
    | some m =>
      rw [readLine_of_ne_state hstate]
      obtain ⟨name, goal, part, closed, current⟩ := o
      cases m with
      | step n =>
        by_cases hsteps : part = .steps
        · subst hsteps
          cases current <;> simp [take, allClosed, extend, stepAt?, body_cons, ends, textAs?, text?, Option.filter]
        · obtain rfl : current = none := ho.current_eq_none hsteps
          simp [take, stepAt?, hsteps]
      | _ =>
        cases current <;> simp [take, close, allClosed, extend, stepAt?, body_cons, ends, textAs?, text?, Option.filter]

/-- The steps that are told are the closed ones, the open one with what is still to come, and those still to come. -/
theorem foldl_steps (ms : List (Option Marker)) {o : Outline} (ho : o.Proper) :
    (ms.foldl readLine o).allClosed.reverse =
      o.closed.reverse ++ (o.current.map (extend ms)).toList ++ scan Part.next stepAt? o.part ms := by
  induction ms generalizing o with
  | nil =>
    obtain ⟨name, goal, part, closed, current⟩ := o
    cases current <;> simp [allClosed, extend, body, scan]
  | cons m ms ih => rw [List.foldl_cons, ih (ho.readLine m), readLine_part, readLine_steps ho, scan, List.append_assoc]

end Outline

namespace Program

theorem parse_eq (text : String) :
    parse text = ((marks (lines text.toList)).foldl Outline.readLine .start).program := by
  rw [parse, markers, marks, List.foldl_filterMap, List.foldl_map]
  congr 2
  funext o line
  cases ofLine? (trim line) <;> rfl

theorem placed_parse (text : String) : Placed (LineBears (lines text.toList)) (parse text) := by
  rw [parse_eq, lineBears_eq]
  generalize marks (lines text.toList) = ms
  have hname := Outline.foldl_header Outline.name (fun _ _ => rfl) Outline.take_name ms .start
  have hgoal := Outline.foldl_header Outline.goal (fun _ _ => rfl) Outline.take_goal ms .start
  have hsteps := Outline.foldl_steps ms (o := Outline.start) (fun h => nomatch h)
  constructor
  · rw [Outline.program, hname]
    exact (tells_header fun _ => rfl).last ""
  · rw [Outline.program, hgoal]
    exact (tells_header fun _ => rfl).last ""
  · rw [Outline.program, hsteps]
    exact tells_steps

/-- **Every line belongs where it stands.** The parsed program is the one that is read off the lines by their places:
a step for each step line in the steps, with the actions and the conditions under it, and the last name and goal
outside the state. -/
theorem parse_eq_iff_placed (text : String) (p : Program) :
    parse text = p ↔ Placed (LineBears (lines text.toList)) p := by
  constructor
  · rintro rfl
    exact placed_parse text
  · refine (placed_parse text).unique ?_
    rw [lineBears_eq]
    exact fun i m n hm hn => Option.some.inj (Option.some.inj (hm.symm.trans hn))

end Program

end Runbook
