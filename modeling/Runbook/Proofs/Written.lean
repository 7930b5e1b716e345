import Runbook.Proofs.Placement

/-!
# Programs written out

A program is written out as a line for its name, one for its goal, the heading of the steps, and for each step its own
line and one for each action and condition. Reading takes back what was written.

* `Marker.line` : the line that a marker is written as;
* `Interleaves`, `Blocks` : the order of lines in a step, and in the steps of a program;
* `Writes` : a text is lines in order, indented in any way, with either line end; `Program.Written` : that of a program;
* `Marker.Writable`, `Program.Writable` : texts that a line holds as they are;
* `Says.of_line` : a written line says its marker; `markers_of_writes` : so does a text, line by line;
* `Interleaves.read`, `Blocks.read` : what reading these markers leaves;
* `parse_of_written` : what is written of a program is parsed to it.
-/

namespace Runbook

open Text

/-! ## Writing -/

/-- The line that a marker is written as. -/
def Marker.line : Marker → String
  | program name => "PROGRAM: " ++ name
  | goal text => "GOAL: " ++ text
  | stateSection => "STATE:"
  | stepsSection => "STEPS:"
  | step name => "STEP " ++ name ++ ":"
  | action text => "ACTION: " ++ text
  | condition text => "CONDITION: " ++ text

/-- The actions and the conditions of a step in any order that keeps each of the two. -/
inductive Interleaves : (actions conditions : List String) → List Marker → Prop
  | nil : Interleaves [] [] []
  | action {text : String} {actions conditions : List String} {ms : List Marker} :
      Interleaves actions conditions ms → Interleaves (text :: actions) conditions (.action text :: ms)
  | condition {text : String} {actions conditions : List String} {ms : List Marker} :
      Interleaves actions conditions ms → Interleaves actions (text :: conditions) (.condition text :: ms)

/-- Each step with its actions and conditions under it. -/
inductive Blocks : List Step → List Marker → Prop
  | nil : Blocks [] []
  | cons {s : Step} {steps : List Step} {entries ms : List Marker} : Interleaves s.actions s.conditions entries →
      Blocks steps ms → Blocks (s :: steps) (.step s.name :: entries ++ ms)

/-- A text is the lines of markers, each indented in some way and ended by a line feed, with or without a carriage
return before it. The last line may go without its end. -/
inductive Writes : List Marker → List Char → Prop
  | nil : Writes [] []
  | last (indent : List Char) {m : Marker} : AllBlank indent → '\n' ∉ indent → Writes [m] (indent ++ m.line.toList)
  | line (indent : List Char) {ending text : List Char} {m : Marker} {ms : List Marker} : AllBlank indent →
      '\n' ∉ indent → ending = ['\n'] ∨ ending = ['\r', '\n'] → Writes ms text →
      Writes (m :: ms) (indent ++ m.line.toList ++ ending ++ text)

/-- A text that is written of a program. -/
def Program.Written (p : Program) (text : String) : Prop :=
  ∃ blocks, Blocks p.steps blocks ∧ Writes (.program p.name :: .goal p.goal :: .stepsSection :: blocks) text.toList

/-- A text that a line holds as it is: without a line end and without blanks around it. -/
def InLine (text : String) : Prop := '\n' ∉ text.toList ∧ trimString text = text

instance (text : String) : Decidable (InLine text) := inferInstanceAs (Decidable (_ ∧ _))

/-- A name that a step line holds as it is. -/
def InStepLine (name : String) : Prop := InLine name ∧ name ≠ "" ∧ ':' ∉ name.toList

instance (name : String) : Decidable (InStepLine name) := inferInstanceAs (Decidable (_ ∧ _))

/-- A program whose texts lines hold as they are. -/
structure Program.Writable (p : Program) : Prop where
  name : InLine p.name
  goal : InLine p.goal
  steps : ∀ s ∈ p.steps, InStepLine s.name ∧ (∀ text ∈ s.actions, InLine text) ∧ ∀ text ∈ s.conditions, InLine text

/-- A marker whose text its line holds as it is. -/
def Marker.Writable : Marker → Prop
  | program text | goal text | action text | condition text => InLine text
  | stateSection | stepsSection => True
  | step name => InStepLine name

/-! ## Lines -/

/-- A capital word spells its small letters. -/
theorem spells_of_dropPhrase? {phrase w : List Char} (h : dropPhrase? phrase w = some []) : Spells phrase w := by
  obtain ⟨v, hv, rfl⟩ := dropPhrase?_eq_some.mp h
  rwa [List.append_nil]

theorem InLine.trim_eq {text : String} (h : InLine text) {a b : List Char} (ha : AllBlank a) (hb : AllBlank b) :
    String.ofList (trim (a ++ text.toList ++ b)) = text := by
  rw [trim_append ha text.toList hb]
  exact h.2

/-- A line in capitals has the word and the colon that it is written with. -/
theorem labelled_of_capital {word : String} (capital : String)
    (hword : dropPhrase? word.toList capital.toList = some []) {indent : List Char} (hindent : AllBlank indent)
    (after : List Char) : Labelled word (indent ++ capital.toList ++ ':' :: after) after :=
  ⟨indent, capital.toList, [], hindent, spells_of_dropPhrase? hword, allBlank_nil, by simp⟩

/-- A written line says its marker, with any blanks after it. -/
theorem Marker.Says.of_line {m : Marker} (hm : m.Writable) {indent tail : List Char} (hindent : AllBlank indent)
    (htail : AllBlank tail) : m.Says (indent ++ m.line.toList ++ tail) := by
  have hgap : AllBlank [' '] := by decide
  cases m with
  | program text =>
    have h := Says.program (labelled_of_capital "PROGRAM" (by decide) hindent ([' '] ++ text.toList ++ tail))
    rw [InLine.trim_eq hm hgap htail] at h
    simpa [line] using h
  | goal text =>
    have h := Says.goal (labelled_of_capital "GOAL" (by decide) hindent ([' '] ++ text.toList ++ tail))
    rw [InLine.trim_eq hm hgap htail] at h
    simpa [line] using h
  | stateSection =>
    have h := Says.stateSection (labelled_of_capital "STATE" (by decide) hindent tail) htail
    simpa [line] using h
  | stepsSection =>
    have h := Says.stepsSection (labelled_of_capital "STEPS" (by decide) hindent tail) htail
    simpa [line] using h
  | step name =>
    obtain ⟨hname, hne, hcolon⟩ := hm
    have hlabel : StepLabelled (indent ++ "STEP".toList ++ [' '] ++ name.toList ++ ':' :: tail) name.toList :=
      ⟨indent, "STEP".toList, [' '], tail, hindent, spells_of_dropPhrase? (by decide), hgap, List.cons_ne_nil _ _,
        by simpa using hne, hcolon, rfl⟩
    have htrim := hname.trim_eq allBlank_nil allBlank_nil
    rw [List.append_nil, List.nil_append] at htrim
    have h := Says.step hlabel
    rw [htrim] at h
    simpa [line] using h
  | action text =>
    have h := Says.action (labelled_of_capital "ACTION" (by decide) hindent ([' '] ++ text.toList ++ tail))
    rw [InLine.trim_eq hm hgap htail] at h
    simpa [line] using h
  | condition text =>
    have h := Says.condition (labelled_of_capital "CONDITION" (by decide) hindent ([' '] ++ text.toList ++ tail))
    rw [InLine.trim_eq hm hgap htail] at h
    simpa [line] using h

theorem Marker.newline_not_mem_line {m : Marker} (hm : m.Writable) : '\n' ∉ m.line.toList := by
  cases m with
  | program text | goal text | action text | condition text => simp [line, hm.1]
  | stateSection | stepsSection => decide
  | step name => simp [line, hm.1.1]

namespace Program

theorem lines_cons {c : Char} (hc : c ≠ '\n') {s l : List Char} {ls : List (List Char)} (h : lines s = l :: ls) :
    lines (c :: s) = (c :: l) :: ls := by
  rw [lines, h]
  exact hc

theorem lines_of_not_mem {l : List Char} (hl : '\n' ∉ l) : lines l = [l] := by
  induction l with
  | nil => rfl
  | cons c l ih =>
    obtain ⟨hc, hl⟩ := List.ne_and_not_mem_of_not_mem_cons hl
    exact lines_cons hc.symm (ih hl)

/-- A line ends at the first line feed. -/
theorem lines_append {l : List Char} (hl : '\n' ∉ l) (s : List Char) : lines (l ++ '\n' :: s) = l :: lines s := by
  induction l with
  | nil => rfl
  | cons c l ih =>
    obtain ⟨hc, hl⟩ := List.ne_and_not_mem_of_not_mem_cons hl
    exact lines_cons hc.symm (ih hl)

theorem markers_of_not_mem {l : List Char} (hl : '\n' ∉ l) : markers l = (Marker.ofLine? (trim l)).toList := by
  rw [markers, lines_of_not_mem hl, List.filterMap_cons]
  cases Marker.ofLine? (trim l) <;> rfl

theorem markers_append {l : List Char} (hl : '\n' ∉ l) (s : List Char) :
    markers (l ++ '\n' :: s) = (Marker.ofLine? (trim l)).toList ++ markers s := by
  rw [markers, lines_append hl, List.filterMap_cons]
  cases Marker.ofLine? (trim l) <;> rfl

/-- A written text says the markers that it is written of, in order. -/
theorem markers_of_writes {ms : List Marker} {s : List Char} (hms : ∀ m ∈ ms, m.Writable) (h : Writes ms s) :
    markers s = ms := by
  induction h with
  | nil => decide
  | @last indent m hindent hnew =>
    have hm := hms m (List.mem_singleton_self m)
    have hbears := Marker.Says.of_line hm hindent allBlank_nil
    rw [List.append_nil] at hbears
    rw [markers_of_not_mem (by simp [hnew, Marker.newline_not_mem_line hm]), Marker.ofLine?_trim.mpr hbears]
    rfl
  | @line indent ending text m ms hindent hnew hending _ ih =>
    obtain ⟨hm, hms⟩ := List.forall_mem_cons.mp hms
    -- a carriage return is one more blank at the end of the line
    obtain ⟨tail, htail, hnew', rfl⟩ : ∃ tail, AllBlank tail ∧ '\n' ∉ tail ∧ ending = tail ++ ['\n'] := by
      rcases hending with rfl | rfl
      · exact ⟨[], by decide, by decide, rfl⟩
      · exact ⟨['\r'], by decide, by decide, rfl⟩
    have hline : indent ++ m.line.toList ++ (tail ++ ['\n']) ++ text =
        (indent ++ m.line.toList ++ tail) ++ '\n' :: text := by simp
    rw [hline, markers_append (by simp [hnew, hnew', Marker.newline_not_mem_line hm]),
      Marker.ofLine?_trim.mpr (Marker.Says.of_line hm hindent htail), ih hms]
    rfl

end Program

/-! ## Reading what is written -/

/-- The actions and the conditions go to the open step, each kind in its order. -/
theorem Interleaves.read {actions conditions : List String} {entries : List Marker}
    (h : Interleaves actions conditions entries) {o : Outline} (hpart : o.part = .steps) (s : Step) :
    entries.foldl Outline.read { o with current := some s } =
      { o with current := some ⟨s.name, s.actions ++ actions, s.conditions ++ conditions⟩ } := by
  induction h generalizing s with
  | nil => simp
  | @action text _ _ _ _ ih =>
    have hread : ({ o with current := some s } : Outline).read (.action text) =
        { o with current := some ⟨s.name, s.actions ++ [text], s.conditions⟩ } := by
      simp [Outline.read, hpart, Outline.take]
    rw [List.foldl_cons, hread, ih]
    simp
  | @condition text _ _ _ _ ih =>
    have hread : ({ o with current := some s } : Outline).read (.condition text) =
        { o with current := some ⟨s.name, s.actions, s.conditions ++ [text]⟩ } := by
      simp [Outline.read, hpart, Outline.take]
    rw [List.foldl_cons, hread, ih]
    simp

/-- Each block adds its step. -/
theorem Blocks.read {steps : List Step} {ms : List Marker} (h : Blocks steps ms) {o : Outline}
    (hpart : o.part = .steps) : (ms.foldl Outline.read o).program = ⟨o.name, o.goal, o.allClosed.reverse ++ steps⟩ := by
  induction h generalizing o with
  | nil => simp [Outline.program]
  | @cons s steps entries ms hentries _ ih =>
    have hread : o.read (.step s.name) = { o with closed := o.allClosed, current := some ⟨s.name, [], []⟩ } := by
      simp [Outline.read, hpart, Outline.take]
    have hblock : entries.foldl Outline.read { o with closed := o.allClosed, current := some ⟨s.name, [], []⟩ } =
        { o with closed := o.allClosed, current := some s } :=
      hentries.read (o := { o with closed := o.allClosed }) hpart ⟨s.name, [], []⟩
    have hrest := ih (o := { o with closed := o.allClosed, current := some s }) hpart
    rw [List.cons_append, List.foldl_cons, hread, List.foldl_append, hblock, hrest]
    simp [Outline.allClosed]

theorem Interleaves.writable {actions conditions : List String} {entries : List Marker}
    (h : Interleaves actions conditions entries) (hactions : ∀ text ∈ actions, InLine text)
    (hconditions : ∀ text ∈ conditions, InLine text) : ∀ m ∈ entries, m.Writable := by
  induction h with
  | nil => exact fun m hm => nomatch hm
  | action _ ih =>
    obtain ⟨htext, hactions⟩ := List.forall_mem_cons.mp hactions
    exact List.forall_mem_cons.mpr ⟨htext, ih hactions hconditions⟩
  | condition _ ih =>
    obtain ⟨htext, hconditions⟩ := List.forall_mem_cons.mp hconditions
    exact List.forall_mem_cons.mpr ⟨htext, ih hactions hconditions⟩

theorem Blocks.writable {steps : List Step} {ms : List Marker} (h : Blocks steps ms)
    (hsteps : ∀ s ∈ steps, InStepLine s.name ∧ (∀ text ∈ s.actions, InLine text) ∧ ∀ text ∈ s.conditions, InLine text) :
    ∀ m ∈ ms, m.Writable := by
  induction h with
  | nil => exact fun m hm => nomatch hm
  | cons hentries _ ih =>
    obtain ⟨⟨hname, hactions, hconditions⟩, hsteps⟩ := List.forall_mem_cons.mp hsteps
    rw [List.forall_mem_append, List.forall_mem_cons]
    exact ⟨⟨hname, hentries.writable hactions hconditions⟩, ih hsteps⟩

namespace Program

/-- **What is written is read back.** Whatever the order of actions among conditions, the indentation and the line
ends, the text written of a program is parsed to that program. -/
theorem parse_of_written {p : Program} (hp : p.Writable) {text : String} (h : p.Written text) : parse text = p := by
  obtain ⟨blocks, hblocks, hwrites⟩ := h
  have hms : ∀ m ∈ Marker.program p.name :: .goal p.goal :: .stepsSection :: blocks, m.Writable := by
    simp only [List.forall_mem_cons]
    exact ⟨hp.name, hp.goal, trivial, hblocks.writable hp.steps⟩
  have hhead : ((Outline.start.read (.program p.name)).read (.goal p.goal)).read .stepsSection =
      ⟨p.name, p.goal, .steps, [], none⟩ := rfl
  rw [parse, markers_of_writes hms hwrites, List.foldl_cons, List.foldl_cons, List.foldl_cons, hhead, hblocks.read rfl]
  rfl

/-- A program whose texts look like markers, start with a colon or are empty, and whose steps share a name. -/
def odd : Program := ⟨"STEPS:", "", [⟨"state", ["ACTION: a", "", ": b"], ["goal: c"]⟩, ⟨"state", [], []⟩]⟩

/-- The odd program written out with mixed indentation and line ends, and none at the end. -/
def oddText : String :=
  "\tPROGRAM: STEPS:\r\nGOAL: \nSTEPS:\n  STEP state:\r\n    ACTION: ACTION: a\n\u00a0CONDITION: goal: c\n" ++
    "ACTION: \n    ACTION: : b\n  STEP state:"

theorem odd_writable : odd.Writable := ⟨by decide, by decide, by decide⟩

theorem odd_written : odd.Written oddText := by
  refine ⟨_, .cons (.action (.condition (.action (.action .nil)))) (.cons .nil .nil), ?_⟩
  have h := Writes.line (m := .program "STEPS:") ['\t'] (by decide) (by decide) (.inr rfl) <|
    Writes.line (m := .goal "") [] (by decide) (by decide) (.inl rfl) <|
    Writes.line (m := .stepsSection) [] (by decide) (by decide) (.inl rfl) <|
    Writes.line (m := .step "state") [' ', ' '] (by decide) (by decide) (.inr rfl) <|
    Writes.line (m := .action "ACTION: a") [' ', ' ', ' ', ' '] (by decide) (by decide) (.inl rfl) <|
    Writes.line (m := .condition "goal: c") ['\u00a0'] (by decide) (by decide) (.inl rfl) <|
    Writes.line (m := .action "") [] (by decide) (by decide) (.inl rfl) <|
    Writes.line (m := .action ": b") [' ', ' ', ' ', ' '] (by decide) (by decide) (.inl rfl) <|
    Writes.last (m := .step "state") [' ', ' '] (by decide) (by decide)
  convert h using 1
  · decide
  · decide +kernel

theorem parse_of_written_odd : odd.Writable ∧ odd.Written oddText ∧ parse oddText = odd :=
  ⟨odd_writable, odd_written, parse_of_written odd_writable odd_written⟩

end Program

end Runbook
