import Runbook.Proofs.Written

/-!
# Sections and noise

A program text may open its sections again and again, and may hold lines that say nothing.

* `lines_newline`, `exists_last_line` : the lines of two texts put together;
* `steps_newline` : a heading of the steps cuts a text in two, whatever it stands in;
* `foldl_state` : a state section in front of a heading of the steps leaves nothing behind;
* `Retouched` : texts that differ only in what says nothing, `Retouched.parse_eq` : they are parsed alike;
* `sections_compose_and_noise_is_inert` : the three together.
-/

namespace Runbook

open Text Program Marker

/-! ## Lines of texts put together -/

namespace Program

theorem lines_ne_nil (s : List Char) : lines s ≠ [] := by
  unfold lines
  split
  · exact List.cons_ne_nil _ _
  · exact List.cons_ne_nil _ _
  · split <;> exact List.cons_ne_nil _ _

theorem lines_newline (s t : List Char) : lines (s ++ '\n' :: t) = lines s ++ lines t := by
  induction s with
  | nil => rfl
  | cons c s ih =>
    by_cases hc : c = '\n'
    · subst hc
      show [] :: lines (s ++ '\n' :: t) = [] :: lines s ++ lines t
      rw [ih, List.cons_append]
    · obtain ⟨l, ls, hs⟩ := List.exists_cons_of_ne_nil (lines_ne_nil s)
      rw [hs, List.cons_append] at ih
      rw [List.cons_append, lines_cons hc ih, lines_cons hc hs, List.cons_append]

/-- What is put at the end of a text without a line feed goes to its last line. -/
theorem exists_last_line (s : List Char) {b : List Char} (hb : '\n' ∉ b) :
    ∃ init last, lines s = init ++ [last] ∧ lines (s ++ b) = init ++ [last ++ b] := by
  induction s with
  | nil => exact ⟨[], [], rfl, by simp [lines_of_not_mem hb]⟩
  | cons c s ih =>
    obtain ⟨init, last, hs, hsb⟩ := ih
    by_cases hc : c = '\n'
    · subst hc
      refine ⟨[] :: init, last, ?_, ?_⟩
      · show [] :: lines s = _
        rw [hs, List.cons_append]
      · show [] :: lines (s ++ b) = _
        rw [hsb, List.cons_append]
    · cases init with
      | nil => exact ⟨[], c :: last, lines_cons hc hs, lines_cons hc hsb⟩
      | cons l init => exact ⟨(c :: l) :: init, last, lines_cons hc hs, lines_cons hc hsb⟩

theorem marks_append (as bs : List (List Char)) : marks (as ++ bs) = marks as ++ marks bs := List.map_append

theorem marks_cons (line : List Char) (ls : List (List Char)) :
    marks (line :: ls) = ofLine? (trim line) :: marks ls := rfl

/-! ## A heading of the steps cuts a text in two -/

theorem body_heading (kind : String → Marker) (ms ns : List (Option Marker)) :
    body kind (ms ++ some .stepsSection :: ns) = body kind ms := by
  induction ms with
  | nil =>
    have hnone : (some Marker.stepsSection).bind (textAs? kind) = none := rfl
    rw [List.nil_append, body_cons, hnone]
    rfl
  | cons m ms ih => rw [List.cons_append, body_cons, body_cons, ih]

theorem stepAt?_heading (part : Part) (m : Option Marker) (ms ns : List (Option Marker)) :
    stepAt? part m (ms ++ some .stepsSection :: ns) = stepAt? part m ms := by
  simp only [stepAt?, body_heading]

theorem scan_heading (part : Part) (ms ns : List (Option Marker)) :
    scan Part.next stepAt? part (ms ++ some .stepsSection :: ns) =
      scan Part.next stepAt? part ms ++ scan Part.next stepAt? .steps ns := by
  induction ms generalizing part with
  | nil =>
    have hnone : stepAt? part (some .stepsSection) ns = none := by
      unfold stepAt?
      split <;> rfl
    rw [List.nil_append, scan, scan, hnone]
    rfl
  | cons m ms ih => rw [List.cons_append, scan, scan, stepAt?_heading, ih, List.append_assoc]

theorem parse_steps (text : String) :
    (parse text).steps = scan Part.next stepAt? .header (marks (lines text.toList)) := by
  rw [parse_eq]
  exact Outline.foldl_steps _ (o := Outline.start) fun h => nomatch h

theorem steps_newline (s t : String) :
    (parse (s ++ "\nSTEPS:\n" ++ t)).steps = (parse s).steps ++ (parse ("STEPS:\n" ++ t)).steps := by
  have hboth : (s ++ "\nSTEPS:\n" ++ t).toList = s.toList ++ '\n' :: ("STEPS:".toList ++ '\n' :: t.toList) := by simp
  have hsecond : ("STEPS:\n" ++ t).toList = "STEPS:".toList ++ '\n' :: t.toList := by simp
  have hheading : marks (lines ("STEPS:".toList ++ '\n' :: t.toList)) =
      some .stepsSection :: marks (lines t.toList) := by
    rw [lines_append (by decide), marks_cons]
    rfl
  have hcut := scan_heading .header [] (marks (lines t.toList))
  rw [parse_steps, parse_steps, parse_steps, hboth, hsecond, lines_newline, marks_append, hheading, scan_heading]
  rw [List.nil_append] at hcut
  rw [hcut]
  rfl

end Program

/-! ## A state section leaves nothing behind -/

namespace Outline

theorem foldl_state {o : Outline} (hstate : o.part = .state) {body : List (Option Marker)}
    (hbody : some .stepsSection ∉ body) : body.foldl readLine o = o := by
  induction body with
  | nil => rfl
  | cons m body ih =>
    obtain ⟨hm, hrest⟩ := List.ne_and_not_mem_of_not_mem_cons hbody
    have hnext : o.part.next m = .state := Part.next_eq_state.mpr (.inr ⟨hstate, hm.symm⟩)
    have hsame : o.readLine m = o := by
      rw [readLine_of_state hstate, hnext, ← hstate]
    rw [List.foldl_cons, hsame, ih hrest]

/-- After a state section the steps go on as they would without it. -/
theorem readLine_after_state (o : Outline) {body : List (Option Marker)} (hbody : some .stepsSection ∉ body) :
    (body.foldl readLine (o.readLine (some .stateSection))).readLine (some .stepsSection) =
      o.readLine (some .stepsSection) := by
  by_cases hstate : o.part = .state
  · have hsame : o.readLine (some .stateSection) = o := by
      rw [readLine_of_state hstate, show o.part.next (some .stateSection) = .state from rfl, ← hstate]
    rw [hsame, foldl_state hstate hbody]
  · have hopen : o.readLine (some .stateSection) = o.close .state := readLine_of_ne_state hstate _
    have hclosed : (o.close .state).part = .state := rfl
    rw [hopen, foldl_state hclosed hbody, readLine_of_state hclosed, readLine_of_ne_state hstate]
    rfl

end Outline

namespace Program

theorem parse_state_section {s t : String} {before body after : List (List Char)} {state heading : List Char}
    (hs : lines s.toList = before ++ heading :: after)
    (ht : lines t.toList = before ++ state :: body ++ heading :: after) (hheading : Says heading .stepsSection)
    (hstate : Says state .stateSection) (hbody : ∀ line ∈ body, ¬ Says line .stepsSection) : parse t = parse s := by
  have hmarks : some .stepsSection ∉ marks body := by
    intro hmem
    obtain ⟨line, hline, hsays⟩ := List.mem_map.mp hmem
    exact hbody line hline (ofLine?_trim.mp hsays)
  rw [parse_eq, parse_eq, hs, ht]
  simp only [marks_append, marks_cons, ofLine?_trim.mpr hheading, ofLine?_trim.mpr hstate, List.foldl_append,
    List.foldl_cons, Outline.readLine_after_state _ hmarks]

/-! ## Noise -/

/-- Texts that differ only in what says nothing: lines that are blank or bear no marker, the blanks around a line, and
carriage returns at the ends of lines. -/
inductive Retouched : String → String → Prop
  | insert {s t : String} {before after : List (List Char)} {line : List Char} : lines s.toList = before ++ after →
      lines t.toList = before ++ line :: after → (AllBlank line ∨ ∀ m, ¬ Says line m) → Retouched s t
  | respace {s t : String} {before after : List (List Char)} {line line' : List Char} :
      lines s.toList = before ++ line :: after → lines t.toList = before ++ line' :: after → trim line = trim line' →
      Retouched s t
  | lineEnd (s t : String) : Retouched (s ++ "\n" ++ t) (s ++ "\r\n" ++ t)
  | symm {s t : String} : Retouched s t → Retouched t s
  | trans {s t u : String} : Retouched s t → Retouched t u → Retouched s u

theorem ofLine?_of_silent {line : List Char} (h : AllBlank line ∨ ∀ m, ¬ Says line m) : ofLine? (trim line) = none := by
  rcases h with hblank | hsilent
  · rw [trim_eq_nil.mpr hblank]
    rfl
  · rw [Option.eq_none_iff_forall_not_mem]
    exact fun m hm => hsilent m (ofLine?_trim.mp hm)

theorem Retouched.parse_eq {s t : String} (h : Retouched s t) : parse s = parse t := by
  induction h with
  | insert hs ht hline =>
    rw [Program.parse_eq, Program.parse_eq, hs, ht, marks_append, marks_append, marks_cons, ofLine?_of_silent hline,
      List.foldl_append, List.foldl_append]
    rfl
  | respace hs ht htrim =>
    rw [Program.parse_eq, Program.parse_eq, hs, ht, marks_append, marks_append, marks_cons, marks_cons, htrim]
  | lineEnd s t =>
    have hs : (s ++ "\n" ++ t).toList = s.toList ++ '\n' :: t.toList := by simp
    have ht : (s ++ "\r\n" ++ t).toList = (s.toList ++ ['\r']) ++ '\n' :: t.toList := by simp
    obtain ⟨init, last, hlines, hlines'⟩ := exists_last_line s.toList (b := ['\r']) (by decide)
    have hlast : trim (last ++ ['\r']) = trim last := by
      have := trim_append allBlank_nil last (b := ['\r']) (by decide)
      rwa [List.nil_append] at this
    rw [Program.parse_eq, Program.parse_eq, hs, ht, lines_newline, lines_newline, hlines, hlines']
    simp only [marks_append, marks_cons, hlast]
  | symm _ ih => exact ih.symm
  | trans _ _ ih ih' => exact ih.trans ih'

/-- **Sections compose and noise is inert.** The steps of two texts with a heading of the steps between them are those
of the one and then those of the other; a state section in front of a heading of the steps changes nothing; and texts
that differ only in what says nothing are parsed alike. -/
theorem sections_compose_and_noise_is_inert :
    (∀ s t : String,
      (parse (s ++ "\nSTEPS:\n" ++ t)).steps = (parse s).steps ++ (parse ("STEPS:\n" ++ t)).steps) ∧
      (∀ (s t : String) (before body after : List (List Char)) (state heading : List Char),
        lines s.toList = before ++ heading :: after → lines t.toList = before ++ state :: body ++ heading :: after →
        Says heading .stepsSection → Says state .stateSection → (∀ line ∈ body, ¬ Says line .stepsSection) →
        parse t = parse s) ∧
      ∀ s t : String, Retouched s t → parse s = parse t := by
  refine ⟨steps_newline, ?_, fun s t h => h.parse_eq⟩
  intro s t before body after state heading hs ht hheading hstate hbody
  exact parse_state_section hs ht hheading hstate hbody

theorem not_says_of_ofLine?_ne {line : List Char} {m : Marker} (h : ofLine? (trim line) ≠ some m) : ¬ Says line m :=
  fun hsays => h (ofLine?_trim.mpr hsays)

/-- A text that ends in its state section, a text with and without one, and a text with and without a note and a
carriage return. -/
theorem sections_compose_and_noise_is_inert_noted :
    (parse ("STATE:\nSTEP x:" ++ "\nSTEPS:\n" ++ "STEP a:")).steps =
        (parse "STATE:\nSTEP x:").steps ++ (parse ("STEPS:\n" ++ "STEP a:")).steps ∧
      parse "GOAL: g\nState :\nSTEP x:\nSTEPS:\nSTEP a:" = parse "GOAL: g\nSTEPS:\nSTEP a:" ∧
      Retouched "STEPS:\nSTEP a:" "STEPS:\r\nNOTE\nSTEP a:" ∧
      parse "STEPS:\nSTEP a:" = parse "STEPS:\r\nNOTE\nSTEP a:" := by
  obtain ⟨hcompose, hstate, hnoise⟩ := sections_compose_and_noise_is_inert
  have hs : lines "GOAL: g\nSTEPS:\nSTEP a:".toList = ["GOAL: g".toList] ++ "STEPS:".toList :: ["STEP a:".toList] := by
    decide
  have ht : lines "GOAL: g\nState :\nSTEP x:\nSTEPS:\nSTEP a:".toList =
      ["GOAL: g".toList] ++ "State :".toList :: ["STEP x:".toList] ++ "STEPS:".toList :: ["STEP a:".toList] := by
    decide
  have hbody : ∀ line ∈ ["STEP x:".toList], ¬ Says line .stepsSection := by
    rw [List.forall_mem_singleton]
    exact not_says_of_ofLine?_ne (by decide)
  have hnote : ∀ m, ¬ Says "NOTE".toList m := by
    intro m
    refine not_says_of_ofLine?_ne ?_
    have hnone : ofLine? (trim "NOTE".toList) = none := by decide
    rw [hnone]
    exact fun h => nomatch h
  have hu : lines "STEPS:\r\nSTEP a:".toList = ["STEPS:\r".toList] ++ ["STEP a:".toList] := by decide
  have hv : lines "STEPS:\r\nNOTE\nSTEP a:".toList = ["STEPS:\r".toList] ++ "NOTE".toList :: ["STEP a:".toList] := by
    decide
  have hretouched : Retouched "STEPS:\nSTEP a:" "STEPS:\r\nNOTE\nSTEP a:" :=
    (Retouched.lineEnd "STEPS:" "STEP a:").trans (.insert hu hv (.inr hnote))
  exact ⟨hcompose "STATE:\nSTEP x:" "STEP a:",
    hstate _ _ _ _ _ _ _ hs ht (ofLine?_trim.mp (by decide)) (ofLine?_trim.mp (by decide)) hbody,
    hretouched, hnoise _ _ hretouched⟩

end Program

end Runbook
