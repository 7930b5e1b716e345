import Runbook.Proofs.Placement

/-!
# Names of steps

A step takes its name from the label of its line, without the blanks around it. A label is at least one character, but
that character may be a blank.

* `Unnamed line` : a step line with nothing but blanks, two or more, between its word and its colon;
* `says_step_empty` : a line says a step without a name exactly if it is such a line;
* `steps_named` : names of steps are trimmed and without a colon, and empty only for such lines.
-/

namespace Runbook

open Text

/-! ## Lines without a name -/

/-- A step line with nothing but blanks, two or more, between its word and its colon. -/
def Unnamed (line : List Char) : Prop :=
  ∃ indent w gap after, AllBlank indent ∧ Spells "step".toList w ∧ AllBlank gap ∧ 2 ≤ gap.length ∧
    line = indent ++ w ++ gap ++ ':' :: after

/-- The first blank parts the word from the label, so one blank more makes a label. -/
theorem stepLabelled_blank_iff {line : List Char} :
    (∃ label, StepLabelled line label ∧ AllBlank label) ↔ Unnamed line := by
  constructor
  · rintro ⟨label, ⟨indent, w, gap, after, hi, hw, hgap, hgne, hne, -, rfl⟩, hlabel⟩
    have hgap' := List.length_pos_iff.mpr hgne
    have hlabel' := List.length_pos_iff.mpr hne
    refine ⟨indent, w, gap ++ label, after, hi, hw, by simp [hgap, hlabel], ?_, by simp⟩
    rw [List.length_append]
    omega
  · rintro ⟨indent, w, gap, after, hi, hw, hgap, hlen, rfl⟩
    match gap, hlen with
    | b :: c :: gap, _ =>
      obtain ⟨hb, hlabel⟩ := allBlank_cons.mp hgap
      have hcolon : ':' ∉ c :: gap := fun hmem => absurd (hlabel _ hmem) (by decide)
      exact ⟨c :: gap, ⟨indent, w, [b], after, hi, hw, by simpa using hb, List.cons_ne_nil _ _, List.cons_ne_nil _ _,
        hcolon, by simp⟩, hlabel⟩

namespace Marker

theorem says_step_iff {line : List Char} {name : String} :
    Says line (.step name) ↔ ∃ label, StepLabelled line label ∧ String.ofList (trim label) = name := by
  constructor
  · intro h
    cases h
    exact ⟨_, ‹_›, rfl⟩
  · rintro ⟨label, h, rfl⟩
    exact .step h

theorem Says.step_trimmed {line : List Char} {name : String} (h : Says line (.step name)) :
    trimString name = name ∧ ':' ∉ name.toList := by
  obtain ⟨label, hlabel, rfl⟩ := says_step_iff.mp h
  obtain ⟨indent, w, gap, after, -, -, -, -, -, hcolon, -⟩ := hlabel
  constructor
  · rw [trimString, String.toList_ofList, trim_trim]
  · rw [String.toList_ofList]
    exact fun hmem => hcolon (mem_of_mem_trim hmem)

theorem says_step_empty {line : List Char} : Says line (.step "") ↔ Unnamed line := by
  rw [says_step_iff, ← stepLabelled_blank_iff]
  refine exists_congr fun label => and_congr_right fun _ => ?_
  have hempty : String.ofList (trim label) = "" ↔ trim label = [] := by simp
  rw [hempty, trim_eq_nil]

end Marker

/-! ## Names of the parsed steps -/

namespace Program

/-- **Steps have names, but for lines of blanks.** No name of a parsed step has blanks around it or a colon in it, and a
step without a name comes from a step line with two blanks or more, and nothing else, before its colon. -/
theorem steps_named (text : String) :
    (∀ s ∈ (parse text).steps, trimString s.name = s.name ∧ ':' ∉ s.name.toList) ∧
      ((∃ s ∈ (parse text).steps, s.name = "") ↔ ∃ i line, InSteps (LineBears (lines text.toList)) i ∧
        (lines text.toList)[i]? = some line ∧ Unnamed line) := by
  have hsteps := (placed_parse text).steps
  constructor
  · intro s hs
    obtain ⟨i, -, hstep⟩ := hsteps.exists_place hs
    obtain ⟨line, -, hsays⟩ := hstep.name
    exact hsays.step_trimmed
  · constructor
    · rintro ⟨s, hs, hname⟩
      obtain ⟨i, ⟨hi, -⟩, hstep⟩ := hsteps.exists_place hs
      obtain ⟨line, hline, hsays⟩ := hstep.name
      rw [hname] at hsays
      exact ⟨i, line, hi, hline, Marker.says_step_empty.mp hsays⟩
    · rintro ⟨i, line, hi, hline, hunnamed⟩
      have hbears : LineBears (lines text.toList) i (.step "") := ⟨line, hline, Marker.says_step_empty.mpr hunnamed⟩
      obtain ⟨s, hs, hstep⟩ := hsteps.exists_told ⟨hi, "", hbears⟩
      refine ⟨s, hs, ?_⟩
      have hsame := hstep.name
      rw [lineBears_eq] at hsame hbears
      exact Marker.step.inj (Option.some.inj (Option.some.inj (hsame.symm.trans hbears)))

/-- Two blanks before the colon of a step line make a step without a name. -/
theorem blank_label_unnamed : ¬ ∀ text : String, ∀ s ∈ (parse text).steps,
    s.name ≠ "" ∧ trimString s.name = s.name ∧ ':' ∉ s.name.toList := by
  intro h
  have hparse : parse "STEPS:\nSTEP  :\n" = ⟨"", "", [⟨"", [], []⟩]⟩ := by decide
  have hstep := h "STEPS:\nSTEP  :\n" ⟨"", [], []⟩ (by rw [hparse]; exact List.mem_singleton_self _)
  exact hstep.1 rfl

end Program

end Runbook
