import Runbook.Program.Marker
import Runbook.Proofs.Spelling

/-!
# What a line says

The grammar of marker lines, apart from the way they are read. A line may be indented, blanks may stand before its
colon, and the word may be written in any case.

* `Labelled` : a line with a word and a colon, and what follows; `StepLabelled` : one with a label in between;
* `Marker.Says` : what a line says, a rule for each kind of marker;
* `textAfter?_trim`, `isHeading_trim`, `stepName?_trim` : each pattern by itself reads its rule;
* `Fits` : the pattern of a kind of marker fits; `Fits.unique` : one pattern at most fits a line;
* `ofLine?_trim` : the marker of a line is what the line says, so none of the patterns shadows another.
-/

namespace Runbook

open Text

/-- A line has a word and a colon at its start, and `after` follows. -/
def Labelled (word : String) (line after : List Char) : Prop :=
  ∃ indent w gap, AllBlank indent ∧ Spells word.toList w ∧ AllBlank gap ∧ line = indent ++ w ++ gap ++ ':' :: after

/-- A line has the word for a step at its start, blanks after it, and a label up to the first colon. -/
def StepLabelled (line label : List Char) : Prop :=
  ∃ indent w gap after, AllBlank indent ∧ Spells "step".toList w ∧ AllBlank gap ∧ gap ≠ [] ∧ label ≠ [] ∧
    ':' ∉ label ∧ line = indent ++ w ++ gap ++ label ++ ':' :: after

namespace Marker

/-- What a line says. -/
inductive Says (line : List Char) : Marker → Prop
  | program {after : List Char} : Labelled "program" line after → Says line (.program (String.ofList (trim after)))
  | goal {after : List Char} : Labelled "goal" line after → Says line (.goal (String.ofList (trim after)))
  | stateSection {after : List Char} : Labelled "state" line after → AllBlank after → Says line .stateSection
  | stepsSection {after : List Char} : Labelled "steps" line after → AllBlank after → Says line .stepsSection
  | step {label : List Char} : StepLabelled line label → Says line (.step (String.ofList (trim label)))
  | action {after : List Char} : Labelled "action" line after → Says line (.action (String.ofList (trim after)))
  | condition {after : List Char} : Labelled "condition" line after →
      Says line (.condition (String.ofList (trim after)))

/-! ## Trimmed lines -/

/-- A word that starts a marker is of small letters, and has some. -/
def IsWord (word : String) : Prop := word.toList ≠ [] ∧ ∀ l ∈ word.toList, l.isLower = true

-- by the letters of the word, not by all characters there are
instance (word : String) : Decidable (IsWord word) := @instDecidableAnd _ _ _ (List.decidableBAll _ _)

/-- Trimming a line that goes on with a word and a colon keeps these. -/
theorem trim_line {word : String} (hword : IsWord word) {indent w : List Char} (hi : AllBlank indent)
    (hw : Spells word.toList w) (s after : List Char) :
    trim (indent ++ w ++ s ++ ':' :: after) = w ++ s ++ ':' :: trimEnd after := by
  cases w with
  | nil => exact absurd (List.forall₂_nil_right_iff.mp hw) hword.1
  | cons c w =>
    have hc : isBlank c = false := hw.not_isBlank hword.2 c List.mem_cons_self
    rw [trim, List.append_assoc, List.append_assoc, trimStart_append hi, List.cons_append, trimStart_cons hc,
      ← List.cons_append, ← List.append_assoc, trimEnd_append_cons (by decide)]

theorem afterColon?_eq_some {word : String} {line rest : List Char} :
    afterColon? word line = some rest ↔ ∃ w gap after, Spells word.toList w ∧ AllBlank gap ∧
      line = w ++ gap ++ ':' :: after ∧ rest = trimStart after := by
  unfold afterColon?
  rw [Option.bind_eq_some_iff]
  constructor
  · rintro ⟨s, hs, h⟩
    obtain ⟨w, hw, rfl⟩ := dropPhrase?_eq_some.mp hs
    obtain ⟨gap, hgap, hs⟩ := exists_trimStart s
    split at h
    · next after hafter =>
      cases h
      exact ⟨w, gap, after, hw, hgap, by rw [List.append_assoc, ← hafter, ← hs], rfl⟩
    · nomatch h
  · rintro ⟨w, gap, after, hw, hgap, rfl, rfl⟩
    refine ⟨gap ++ ':' :: after, dropPhrase?_eq_some.mpr ⟨w, hw, List.append_assoc ..⟩, ?_⟩
    rw [trimStart_append hgap, trimStart_cons (by decide)]
    rfl

theorem afterColon?_trim {word : String} (hword : IsWord word) {line rest : List Char} :
    afterColon? word (trim line) = some rest ↔
      ∃ after, Labelled word line after ∧ rest = trimStart (trimEnd after) := by
  rw [afterColon?_eq_some]
  constructor
  · rintro ⟨w, gap, after, hw, hgap, htrim, rfl⟩
    obtain ⟨a, b, ha, -, hline⟩ := exists_trim line
    rw [htrim] at hline
    have hsplit : line = a ++ w ++ gap ++ ':' :: (after ++ b) := by rw [hline]; simp
    refine ⟨after ++ b, ⟨a, w, gap, ha, hw, hgap, hsplit⟩, ?_⟩
    -- the trimmed line ends where it ends, so nothing is left to trim off
    have htwice := trim_line hword ha hw gap (after ++ b)
    rw [← hsplit, htrim, List.append_cancel_left_eq, List.cons.injEq] at htwice
    rw [← htwice.2]
  · rintro ⟨after, ⟨indent, w, gap, hi, hw, hgap, rfl⟩, rfl⟩
    exact ⟨w, gap, trimEnd after, hw, hgap, trim_line hword hi hw gap after, rfl⟩

/-! ## The patterns, each by itself -/

theorem textAfter?_trim {word : String} (hword : IsWord word) {line : List Char} {text : String} :
    textAfter? word (trim line) = some text ↔
      ∃ after, Labelled word line after ∧ String.ofList (trim after) = text := by
  simp only [textAfter?, Option.map_eq_some_iff, afterColon?_trim hword]
  constructor
  · rintro ⟨_, ⟨after, h, rfl⟩, rfl⟩
    exact ⟨after, h, by rw [trim_trimStart, trim_trimEnd]⟩
  · rintro ⟨after, h, rfl⟩
    exact ⟨_, ⟨after, h, rfl⟩, by rw [trim_trimStart, trim_trimEnd]⟩

theorem isHeading_trim {word : String} (hword : IsWord word) {line : List Char} :
    isHeading word (trim line) = true ↔ ∃ after, Labelled word line after ∧ AllBlank after := by
  rw [isHeading, beq_iff_eq, afterColon?_trim hword]
  refine exists_congr fun after => and_congr_right fun _ => ?_
  rw [eq_comm, trimStart_trimEnd_eq_nil]

theorem takeWhile_colon {label : List Char} (h : ':' ∉ label) (after : List Char) :
    (label ++ ':' :: after).takeWhile (· != ':') = label := by
  have hlabel : ∀ c ∈ label, (c != ':') = true := by
    rintro c hc
    rw [bne_iff_ne]
    rintro rfl
    exact h hc
  rw [List.takeWhile_append_of_pos hlabel]
  simp

/-- A text that goes on where its part before the first colon ends goes on with that colon. -/
theorem exists_colon {s : List Char} (h : (s.takeWhile (· != ':')).length < s.length) :
    ∃ label after, ':' ∉ label ∧ s = label ++ ':' :: after := by
  have hs := List.takeWhile_append_dropWhile (p := (· != ':')) (l := s)
  cases hafter : s.dropWhile (· != ':') with
  | nil =>
    rw [hafter, List.append_nil] at hs
    rw [hs] at h
    exact absurd h (Nat.lt_irrefl _)
  | cons c after =>
    have hc := List.head?_dropWhile_not (· != ':') s
    rw [hafter] at hs hc
    obtain rfl : c = ':' := by simpa using hc
    refine ⟨_, after, fun hmem => ?_, hs.symm⟩
    simpa using List.all_eq_true.mp List.all_takeWhile _ hmem

theorem trim_blank_append {a : List Char} (ha : AllBlank a) (s : List Char) : trim (a ++ s) = trim s := by
  have := trim_append ha s allBlank_nil
  rwa [List.append_nil] at this

theorem stepName?_eq_some {line : List Char} {name : String} :
    stepName? line = some name ↔ ∃ w b label after, Spells "step".toList w ∧ isBlank b = true ∧ label ≠ [] ∧
      ':' ∉ label ∧ line = w ++ b :: label ++ ':' :: after ∧ String.ofList (trim label) = name := by
  have htrim (b : Char) (label : List Char) (hb : isBlank b = true) : trim (b :: label) = trim label :=
    trim_blank_append (a := [b]) (by simpa using hb) label
  unfold stepName?
  rw [Option.bind_eq_some_iff]
  constructor
  · rintro ⟨s, hs, h⟩
    obtain ⟨w, hw, rfl⟩ := dropPhrase?_eq_some.mp hs
    dsimp only at h
    split at h
    · next hlabel =>
      simp only [Bool.and_eq_true, decide_eq_true_eq] at hlabel
      obtain ⟨⟨hlt, htwo⟩, hhead⟩ := hlabel
      obtain ⟨label, after, hcolon, rfl⟩ := exists_colon hlt
      rw [takeWhile_colon hcolon] at h htwo hhead
      cases label with
      | nil => nomatch hhead
      | cons b label =>
        have hb : isBlank b = true := by simpa using hhead
        rw [List.length_cons] at htwo
        refine ⟨w, b, label, after, hw, hb, List.length_pos_iff.mp (by omega),
          fun hmem => hcolon (List.mem_cons_of_mem _ hmem), (List.append_assoc ..).symm, ?_⟩
        rw [← htrim b label hb]
        exact Option.some.inj h
    · nomatch h
  · rintro ⟨w, b, label, after, hw, hb, hne, hcolon, rfl, rfl⟩
    have hcolon' : ':' ∉ b :: label := by
      rintro (_ | ⟨_, hmem⟩)
      · exact absurd hb (by decide)
      · exact hcolon hmem
    refine ⟨b :: label ++ ':' :: after, dropPhrase?_eq_some.mpr ⟨w, hw, List.append_assoc ..⟩, ?_⟩
    have hlen := List.length_pos_iff.mpr hne
    dsimp only
    rw [takeWhile_colon hcolon', if_pos, htrim b label hb]
    simp [hb]
    omega

theorem stepName?_trim {line : List Char} {name : String} :
    stepName? (trim line) = some name ↔ ∃ label, StepLabelled line label ∧ String.ofList (trim label) = name := by
  rw [stepName?_eq_some]
  constructor
  · rintro ⟨w, b, label, after, hw, hb, hne, hcolon, htrim, rfl⟩
    obtain ⟨a, z, ha, -, hline⟩ := exists_trim line
    rw [htrim] at hline
    exact ⟨label, ⟨a, w, [b], after ++ z, ha, hw, by simpa using hb, List.cons_ne_nil _ _, hne, hcolon,
      by rw [hline]; simp⟩, rfl⟩
  · rintro ⟨label, ⟨indent, w, gap, after, hi, hw, hgap, hgne, hne, hcolon, rfl⟩, rfl⟩
    obtain ⟨b, gap, rfl⟩ := List.exists_cons_of_ne_nil hgne
    obtain ⟨hb, hgap⟩ := allBlank_cons.mp hgap
    have hcolon' : ':' ∉ gap ++ label := by
      rw [List.mem_append]
      rintro (hmem | hmem)
      · exact absurd (hgap _ hmem) (by decide)
      · exact hcolon hmem
    refine ⟨w, b, gap ++ label, trimEnd after, hw, hb, by simp [hne], hcolon', ?_, ?_⟩
    · have := trim_line (by decide : IsWord "step") hi hw (b :: gap ++ label) after
      simpa using this
    · rw [trim_blank_append hgap]

/-! ## The patterns together -/

/-- The pattern of a kind of marker fits a line, whatever the other patterns do. -/
def Fits (line : List Char) : Marker → Prop
  | program name => textAfter? "program" line = some name
  | goal text => textAfter? "goal" line = some text
  | stateSection => isHeading "state" line = true
  | stepsSection => isHeading "steps" line = true
  | step name => stepName? line = some name
  | action text => textAfter? "action" line = some text
  | condition text => textAfter? "condition" line = some text

theorem fits_trim {line : List Char} {m : Marker} : m.Fits (trim line) ↔ Says line m := by
  cases m with
  | program text | goal text | action text | condition text =>
    rw [Fits, textAfter?_trim (by decide)]
    constructor
    · rintro ⟨after, h, rfl⟩
      constructor
      exact h
    · intro h
      cases h
      exact ⟨_, ‹_›, rfl⟩
  | stateSection | stepsSection =>
    rw [Fits, isHeading_trim (by decide)]
    constructor
    · rintro ⟨after, h, hblank⟩
      constructor
      · exact h
      · exact hblank
    · intro h
      cases h
      exact ⟨_, ‹_›, ‹_›⟩
  | step name =>
    rw [Fits, stepName?_trim]
    constructor
    · rintro ⟨label, h, rfl⟩
      exact .step h
    · intro h
      cases h
      exact ⟨_, ‹_›, rfl⟩

/-- The word that a kind of marker starts with. -/
def word : Marker → String
  | program _ => "program"
  | goal _ => "goal"
  | stateSection => "state"
  | stepsSection => "steps"
  | step _ => "step"
  | action _ => "action"
  | condition _ => "condition"

theorem textAfter?_eq_none {word : String} {line : List Char} (h : dropPhrase? word.toList line = none) :
    textAfter? word line = none := by
  rw [textAfter?, afterColon?, h]
  rfl

theorem isHeading_eq_false {word : String} {line : List Char} (h : dropPhrase? word.toList line = none) :
    isHeading word line = false := by
  rw [isHeading, afterColon?, h]
  rfl

theorem stepName?_eq_none {line : List Char} (h : dropPhrase? "step".toList line = none) : stepName? line = none := by
  rw [stepName?, h]
  rfl

/-- A line that a pattern fits starts with the word of the pattern. -/
theorem Fits.dropPhrase?_isSome {line : List Char} {m : Marker} (h : m.Fits line) :
    (dropPhrase? m.word.toList line).isSome = true := by
  rw [Option.isSome_iff_ne_none]
  intro hnone
  cases m with
  | program _ | goal _ | action _ | condition _ =>
    exact Option.some_ne_none _ (h.symm.trans (textAfter?_eq_none hnone))
  | stateSection | stepsSection => exact Bool.false_ne_true ((isHeading_eq_false hnone).symm.trans h)
  | step _ => exact Option.some_ne_none _ (h.symm.trans (stepName?_eq_none hnone))

/-- The word for a step starts the heading of the steps, but on a step line a blank follows it. -/
theorem stepName?_eq_none_of_steps {line : List Char} (h : (dropPhrase? "steps".toList line).isSome = true) :
    stepName? line = none := by
  rw [Option.eq_none_iff_forall_not_mem]
  intro name hname
  obtain ⟨r, hr⟩ := Option.isSome_iff_exists.mp h
  obtain ⟨w, hw, rfl⟩ := dropPhrase?_eq_some.mp hr
  obtain ⟨w', b, label, after, hw', hb, -, -, hline, -⟩ := stepName?_eq_some.mp hname
  have hlen : w.length = 5 := hw.length_eq.symm
  have hlen' : w'.length = 4 := hw'.length_eq.symm
  -- the blank stands where the heading has its last letter
  have hget : (w ++ r)[4]? = some b := by
    rw [hline, List.append_assoc, List.getElem?_append_right (by omega), hlen']
    rfl
  rw [List.getElem?_append_left (by omega)] at hget
  have hmem : b ∈ w := List.mem_of_getElem? hget
  exact absurd hb (by simp [hw.not_isBlank (by decide : IsWord "steps").2 b hmem])

theorem isWord_word (m : Marker) : IsWord m.word := by cases m <;> simp only [word] <;> decide

/-- Of two words neither starts with the other, the word for a step and the heading of the steps apart. -/
theorem word_apart (m n : Marker) : m.word = n.word ∨
    (¬ m.word.toList <+: n.word.toList ∧ ¬ n.word.toList <+: m.word.toList) ∨
    (m.word = "step" ∧ n.word = "steps") ∨ (m.word = "steps" ∧ n.word = "step") := by
  cases m <;> cases n <;> simp only [word] <;> decide

theorem Fits.step_ne_steps {line : List Char} {m n : Marker} (hm : m.Fits line) (hn : n.Fits line)
    (hs : m.word = "step") : n.word ≠ "steps" := by
  intro hh
  have hsome := hn.dropPhrase?_isSome
  rw [hh] at hsome
  cases m with
  | step name => exact Option.some_ne_none _ (hm.symm.trans (stepName?_eq_none_of_steps hsome))
  | _ => exact absurd hs (by simp [word])

/-- Patterns that fit one line have the same word. -/
theorem Fits.word_eq {line : List Char} {m n : Marker} (hm : m.Fits line) (hn : n.Fits line) : m.word = n.word := by
  rcases word_apart m n with h | ⟨hmn, hnm⟩ | ⟨hs, hh⟩ | ⟨hh, hs⟩
  · exact h
  · obtain ⟨r, hr⟩ := Option.isSome_iff_exists.mp hm.dropPhrase?_isSome
    have hnone := dropPhrase?_apart (isWord_word m).2 (isWord_word n).2 hmn hnm hr
    have hsome := hn.dropPhrase?_isSome
    rw [hnone] at hsome
    nomatch hsome
  · exact absurd hh (hm.step_ne_steps hn hs)
  · exact absurd hh (hn.step_ne_steps hm hs)

/-- One pattern at most fits a line, and it fits with one text. -/
theorem Fits.unique {line : List Char} {m n : Marker} (hm : m.Fits line) (hn : n.Fits line) : m = n := by
  have hword := hm.word_eq hn
  cases m <;> cases n <;> first
    | rfl
    | (simp only [word, String.reduceEq] at hword; done)
    | exact congrArg _ (Option.some.inj (hm.symm.trans hn))

/-- The patterns are tried in order, but the order does not matter. -/
theorem ofLine?_eq_some {line : List Char} {m : Marker} : ofLine? line = some m ↔ m.Fits line := by
  have sound {n : Marker} (h : ofLine? line = some n) : n.Fits line := by
    simp only [ofLine?, Option.orElse_eq_orElse, Option.orElse_eq_or, Option.or_eq_some_iff, Option.map_eq_some_iff,
      Option.ite_none_right_eq_some, Option.some.injEq] at h
    rcases h with ⟨t, h, rfl⟩ | ⟨-, ⟨t, h, rfl⟩ | ⟨-, ⟨h, rfl⟩ | ⟨-, ⟨h, rfl⟩ | ⟨-, ⟨t, h, rfl⟩ | ⟨-, ⟨t, h, rfl⟩ |
      ⟨-, t, h, rfl⟩⟩⟩⟩⟩⟩ <;> exact h
  refine ⟨sound, fun h => ?_⟩
  cases hline : ofLine? line with
  | some n => rw [(sound hline).unique h]
  | none =>
    simp only [ofLine?, Option.orElse_eq_orElse, Option.orElse_eq_or, Option.or_eq_none_iff, Option.map_eq_none_iff,
      ite_eq_right_iff, reduceCtorEq, imp_false] at hline
    cases m <;> simp_all [Fits]

/-- The marker of a line is what the line says. -/
theorem ofLine?_trim {line : List Char} {m : Marker} : ofLine? (trim line) = some m ↔ Says line m := by
  rw [ofLine?_eq_some, fits_trim]

end Marker

end Runbook
