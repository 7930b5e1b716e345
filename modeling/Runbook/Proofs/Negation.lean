import Runbook.Proofs.Readback

/-!
# Negated conditions

A `not` before a path asks for the opposite of the path alone. But questions are read before negations, and a path may
be spelt like the word of a question: then the same text is that question, about a path named `not`.

* `Text.isPhrase_eq_false_of_blank` : a path is none of the phrases that hold a blank;
* `Condition.ofChars_bare`, `ofChars_not` : what a path alone and a path after a `not` are read as;
* `negation_opposes` : their answers in a state;
* `word_is_asked` : a path that is not negated.
-/

namespace Runbook

open Text

/-! ## Phrases that hold a blank -/

theorem Text.Spells.mem_blank {phrase w : List Char} (h : Spells phrase w) (hblank : ' ' ∈ phrase) : ' ' ∈ w := by
  induction h with
  | nil => nomatch hblank
  | @cons l c phrase w hc _ ih =>
    rcases List.mem_cons.mp hblank with rfl | hmem
    · have hsame : c = ' ' := by simpa [sameLetter] using hc
      exact hsame ▸ List.mem_cons_self
    · exact List.mem_cons_of_mem c (ih hmem)

/-- A text without blanks is no phrase of several words. -/
theorem Text.isPhrase_eq_false_of_blank {phrase : String} (hphrase : ' ' ∈ phrase.toList) {s : List Char}
    (hs : ∀ c ∈ s, isBlank c = false) : isPhrase phrase s = false := by
  rw [Bool.eq_false_iff]
  intro h
  obtain ⟨w, hw, hsplit⟩ := dropPhrase?_eq_some.mp (eq_of_beq h)
  rw [List.append_nil] at hsplit
  subst hsplit
  exact absurd (hs ' ' (hw.mem_blank hphrase)) (by decide)

/-- A text is one of two words only, unless one of them starts the other. -/
theorem Text.isPhrase_exists_of_missing {s : List Char} (h : isPhrase "missing" s = true) :
    isPhrase "exists" s = false := by
  have hapart : dropPhrase? "exists".toList s = none :=
    dropPhrase?_apart (List.all_eq_true.mp rfl) (List.all_eq_true.mp rfl) (by decide) (by decide) (eq_of_beq h)
  rw [isPhrase, hapart]
  rfl

/-! ## Shapes -/

/-- Trimming the end stops at a path. -/
theorem Path.IsDotted.trimEnd_append {p : List Char} (h : IsDotted p) (s : List Char) : trimEnd (s ++ p) = s ++ p := by
  rcases List.eq_nil_or_concat p with rfl | ⟨r, c, rfl⟩
  · exact absurd rfl h.ne_nil
  · rw [List.concat_eq_append, ← List.append_assoc]
    exact trimEnd_append_cons (h.not_isBlank (by simp)) (s ++ r) []

namespace Condition

variable {p : List Char}

/-- A path alone is no comparison and no question, whatever its names. -/
theorem ofChars_bare (hp : Path.IsDotted p) : ofChars p = truthy (String.ofList p) := by
  have hpath : path? p = some (String.ofList p, []) := by
    have hspan : Path.span (p ++ []) = (p, []) := hp.span_append fun c hc => nomatch hc
    rw [List.append_nil] at hspan
    unfold path?
    rw [hspan]
    split
    · next h => exact absurd (Prod.mk.inj h).1 hp.ne_nil
    · next h =>
      obtain ⟨rfl, rfl⟩ := Prod.mk.inj h
      rfl
  have hbefore (phrases : List String) : beforePhrase? phrases p = none := by
    rw [beforePhrase?, hpath]
    rfl
  have hnegated : negated? p = none := by
    unfold negated?
    cases hdrop : dropPhrase? "not".toList p with
    | none => rfl
    | some rest =>
      obtain ⟨w, -, rfl⟩ := dropPhrase?_eq_some.mp hdrop
      have hrest : rest.head?.any isBlank = false := by
        rw [Option.any_eq_false]
        intro c hc
        simpa using hp.not_isBlank (List.mem_append_right w (List.mem_of_mem_head? hc))
      simp [hrest]
  have hcomparison : comparison? p = none := by
    rw [comparison?, hpath]
    rfl
  unfold ofChars
  rw [hbefore, hbefore, hnegated, hcomparison, if_pos (Path.isWellFormed_iff.mpr hp)]
  rfl

/-- What a `not` before a path asks, where the word of a question goes before a path. -/
def afterNot (p : List Char) : Condition :=
  if isPhrase "exists" p then present "not"
  else if isPhrase "missing" p then absent "not"
  else falsy (String.ofList p)

theorem isDotted_not : Path.IsDotted "not".toList := by decide

theorem ofChars_not (hp : Path.IsDotted p) : ofChars ("not".toList ++ ' ' :: p) = afterNot p := by
  have hstart : trimStart p = p := by
    obtain ⟨c, r, rfl⟩ := List.exists_cons_of_ne_nil hp.ne_nil
    exact trimStart_cons (hp.not_isBlank List.mem_cons_self) r
  -- of the questions' phrases only the single words can be a path
  have hphrases {word : String} {phrases : List String} (h : ∀ phrase ∈ phrases, ' ' ∈ phrase.toList) :
      beforePhrase? (word :: phrases) ("not".toList ++ ' ' :: p) = if isPhrase word p then some "not" else none := by
    have hrest : phrases.any (isPhrase · p) = false := List.any_eq_false.mpr fun phrase hmem => by
      simp [isPhrase_eq_false_of_blank (h phrase hmem) fun c hc => hp.not_isBlank hc]
    rw [beforePhrase?_append isDotted_not, hstart, List.any_cons, hrest, Bool.or_false, String.ofList_toList]
  have hfalsy : negated? ("not".toList ++ ' ' :: p) = some (String.ofList p) := by
    have hdrop : dropPhrase? "not".toList ("not".toList ++ ' ' :: p) = some (' ' :: p) := by
      simp [dropPhrase?, sameLetter]
    have hblank : isBlank ' ' = true := by decide
    have hgap : trimStart (' ' :: p) = p := hstart
    rw [negated?, hdrop, Option.bind_some, hgap]
    simp [hblank, Path.isWellFormed_iff.mpr hp]
  unfold ofChars afterNot
  rw [hphrases (by decide), hphrases (by decide), hfalsy]
  split
  · rfl
  · split <;> rfl

end Condition

/-! ## Answers -/

namespace Evaluator

variable {ω : Type} {path : String}

theorem ofState_of_shape {text : String} {condition : Condition} {s : State} {b : Bool}
    (h : Condition.ofChars (trim text.toList) = condition) (hb : condition.holds s = .ok b) (u : ω) :
    ofState text s u = (.done b, u) := by
  rw [ofState, Condition.evaluate_of_shape h hb]
  rfl

/-- **A negated path is answered with the opposite of the path alone**, which asks whether its value counts as true. If
the path is the word `exists` or the word `missing`, in any letter case, then the text asks that question about the
path `not`. -/
theorem negation_opposes (hpath : Path.IsDotted path.toList) (s : State) (u : ω) :
    let answer := Condition.isTruthyAt s path
    let negated := ofState ("not " ++ path) s u
    ofState path s u = (.done answer, u) ∧
      (isPhrase "exists" path.toList = false → isPhrase "missing" path.toList = false →
        negated = (.done !answer, u)) ∧
      (isPhrase "exists" path.toList = true → negated = (.done (s.hasPath "not"), u)) ∧
      (isPhrase "missing" path.toList = true → negated = (.done !s.hasPath "not", u)) := by
  intro answer negated
  have hbare : Condition.ofChars (trim path.toList) = .truthy path := by
    rw [trim_of_not_isBlank fun c hc => hpath.not_isBlank hc, Condition.ofChars_bare hpath, String.ofList_toList]
  have hnot : Condition.ofChars (trim ("not " ++ path).toList) = Condition.afterNot path.toList := by
    have hchars : ("not " ++ path).toList = "not".toList ++ ([' '] ++ path.toList) := by simp
    rw [hchars, Condition.isDotted_not.trim_append, hpath.trimEnd_append]
    exact Condition.ofChars_not hpath
  refine ⟨ofState_of_shape hbare rfl u, fun hexists hmissing => ?_, fun hexists => ?_, fun hmissing => ?_⟩
  · refine ofState_of_shape hnot ?_ u
    rw [Condition.afterNot, if_neg (by simp [hexists]), if_neg (by simp [hmissing]), String.ofList_toList]
    rfl
  · refine ofState_of_shape hnot ?_ u
    rw [Condition.afterNot, if_pos hexists]
    rfl
  · refine ofState_of_shape hnot ?_ u
    rw [Condition.afterNot, if_neg (by simp [isPhrase_exists_of_missing hmissing]), if_pos hmissing]
    rfl

/-- The path holds two words of questions; its value is a list without items. -/
theorem negation_opposes_wordy :
    let s : State := ⟨[("not", .obj [("exists", .arr [])])]⟩
    Path.IsDotted "not.exists".toList ∧ isPhrase "exists" "not.exists".toList = false ∧
      isPhrase "missing" "not.exists".toList = false ∧
      ofState "not.exists" s () = (.done false, ()) ∧ ofState ("not " ++ "not.exists") s () = (.done true, ()) := by
  intro s
  have hpath : Path.IsDotted "not.exists".toList := by decide
  have hexists : isPhrase "exists" "not.exists".toList = false := by decide
  have hmissing : isPhrase "missing" "not.exists".toList = false := by decide
  obtain ⟨hbare, hnegated, -, -⟩ := negation_opposes hpath s ()
  exact ⟨hpath, hexists, hmissing, hbare, hnegated hexists hmissing⟩

/-- In the empty state the path `exists` has no value, and no more has the path `not`. -/
theorem word_is_asked : ¬ ∀ (path : String) (s : State), Path.IsDotted path.toList →
    ∃ answer, ofState path s () = (.done answer, ()) ∧ ofState ("not " ++ path) s () = (.done !answer, ()) := by
  intro h
  have hpath : Path.IsDotted "exists".toList := by decide
  have hbare : ofState "exists" State.empty () = (.done false, ()) := rfl
  have hquestion : ofState ("not " ++ "exists") State.empty () = (.done false, ()) := rfl
  obtain ⟨answer, hsays, hnegated⟩ := h "exists" State.empty hpath
  rw [hbare, Prod.mk.injEq, Reply.done.injEq] at hsays
  rw [hquestion, Prod.mk.injEq, Reply.done.injEq, ← hsays.1] at hnegated
  exact Bool.false_ne_true hnegated.1

end Evaluator

end Runbook
