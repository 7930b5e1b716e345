import Runbook.Proofs.Dotted
import Runbook.Proofs.Frame
import Runbook.Proofs.Sameness
import Runbook.Run.Strategy

/-!
# What is assigned is read back

The vocabulary of actions and the shapes of conditions are read by two grammars. On a path and an operand they agree:
the value that an assignment writes is the one that a comparison with the same operand expects.

* `Json.equals_refl` : every value equals itself in a comparison, whatever its form;
* `Comparison.operand?_trimEnd` : the operand after a sign, which both grammars take alike;
* `Instruction.ofChars_assign`, `Condition.ofChars_compare`, `ofChars_present`, `ofChars_absent` : assignments and
  conditions are read as such, also where the path is one of the words of conditions;
* `Instruction.apply_assign`, `Condition.evaluate_sign` : what they make of a state;
* `assigned_is_read_back` : after an assignment its path has its value.
-/

namespace Runbook

open Text

/-! ## Values equal themselves -/

namespace Json

theorem equals_refl (v : Json) : v.equals v = true := by
  cases v with
  | num n => simp [equals, Binary64.same]
  | _ => exact same_refl _

end Json

/-! ## What stands after a sign -/

/-- Trimming the end goes no further than a text that is not blank. -/
theorem Text.trimEnd_append_right {t : List Char} (ht : ¬ AllBlank t) (s : List Char) :
    trimEnd (s ++ t) = s ++ trimEnd t := by
  have hne : t.reverse.dropWhile isBlank ≠ [] := by
    intro h
    exact ht fun c hc => trimStart_eq_nil.mp h c (List.mem_reverse.mpr hc)
  rw [trimEnd, List.reverse_append, List.dropWhile_append, if_neg (by simpa using hne), List.reverse_append,
    List.reverse_reverse, trimEnd]

/-- After a sign and a blank stands the operand, also where blanks at the end of the line are gone. -/
theorem Comparison.operand?_trimEnd {t : List Char} (hline : '\n' ∉ t) (htext : ¬ AllBlank t) :
    operand? (trimEnd (' ' :: t)) = some (trim t) := by
  have hne : trimStart (trimEnd (' ' :: t)) ≠ [] := by
    rw [Ne, trimStart_trimEnd_eq_nil, allBlank_cons]
    exact fun h => htext h.2
  have hmem : '\n' ∉ trimStart (trimEnd (' ' :: t)) := by
    intro h
    obtain ⟨b, -, hend⟩ := exists_trimEnd (' ' :: t)
    obtain ⟨a, -, hstart⟩ := exists_trimStart (trimEnd (' ' :: t))
    have hall : '\n' ∈ ' ' :: t := by
      rw [hend, hstart]
      simp [h]
    rcases List.mem_cons.mp hall with hspace | ht
    · exact absurd hspace (by decide)
    · exact hline ht
  have htrim : trim (trimStart (trimEnd (' ' :: t))) = trim t := by
    rw [trim_trimStart, trim_trimEnd]
    rfl
  unfold operand?
  rw [if_neg (by simp [hne, hmem]), htrim]

theorem Instruction.assigned?_eq {s r : List Char} (h : trimStart s = '=' :: r) :
    assigned? s = Comparison.operand? r := by
  rw [assigned?, h]
  rfl

theorem Instruction.assigned?_eq_none {c : Char} (hc : isBlank c = false) (hsign : c ≠ '=') (s : List Char) :
    assigned? (c :: s) = none := by
  unfold assigned?
  rw [trimStart_cons hc]
  split
  · next h => exact absurd (List.cons.inj h).1 hsign
  · rfl

/-! ## Assignments -/

namespace Instruction

/-- The target is what stands before the operand, if that is without blanks and signs. -/
theorem target?_append {p rest operand : List Char} (hne : p ≠ []) (hp : ∀ c ∈ p, isBlank c = false ∧ c ≠ '=')
    (h : assigned? rest = some operand) (taken : List Char) :
    target? taken (p ++ rest) = some (taken.reverse ++ p, operand) := by
  induction p generalizing taken with
  | nil => exact absurd rfl hne
  | cons c p ih =>
    obtain ⟨hc, -⟩ := hp c List.mem_cons_self
    rw [List.cons_append, target?, hc]
    cases p with
    | nil =>
      rw [List.nil_append, h]
      simp
    | cons d p =>
      obtain ⟨hd, hsign⟩ := hp d (by simp)
      rw [List.cons_append, assigned?_eq_none hd hsign, ← List.cons_append,
        ih (List.cons_ne_nil d p) (fun c hc => hp c (List.mem_cons_of_mem _ hc))]
      simp

theorem assignment?_set (s : List Char) :
    assignment? ('s' :: 'e' :: 't' :: ' ' :: s) = target? [] (trimStart s) := by
  have hdrop : dropPhrase? "set".toList ('s' :: 'e' :: 't' :: ' ' :: s) = some (' ' :: s) := by
    simp [dropPhrase?, sameLetter]
  have hblank : isBlank ' ' = true := by decide
  have hstart : trimStart (' ' :: s) = trimStart s := rfl
  rw [assignment?, hdrop, Option.bind_some, hstart]
  simp [hblank]

theorem failure?_set (s : List Char) : failure? ('s' :: 'e' :: 't' :: ' ' :: s) = none := by
  simp [failure?, dropPhrase?, sameLetter]

theorem assignment?_append {p tail operand : List Char} (hp : Path.IsDotted p)
    (h : Comparison.operand? tail = some operand) :
    assignment? ('s' :: 'e' :: 't' :: ' ' :: (p ++ ' ' :: '=' :: tail)) = some (p, operand) := by
  have hassigned : assigned? (' ' :: '=' :: tail) = some operand := by
    rw [assigned?_eq rfl, h]
  have hstart : trimStart (p ++ ' ' :: '=' :: tail) = p ++ ' ' :: '=' :: tail := by
    obtain ⟨c, p, rfl⟩ := List.exists_cons_of_ne_nil hp.ne_nil
    exact trimStart_cons (hp.not_isBlank List.mem_cons_self) _
  rw [assignment?_set, hstart]
  exact target?_append hp.ne_nil (fun c hc => ⟨hp.not_isBlank hc, hp.ne_sign hc⟩) hassigned []

/-- An assignment to a path is read as one. -/
theorem ofChars_assign {p tail operand : List Char} (hp : Path.IsDotted p)
    (h : Comparison.operand? tail = some operand) :
    ofChars ('s' :: 'e' :: 't' :: ' ' :: (p ++ ' ' :: '=' :: tail)) = assign (String.ofList p) operand := by
  rw [ofChars, failure?_set, assignment?_append hp h]
  dsimp only
  rw [if_pos (Path.isWellFormed_iff.mpr hp)]

end Instruction

/-! ## Conditions -/

namespace Comparison

/-- The sign of a comparison. -/
def sign : Comparison → String
  | eq => "=="
  | ne => "!="
  | ge => ">="
  | le => "<="
  | gt => ">"
  | lt => "<"

/-- The characters that signs are made of. -/
def signChars : List Char := ['=', '!', '>', '<']

theorem mem_signChars {c : Char} : c ∈ signChars ↔ c = '=' ∨ c = '!' ∨ c = '>' ∨ c = '<' := by
  simp [signChars]

/-- The characters of signs are neither in words nor in paths nor around them. -/
theorem signChars_apart {c : Char} (h : c ∈ signChars) : smallLetter c ∉ "not".toList ∧ isBlank c = false ∧
    Path.isNameChar c = false ∧ c ≠ '.' := by
  rcases mem_signChars.mp h with rfl | rfl | rfl | rfl <;> decide

/-- No phrase starts as a sign does. -/
theorem signChars_phrase {c : Char} (h : c ∈ signChars) : ∀ phrase ∈ ["exists", "is set", "is present", "missing",
    "is missing", "is not set", "is absent"], phrase.toList ≠ [] ∧ phrase.toList.head?.any (sameLetter · c) = false := by
  rcases mem_signChars.mp h with rfl | rfl | rfl | rfl <;> decide

theorem exists_sign (op : Comparison) : ∃ c rest, c ∈ signChars ∧ op.sign.toList = c :: rest := by
  cases op <;> exact ⟨_, _, by decide, rfl⟩

/-- A sign is read, and the operand after it, unless another sign is longer. -/
theorem ofChars?_sign (op : Comparison) {tail operand : List Char} (h : operand? tail = some operand)
    (htail : tail.head? ≠ some '=') : ofChars? (op.sign.toList ++ tail) = some (op, operand) := by
  obtain ⟨c, rest, rfl⟩ : ∃ c rest, tail = c :: rest := List.exists_cons_of_ne_nil (by rintro rfl; nomatch h)
  have hc : ('=' == c) = false := beq_eq_false_iff_ne.mpr fun hsame => htail (congrArg some hsame.symm)
  cases op <;> simp [ofChars?, signs, dropSign?, sign, h, hc]

end Comparison

namespace Condition

/-- A path is told from what follows it after a blank. -/
theorem path?_append {p : List Char} (hp : Path.IsDotted p) (rest : List Char) :
    path? (p ++ ' ' :: rest) = some (String.ofList p, ' ' :: rest) := by
  have hspan : Path.span (p ++ ' ' :: rest) = (p, ' ' :: rest) := by
    refine hp.span_append fun c hc => ?_
    obtain rfl := Option.some.inj hc
    decide
  unfold path?
  rw [hspan]
  split
  · next h => exact absurd (Prod.mk.inj h).1 hp.ne_nil
  · next h =>
    obtain ⟨rfl, rfl⟩ := Prod.mk.inj h
    rfl

theorem beforePhrase?_append {p : List Char} (hp : Path.IsDotted p) (phrases : List String) (rest : List Char) :
    beforePhrase? phrases (p ++ ' ' :: rest) =
      if phrases.any (isPhrase · (trimStart rest)) then some (String.ofList p) else none := by
  have hblank : isBlank ' ' = true := by decide
  have hstart : trimStart (' ' :: rest) = trimStart rest := rfl
  rw [beforePhrase?, path?_append hp, Option.bind_some]
  simp only [List.head?_cons, Option.any_some, hblank, Bool.true_and, hstart]

/-- A `not` is followed by a path only. -/
theorem negated?_eq_none {s : List Char} {c : Char} (hc : c ∈ Comparison.signChars) (h : c ∈ s) : negated? s = none := by
  obtain ⟨hletter, hblank, hname, hdot⟩ := Comparison.signChars_apart hc
  unfold negated?
  cases hdrop : dropPhrase? "not".toList s with
  | none => rfl
  | some rest =>
    obtain ⟨w, hw, rfl⟩ := dropPhrase?_eq_some.mp hdrop
    have hlower : "not".toList.all (·.isLower) = true := by decide
    have hword : c ∉ w := by
      intro hmem
      refine hletter ?_
      rw [hw.eq_map (List.all_eq_true.mp hlower)]
      exact List.mem_map_of_mem hmem
    -- the sign is no letter of the word and no blank, so it stands where the path would
    have hrest : c ∈ trimStart rest := by
      obtain ⟨a, ha, hsplit⟩ := exists_trimStart rest
      have hmem : c ∈ w ++ (a ++ trimStart rest) := by
        rw [← hsplit]
        exact h
      simp only [List.mem_append] at hmem
      rcases hmem with hmem | hmem | hmem
      · exact absurd hmem hword
      · exact absurd (ha _ hmem) (by simp [hblank])
      · exact hmem
    have hpath : Path.isWellFormed (trimStart rest) = false := by
      rw [Bool.eq_false_iff, Ne, Path.isWellFormed_iff]
      intro hdotted
      rcases hdotted.mem hrest with hmem | hmem
      · exact Bool.false_ne_true (hname.symm.trans hmem)
      · exact hdot hmem
    simp [hpath]

theorem isPhrase_eq_false {phrase : String} {c : Char}
    (h : phrase.toList ≠ [] ∧ phrase.toList.head?.any (sameLetter · c) = false) (rest : List Char) :
    isPhrase phrase (c :: rest) = false := by
  obtain ⟨l, ls, hphrase⟩ := List.exists_cons_of_ne_nil h.1
  have hl : sameLetter l c = false := by
    have hhead := h.2
    rwa [hphrase] at hhead
  simp [isPhrase, hphrase, dropPhrase?, hl]

/-- A character that no phrase starts with is none of the phrases. -/
theorem beforePhrase?_eq_none {p : List Char} (hp : Path.IsDotted p) {phrases : List String} {c : Char}
    (hc : isBlank c = false)
    (h : ∀ phrase ∈ phrases, phrase.toList ≠ [] ∧ phrase.toList.head?.any (sameLetter · c) = false)
    (rest : List Char) : beforePhrase? phrases (p ++ ' ' :: c :: rest) = none := by
  have hany : phrases.any (isPhrase · (c :: rest)) = false :=
    List.any_eq_false.mpr fun phrase hphrase => by simp [isPhrase_eq_false (h phrase hphrase)]
  rw [beforePhrase?_append hp, trimStart_cons hc, hany]
  rfl

theorem comparison?_append {p : List Char} (hp : Path.IsDotted p) {c : Char} (hc : isBlank c = false)
    (rest : List Char) : comparison? (p ++ ' ' :: c :: rest) =
      (Comparison.ofChars? (c :: rest)).map fun (op, operand) => compare (String.ofList p) op operand := by
  have hstart : trimStart (' ' :: c :: rest) = c :: rest := trimStart_cons hc rest
  rw [comparison?, path?_append hp, Option.bind_some]
  dsimp only
  rw [hstart]

/-- A comparison of a path is read as one, also where the path is one of the words of conditions. -/
theorem ofChars_compare {p tail operand : List Char} (hp : Path.IsDotted p)
    (h : Comparison.operand? tail = some operand) (htail : tail.head? ≠ some '=') (op : Comparison) :
    ofChars (p ++ ' ' :: (op.sign.toList ++ tail)) = compare (String.ofList p) op operand := by
  have hsign := op.ofChars?_sign h htail
  obtain ⟨c, rest, hc, hchars⟩ := op.exists_sign
  rw [hchars, List.cons_append] at hsign ⊢
  have hblank : isBlank c = false := (Comparison.signChars_apart hc).2.1
  have hphrase := Comparison.signChars_phrase hc
  have hpresent : beforePhrase? ["exists", "is set", "is present"] (p ++ ' ' :: c :: (rest ++ tail)) = none :=
    beforePhrase?_eq_none hp hblank (fun phrase hmem => hphrase phrase (List.mem_append_left _ hmem)) _
  have habsent : beforePhrase? ["missing", "is missing", "is not set", "is absent"]
      (p ++ ' ' :: c :: (rest ++ tail)) = none :=
    beforePhrase?_eq_none hp hblank
      (fun phrase hmem => hphrase phrase (List.mem_append_right ["exists", "is set", "is present"] hmem)) _
  have hfalsy : negated? (p ++ ' ' :: c :: (rest ++ tail)) = none := negated?_eq_none hc (by simp)
  unfold ofChars
  rw [hpresent, habsent, hfalsy, comparison?_append hp hblank, hsign]
  rfl

/-- So are the two questions whether a path has a value. -/
theorem ofChars_present {p : List Char} (hp : Path.IsDotted p) :
    ofChars (p ++ " exists".toList) = present (String.ofList p) := by
  have hpresent : beforePhrase? ["exists", "is set", "is present"] (p ++ " exists".toList) =
      some (String.ofList p) := by
    show beforePhrase? _ (p ++ ' ' :: "exists".toList) = _
    rw [beforePhrase?_append hp, if_pos (by decide)]
  unfold ofChars
  rw [hpresent]
  rfl

theorem ofChars_absent {p : List Char} (hp : Path.IsDotted p) :
    ofChars (p ++ " missing".toList) = absent (String.ofList p) := by
  have hpresent : beforePhrase? ["exists", "is set", "is present"] (p ++ " missing".toList) = none := by
    show beforePhrase? _ (p ++ ' ' :: "missing".toList) = _
    rw [beforePhrase?_append hp, if_neg (by decide)]
  have habsent : beforePhrase? ["missing", "is missing", "is not set", "is absent"] (p ++ " missing".toList) =
      some (String.ofList p) := by
    show beforePhrase? _ (p ++ ' ' :: "missing".toList) = _
    rw [beforePhrase?_append hp, if_pos (by decide)]
  unfold ofChars
  rw [hpresent, habsent]
  rfl

end Condition

/-! ## The texts as they are written -/

section Written

variable {path text : String}

/-- Trimming an assignment leaves its target as it is written. -/
theorem Instruction.trim_assignment (target text : String) : trim ("set " ++ target ++ " = " ++ text).toList =
    's' :: 'e' :: 't' :: ' ' :: (target.toList ++ ' ' :: '=' :: trimEnd (' ' :: text.toList)) := by
  have hset : ("set " ++ target ++ " = " ++ text).toList =
      's' :: (("et " ++ target ++ " ").toList ++ '=' :: ' ' :: text.toList) := by simp
  rw [hset, trim, trimStart_cons (by decide), ← List.cons_append, trimEnd_append_cons (by decide)]
  simp

/-- An assignment writes the value of its operand. -/
theorem Instruction.apply_assign (hpath : Path.IsDotted path.toList) (hline : '\n' ∉ text.toList)
    (htext : ¬ AllBlank text.toList) (s : State) :
    apply ("set " ++ path ++ " = " ++ text) s =
      (s.setPath path (Json.ofLiteral (trim text.toList))).mapError .state := by
  unfold apply
  dsimp only
  rw [trim_assignment, ofChars_assign hpath (Comparison.operand?_trimEnd hline htext), String.ofList_toList]
  rfl

namespace Condition

theorem evaluate_of_shape {condition : Condition} {s : State} {b : Bool} (h : ofChars (trim text.toList) = condition)
    (hb : condition.holds s = .ok b) : evaluate text s = .ok b := by
  unfold evaluate
  dsimp only
  rw [h, hb]

/-- A comparison with single blanks is the test of its value against the value of its operand. -/
theorem evaluate_sign (hpath : Path.IsDotted path.toList) (hline : '\n' ∉ text.toList)
    (htext : ¬ AllBlank text.toList) (op : Comparison) (s : State) :
    evaluate (path ++ " " ++ op.sign ++ " " ++ text) s =
      (op.test ((s.getPath? path).getD .null) (Json.ofLiteral (trim text.toList))).mapError
        (.condition (trimString (path ++ " " ++ op.sign ++ " " ++ text))) := by
  have hspaced : ¬ AllBlank (' ' :: text.toList) := fun h => htext (allBlank_cons.mp h).2
  have htail : (trimEnd (' ' :: text.toList)).head? ≠ some '=' := by
    rw [← List.singleton_append, trimEnd_append_right htext]
    simp
  have htrim : trim (path ++ " " ++ op.sign ++ " " ++ text).toList =
      path.toList ++ ' ' :: (op.sign.toList ++ trimEnd (' ' :: text.toList)) := by
    have hchars : (path ++ " " ++ op.sign ++ " " ++ text).toList =
        path.toList ++ (' ' :: op.sign.toList ++ ' ' :: text.toList) := by simp
    rw [hchars, hpath.trim_append, trimEnd_append_right hspaced, List.cons_append]
  have hshape : ofChars (trim (path ++ " " ++ op.sign ++ " " ++ text).toList) = compare path op (trim text.toList) := by
    rw [htrim, ofChars_compare hpath (Comparison.operand?_trimEnd hline htext) htail, String.ofList_toList]
  unfold evaluate
  dsimp only
  rw [hshape, holds, trimString]
  cases op.test ((s.getPath? path).getD .null) (Json.ofLiteral (trim text.toList)) <;> rfl

/-- A comparison expects the value that an assignment of the same text writes. -/
theorem evaluate_compare (hpath : Path.IsDotted path.toList) (hline : '\n' ∉ text.toList)
    (htext : ¬ AllBlank text.toList) (sign : String) {c : Char} {op : Comparison}
    (hsign : sign.toList = [' ', c, '=', ' ']) (hc : c = '=' ∧ op = .eq ∨ c = '!' ∧ op = .ne) {s : State} {v : Json}
    (hv : s.getPath? path = some v) {b : Bool} (hb : op.test v (Json.ofLiteral (trim text.toList)) = .ok b) :
    evaluate (path ++ sign ++ text) s = .ok b := by
  have hwritten : path ++ sign ++ text = path ++ " " ++ op.sign ++ " " ++ text := by
    rcases hc with ⟨rfl, rfl⟩ | ⟨rfl, rfl⟩ <;> simp [← String.toList_inj, hsign, Comparison.sign]
  rw [hwritten, evaluate_sign hpath hline htext, hv, Option.getD_some, hb]
  rfl

theorem evaluate_exists (hpath : Path.IsDotted path.toList) (s : State) :
    evaluate (path ++ " exists") s = .ok (s.hasPath path) := by
  have htrim : trim (path ++ " exists").toList = path.toList ++ " exists".toList := by
    rw [String.toList_append, hpath.trim_append]
    rfl
  have hshape : ofChars (trim (path ++ " exists").toList) = present path := by
    rw [htrim, ofChars_present hpath, String.ofList_toList]
  exact evaluate_of_shape hshape rfl

theorem evaluate_missing (hpath : Path.IsDotted path.toList) (s : State) :
    evaluate (path ++ " missing") s = .ok !s.hasPath path := by
  have htrim : trim (path ++ " missing").toList = path.toList ++ " missing".toList := by
    rw [String.toList_append, hpath.trim_append]
    rfl
  have hshape : ofChars (trim (path ++ " missing").toList) = absent path := by
    rw [htrim, ofChars_absent hpath, String.ofList_toList]
  exact evaluate_of_shape hshape rfl

end Condition

/-- A write that succeeds leaves its value at its path. -/
theorem State.getPath?_of_setPath {s s' : State} {v : Json} (hpath : Path.IsDotted path.toList)
    (h : s.setPath path v = .ok s') : s'.getPath? path = some v := by
  have hfound := (writtenAt_of_setPath h).found
  rwa [Path.trimmedNames_eq hpath] at hfound

/-- **What is assigned is read back.** After an assignment that succeeds, a comparison of its path with the text of its
operand holds, the path exists, and the two opposite conditions do not hold; also where path and operand look like
words and signs of conditions. -/
theorem assigned_is_read_back {ω : Type} (hpath : Path.IsDotted path.toList) (hline : '\n' ∉ text.toList)
    (htext : ¬ AllBlank text.toList) {s s' : State} {w w' : ω}
    (h : Dispatcher.vocabulary ("set " ++ path ++ " = " ++ text) s w = (.done (), s', w')) (u : ω) :
    Evaluator.ofState (path ++ " == " ++ text) s' u = (.done true, u) ∧
      Evaluator.ofState (path ++ " exists") s' u = (.done true, u) ∧
      Evaluator.ofState (path ++ " != " ++ text) s' u = (.done false, u) ∧
      Evaluator.ofState (path ++ " missing") s' u = (.done false, u) := by
  have hset : s.setPath path (Json.ofLiteral (trim text.toList)) = .ok s' := by
    unfold Dispatcher.vocabulary at h
    rw [Instruction.apply_assign hpath hline htext] at h
    cases hset : s.setPath path (Json.ofLiteral (trim text.toList)) with
    | error e =>
      rw [hset] at h
      nomatch h
    | ok t =>
      rw [hset] at h
      simp only [Except.mapError, Prod.mk.injEq] at h
      rw [h.2.1]
  have hv := State.getPath?_of_setPath hpath hset
  have hhas : s'.hasPath path = true := by
    rw [State.hasPath, hv]
    rfl
  have heq := Condition.evaluate_compare hpath hline htext " == " rfl (.inl ⟨rfl, rfl⟩) hv
    (congrArg Except.ok (Json.equals_refl _))
  have hne := Condition.evaluate_compare hpath hline htext " != " rfl (.inr ⟨rfl, rfl⟩) hv
    (congrArg (fun b => Except.ok !b) (Json.equals_refl _))
  have hexists := Condition.evaluate_exists hpath s'
  have hmissing := Condition.evaluate_missing hpath s'
  rw [hhas] at hexists hmissing
  simp only [Evaluator.ofState, heq, hne, hexists, hmissing]
  exact ⟨rfl, rfl, rfl, rfl⟩

/-- The path holds two words of conditions; the operand starts with a sign, holds another, and is no JSON text. -/
theorem assigned_is_read_back_odd :
    let s' : State := ⟨[("not", .obj [("exists", .str "= [1, >= 1e400")])]⟩
    Path.IsDotted "not.exists".toList ∧ '\n' ∉ " = [1, >= 1e400 ".toList ∧ ¬ AllBlank " = [1, >= 1e400 ".toList ∧
      Dispatcher.vocabulary ("set " ++ "not.exists" ++ " = " ++ " = [1, >= 1e400 ") State.empty () =
        (.done (), s', ()) ∧
      Evaluator.ofState ("not.exists" ++ " == " ++ " = [1, >= 1e400 ") s' () = (.done true, ()) ∧
      Evaluator.ofState ("not.exists" ++ " exists") s' () = (.done true, ()) ∧
      Evaluator.ofState ("not.exists" ++ " != " ++ " = [1, >= 1e400 ") s' () = (.done false, ()) ∧
      Evaluator.ofState ("not.exists" ++ " missing") s' () = (.done false, ()) := by
  have hpath : Path.IsDotted "not.exists".toList := by decide
  have hline : '\n' ∉ " = [1, >= 1e400 ".toList := by decide
  have htext : ¬ AllBlank " = [1, >= 1e400 ".toList := by decide
  have hnames : Path.trimmedNames "not.exists" = ["not", "exists"] := by decide
  have htrim : trim " = [1, >= 1e400 ".toList = "= [1, >= 1e400".toList := by decide
  have hvalue : Json.ofLiteral (trim " = [1, >= 1e400 ".toList) = .str "= [1, >= 1e400" := by
    rw [htrim]
    rfl
  have hdone : Dispatcher.vocabulary ("set " ++ "not.exists" ++ " = " ++ " = [1, >= 1e400 ") State.empty () =
      (.done (), ⟨[("not", .obj [("exists", .str "= [1, >= 1e400")])]⟩, ()) := by
    unfold Dispatcher.vocabulary
    rw [Instruction.apply_assign hpath hline htext, hvalue]
    simp [State.setPath, State.writePath, hnames, State.empty, Fields.write, Fields.enter?, Fields.get?, Fields.set,
      Except.map, Except.mapError]
  exact ⟨hpath, hline, htext, hdone, assigned_is_read_back hpath hline htext hdone ()⟩

end Written

end Runbook
