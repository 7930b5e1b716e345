import Runbook.Json.Text
import Runbook.Proofs.Comparisons
import Runbook.Proofs.Numerals
import Runbook.Proofs.Rounding

/-!
# Comparisons of integers

A condition compares numbers by their nearest floats. So it tells two integers apart unless these have one nearest
float, and then it takes them for equal.

* `Json.ofLiteral_intChars` : an integer in range is the value of its own text;
* `Comparison.test_int` : integers are compared by their nearest floats;
* `Evaluator.integers_compared` : what a condition answers that compares two integers;
* `neighbours_taken_for_equal` : two integers that a condition does not tell apart.
-/

namespace Runbook

open Text

variable {a b n : Int}

/-! ## The text of an integer -/

/-- An integer that is no float in the data. -/
def InRange (n : Int) : Prop := Number.minInt ≤ n ∧ n ≤ Number.maxInt

instance (n : Int) : Decidable (InRange n) := inferInstanceAs (Decidable (_ ∧ _))

theorem InRange.natAbs_lt (h : InRange n) : n.natAbs < 2 ^ 64 := by
  obtain ⟨hmin, hmax⟩ := h
  unfold Number.minInt at hmin
  unfold Number.maxInt at hmax
  omega

theorem Number.isBlank_of_mem_intChars {c : Char} (h : c ∈ intChars n) : isBlank c = false := by
  refine Path.isBlank_of_isNameChar ?_
  rcases startsNumber_of_mem_intChars h with rfl | hdigit
  · decide
  · have hcode := Char.isDigit_iff_toNat.mp hdigit
    have hascii : c.toNat < 128 := hcode.2.trans_lt (by decide)
    simp [Path.isNameChar, isWord, hascii, Char.isAlphanum, hdigit]

namespace Json

theorem readChars_intChars (h : InRange n) : readChars (Number.intChars n) = .ok (.num (.int n)) := by
  have hread : readNumber (Number.intChars n ++ []) = .ok (.int n, []) :=
    Number.readNumber_intChars h.1 h.2 fun c hc => nomatch hc
  obtain ⟨c, s, hs⟩ := List.exists_cons_of_ne_nil (Number.intChars_ne_nil n)
  have hc : StartsNumber c := Number.startsNumber_of_mem_intChars (hs ▸ List.mem_cons_self)
  rw [List.append_nil, hs] at hread
  rw [hs, readChars, callsFor, readValue_number hc, hread]
  rfl

/-- An integer in range is the value of its own text. -/
theorem ofLiteral_intChars (h : InRange n) : ofLiteral (Number.intChars n) = .num (.int n) := by
  rw [ofLiteral, readChars_intChars h]

end Json

/-! ## Answers -/

theorem Comparison.test_int (op : Comparison) (a b : Int) : op.test (.num (.int a)) (.num (.int b)) =
    .ok (op.accepts (compare (Binary64.nearest a) (Binary64.nearest b))) := by
  rw [test_num]
  exact congrArg (fun o => Except.ok (op.accepts o)) (compare_ofInt a b)

namespace Evaluator

variable {ω : Type} {path : String}

theorem ofState_integers (hpath : Path.IsDotted path.toList) (hb : InRange b) {s : State}
    (hv : s.getPath? path = some (.num (.int a))) (op : Comparison) (u : ω) :
    ofState (op.line path (Json.text (.num (.int b)))) s u =
      (.done (op.accepts (compare (Binary64.nearest a) (Binary64.nearest b))), u) := by
  have htext : (Json.text (.num (.int b))).toList = Number.intChars b := String.toList_ofList
  have hblank : ∀ c ∈ Number.intChars b, isBlank c = false := fun c hc => Number.isBlank_of_mem_intChars hc
  have hline : '\n' ∉ (Json.text (.num (.int b))).toList := by
    rw [htext]
    exact fun h => absurd (hblank _ h) (by decide)
  have hword : ¬ AllBlank (Json.text (.num (.int b))).toList := by
    rw [htext]
    obtain ⟨c, r, hs⟩ := List.exists_cons_of_ne_nil (Number.intChars_ne_nil b)
    rw [hs, allBlank_cons]
    exact fun h => Bool.false_ne_true ((hblank c (hs ▸ List.mem_cons_self)).symm.trans h.1)
  have hliteral : Json.ofLiteral (trim (Json.text (.num (.int b))).toList) = .num (.int b) := by
    rw [htext, trim_of_not_isBlank hblank, Json.ofLiteral_intChars hb]
  rw [ofState_line_holds hpath hline hword, hv, hliteral]
  exact op.test_int a b

/-- **Conditions compare integers by their nearest floats.** Such a comparison always answers. It tells what it asks for
of the two integers themselves, unless they have one nearest float; then it takes them for equal. Integers with one
nearest float have more than 53 bits and differ by `2 ^ 11` at most. -/
theorem integers_compared (hpath : Path.IsDotted path.toList) (ha : InRange a) (hb : InRange b) {s : State}
    (hv : s.getPath? path = some (.num (.int a))) (op : Comparison) (u : ω) :
    ∃ answer, ofState (op.line path (Json.text (.num (.int b)))) s u = (.done answer, u) ∧
      (answer = true ↔ op.Relates (Binary64.nearest a) (Binary64.nearest b)) ∧
      (¬ Merged a b → (answer = true ↔ op.Relates a b)) ∧
      (Merged a b → (answer = true ↔ op = .eq ∨ op = .le ∨ op = .ge) ∧
        2 ^ 53 ≤ a.natAbs ∧ 2 ^ 53 ≤ b.natAbs ∧ (a - b).natAbs ≤ 2 ^ 11) := by
  refine ⟨_, ofState_integers hpath hb hv op u, Comparison.accepts_compare, fun h => ?_,
    fun h => ⟨?_, h.large, h.symm.large, h.close ha.natAbs_lt hb.natAbs_lt⟩⟩
  · rw [compare_nearest h]
    exact Comparison.accepts_compare
  · rw [h.2, compare_eq_iff_eq.mpr rfl]
    cases op <;> decide

/-- The two integers are as far apart as integers with one nearest float can be. -/
theorem integers_compared_far :
    let a : Int := 9223372036854778880
    let b : Int := 9223372036854780928
    let s : State := ⟨[("id", .num (.int a))]⟩
    Path.IsDotted "id".toList ∧ InRange a ∧ InRange b ∧ s.getPath? "id" = some (.num (.int a)) ∧
      (b - a).natAbs = 2 ^ 11 ∧ Merged a b ∧
      ofState (Comparison.lt.line "id" (Json.text (.num (.int b)))) s () = (.done false, ()) := by
  intro a b s
  have hpath : Path.IsDotted "id".toList := by decide
  have ha : InRange a := by decide
  have hb : InRange b := by decide
  have hv : s.getPath? "id" = some (.num (.int a)) := rfl
  have hmerged : Merged a b := ⟨by decide, by decide⟩
  obtain ⟨answer, hasked, -, -, hequal⟩ := integers_compared hpath ha hb hv .lt ()
  have hanswer : answer = false := Bool.eq_false_iff.mpr fun h => absurd ((hequal hmerged).1.mp h) (by decide)
  exact ⟨hpath, ha, hb, hv, rfl, hmerged, hanswer ▸ hasked⟩

/-- The least integer of more than 53 bits that is no float is taken for the one before it. -/
theorem neighbours_taken_for_equal : ¬ ∀ (a b : Int) (path : String) (s : State) (op : Comparison),
    InRange a → InRange b → Path.IsDotted path.toList → s.getPath? path = some (.num (.int a)) →
      ∃ answer, ofState (op.line path (Json.text (.num (.int b)))) s () = (.done answer, ()) ∧
        (answer = true ↔ op.Relates a b) := by
  intro h
  have hb : InRange 9007199254740992 := by decide
  have hpath : Path.IsDotted "id".toList := by decide
  have hv : State.getPath? ⟨[("id", .num (.int 9007199254740993))]⟩ "id" = some (.num (.int 9007199254740993)) := rfl
  have hnearest : Binary64.nearest 9007199254740993 = Binary64.nearest 9007199254740992 := by decide
  have hasked := ofState_integers hpath hb hv .eq ()
  rw [hnearest, compare_eq_iff_eq.mpr rfl] at hasked
  obtain ⟨answer, hsays, hexact⟩ := h _ _ "id" _ .eq (by decide) hb hpath hv
  rw [hasked, Prod.mk.injEq, Reply.done.injEq] at hsays
  have hequal : (9007199254740993 : Int) = 9007199254740992 := hexact.mp hsays.1.symm
  exact absurd hequal (by decide)

end Evaluator

end Runbook
