import Mathlib.Data.String.Basic
import Runbook.Proofs.Readback

/-!
# Comparisons follow one order

Comparisons for equality and for order are tested by two functions, on values of six kinds. On two numbers and on two
strings they are one linear order; other values are equal or not, and are in no order.

* `Comparison.Relates` : what a comparison asks of two elements of a linear order; `accepts_compare`, `Relates.chain`;
* `Json.Comparable` : two numbers or two strings;
* `test_num`, `test_str`, `test_null`, `test_of_not_comparable` : the answers of a comparison, whatever it asks for;
* `test_chain` : orderings that go the same way, one after the other;
* `comparisons_agree` : what conditions with different signs answer in one state.
-/

namespace Runbook

open Text

variable {ω : Type} {op op' chained : Comparison} {v e f : Json}

/-! ## Orders -/

namespace Comparison

/-- The comparisons that ask for an order. -/
def orderings : List Comparison := [lt, le, gt, ge]

/-- The ordering that two of them make up one after the other, if they go the same way. -/
def chain? : Comparison → Comparison → Option Comparison
  | le, le => some le
  | lt, lt | lt, le | le, lt => some lt
  | ge, ge => some ge
  | gt, gt | gt, ge | ge, gt => some gt
  | _, _ => none

section Linear

variable {α : Type} [LinearOrder α] {a b c : α}

/-- What a comparison asks of two elements of an order. -/
def Relates (op : Comparison) (a b : α) : Prop :=
  match op with
  | eq => a = b
  | ne => a ≠ b
  | ge => b ≤ a
  | le => a ≤ b
  | gt => b < a
  | lt => a < b

theorem accepts_compare : op.accepts (Ord.compare a b) = true ↔ op.Relates a b := by
  cases op with
  | eq => exact beq_iff_eq.trans compare_eq_iff_eq
  | ne => exact bne_iff_ne.trans compare_eq_iff_eq.not
  | ge => exact bne_iff_ne.trans compare_ge_iff_ge
  | le => exact bne_iff_ne.trans compare_le_iff_le
  | gt => exact beq_iff_eq.trans compare_gt_iff_gt
  | lt => exact beq_iff_eq.trans compare_lt_iff_lt

theorem Relates.chain (h : op.chain? op' = some chained) (hab : op.Relates a b) (hbc : op'.Relates b c) :
    chained.Relates a c := by
  match op, op', h with
  | le, le, rfl => exact le_trans hab hbc
  | lt, lt, rfl => exact lt_trans hab hbc
  | lt, le, rfl => exact lt_of_lt_of_le hab hbc
  | le, lt, rfl => exact lt_of_le_of_lt hab hbc
  | ge, ge, rfl => exact le_trans hbc hab
  | gt, gt, rfl => exact lt_trans hbc hab
  | gt, ge, rfl => exact lt_of_le_of_lt hbc hab
  | ge, gt, rfl => exact lt_of_lt_of_le hbc hab

end Linear

theorem mem_orderings_of_chain (h : op.chain? op' = some chained) : op ∈ orderings ∧ op' ∈ orderings := by
  match op, op', h with
  | le, le, rfl | lt, lt, rfl | lt, le, rfl | le, lt, rfl => decide
  | ge, ge, rfl | gt, gt, rfl | gt, ge, rfl | ge, gt, rfl => decide

end Comparison

/-! ## Values -/

/-- Two values can be ordered: they are numbers, or they are strings. -/
inductive Json.Comparable : Json → Json → Prop
  | num (a b : Number) : Comparable (.num a) (.num b)
  | str (a b : String) : Comparable (.str a) (.str b)

theorem Json.order?_of_not_comparable (h : ¬ v.Comparable e) : v.order? e = none := by
  unfold order?
  split
  · next a b => exact absurd (.num a b) h
  · next a b => exact absurd (.str a b) h
  · rfl

namespace Comparison

/-- Numbers are ordered as their nearest floats are. -/
theorem test_num (op : Comparison) (a b : Number) :
    op.test (.num a) (.num b) = .ok (op.accepts (Ord.compare a.toFloat.value b.toFloat.value)) := by
  have hequals : (Json.num a).equals (.num b) = (Ord.compare a.toFloat.value b.toFloat.value == .eq) := by
    rw [Bool.eq_iff_iff, beq_iff_eq, compare_eq_iff_eq]
    exact beq_iff_eq
  cases op with
  | eq => exact congrArg Except.ok hequals
  | ne => exact congrArg (fun b => Except.ok !b) hequals
  | _ => rfl

theorem test_str (op : Comparison) (a b : String) :
    op.test (.str a) (.str b) = .ok (op.accepts (Ord.compare a b)) := by
  have horder : textOrder a b = Ord.compare a b := (LinearOrder.compare_eq_compareOfLessAndEq a b).symm
  have hequals : (Json.str a).equals (.str b) = (Ord.compare a b == .eq) := by
    rw [Bool.eq_iff_iff, beq_iff_eq, compare_eq_iff_eq]
    exact beq_iff_eq
  cases op with
  | eq => exact congrArg Except.ok hequals
  | ne => exact congrArg (fun b => Except.ok !b) hequals
  | _ => exact congrArg (fun o => Except.ok (accepts _ o)) horder

/-- All comparisons of two values that can be ordered are told by one order. -/
theorem exists_accepts (h : v.Comparable e) : ∃ o, ∀ op : Comparison, op.test v e = .ok (op.accepts o) := by
  cases h with
  | num a b => exact ⟨_, fun op => test_num op a b⟩
  | str a b => exact ⟨_, fun op => test_str op a b⟩

theorem test_null (h : op ∈ orderings) (e : Json) : op.test .null e = .ok false := by
  cases op with
  | eq | ne => simp [orderings] at h
  | _ => rfl

theorem test_of_not_comparable (h : op ∈ orderings) (hnull : v ≠ .null) (hkinds : ¬ v.Comparable e) :
    op.test v e = .error ("cannot order " ++ v.kindName ++ " against " ++ e.kindName) := by
  unfold test
  split
  · simp [orderings] at h
  · simp [orderings] at h
  · exact absurd rfl hnull
  · rw [Json.order?_of_not_comparable hkinds]

theorem comparable_of_test (h : op ∈ orderings) (htrue : op.test v e = .ok true) : v.Comparable e := by
  by_contra hkinds
  by_cases hnull : v = .null
  · rw [hnull, test_null h] at htrue
    nomatch htrue
  · rw [test_of_not_comparable h hnull hkinds] at htrue
    nomatch htrue

/-- Orderings that go the same way, one after the other, make up one. -/
theorem test_chain (h : op.chain? op' = some chained) (hve : op.test v e = .ok true) (hef : op'.test e f = .ok true) :
    chained.test v f = .ok true := by
  obtain ⟨hop, hop'⟩ := mem_orderings_of_chain h
  cases comparable_of_test hop hve with
  | num a b =>
    cases comparable_of_test hop' hef with
    | num _ c =>
      rw [test_num, Except.ok.injEq, accepts_compare] at hve hef ⊢
      exact hve.chain h hef
  | str a b =>
    cases comparable_of_test hop' hef with
    | str _ c =>
      rw [test_str, Except.ok.injEq, accepts_compare] at hve hef ⊢
      exact hve.chain h hef

/-- A comparison as it is written, with single blanks. -/
def line (op : Comparison) (path text : String) : String := path ++ " " ++ op.sign ++ " " ++ text

end Comparison

/-! ## Conditions -/

namespace Evaluator

open Comparison (orderings)

variable {path text : String}

theorem ofState_line (hpath : Path.IsDotted path.toList) (hline : '\n' ∉ text.toList) (htext : ¬ AllBlank text.toList)
    (op : Comparison) (s : State) (u : ω) : ofState (op.line path text) s u =
      (.ofExcept ((op.test ((s.getPath? path).getD .null) (Json.ofLiteral (trim text.toList))).mapError
        (.condition (trimString (op.line path text)))), u) :=
  congrArg (fun answer => (Reply.ofExcept answer, u)) (Condition.evaluate_sign hpath hline htext op s)

/-- A comparison holds if its test does. -/
theorem ofState_line_holds (hpath : Path.IsDotted path.toList) (hline : '\n' ∉ text.toList)
    (htext : ¬ AllBlank text.toList) {s : State} {u : ω} {b : Bool} :
    ofState (op.line path text) s u = (.done b, u) ↔
      op.test ((s.getPath? path).getD .null) (Json.ofLiteral (trim text.toList)) = .ok b := by
  rw [ofState_line hpath hline htext]
  cases op.test ((s.getPath? path).getD .null) (Json.ofLiteral (trim text.toList)) <;>
    simp [Except.mapError, Reply.ofExcept]

/-- **Comparisons of one path with one text agree.** The two for equality always answer, one the opposite of the other.
A missing value is in no order. Of two numbers or two strings the first is less than, equal to or greater than the
second, one of the three, and the two other orderings follow from these; orderings that go the same way can be chained
over a value between. Any other two values cannot be ordered, which is an error that names their kinds. A path exists
if it is not missing. -/
theorem comparisons_agree (hpath : Path.IsDotted path.toList) (hline : '\n' ∉ text.toList)
    (htext : ¬ AllBlank text.toList) (s : State) (u : ω) :
    let v := (s.getPath? path).getD .null
    let e := Json.ofLiteral (trim text.toList)
    let asked (op : Comparison) := ofState (op.line path text) s u
    (asked .eq = (.done (v.equals e), u) ∧ asked .ne = (.done !v.equals e, u)) ∧
      (v = .null → ∀ op ∈ orderings, asked op = (.done false, u)) ∧
      (v.Comparable e → ∃ less same more, [less, same, more].count true = 1 ∧
        asked .lt = (.done less, u) ∧ asked .eq = (.done same, u) ∧ asked .gt = (.done more, u) ∧
        asked .le = (.done (less || same), u) ∧ asked .ge = (.done (more || same), u)) ∧
      (∀ (t : State) (between limit : String), Path.IsDotted between.toList → t.getPath? between = some e →
        '\n' ∉ limit.toList → ¬ AllBlank limit.toList → ∀ op op' chained, op.chain? op' = some chained →
          asked op = (.done true, u) → ofState (op'.line between limit) t u = (.done true, u) →
          ofState (chained.line path limit) s u = (.done true, u)) ∧
      (v ≠ .null → ¬ v.Comparable e → ∀ op ∈ orderings, asked op =
        (.failed (.condition (trimString (op.line path text))
          ("cannot order " ++ v.kindName ++ " against " ++ e.kindName)), u)) ∧
      ofState (path ++ " exists") s u = (.done (s.hasPath path), u) ∧
      ofState (path ++ " missing") s u = (.done !s.hasPath path, u) := by
  intro v e asked
  have holds {op : Comparison} {b : Bool} (h : op.test v e = .ok b) : asked op = (.done b, u) :=
    (ofState_line_holds hpath hline htext).mpr h
  refine ⟨⟨holds rfl, holds rfl⟩, fun hnull op hop => ?_, fun hkinds => ?_, ?_, fun hnull hkinds op hop => ?_, ?_, ?_⟩
  · exact holds (by rw [hnull, Comparison.test_null hop])
  · obtain ⟨o, ho⟩ := Comparison.exists_accepts hkinds
    refine ⟨o == .lt, o == .eq, o == .gt, by cases o <;> rfl, holds (ho .lt), holds (ho .eq), holds (ho .gt), ?_, ?_⟩
    · rw [holds (ho .le)]
      cases o <;> rfl
    · rw [holds (ho .ge)]
      cases o <;> rfl
  · intro t between limit hbetween ht hlimit hlimitText op op' chained hchain hve hef
    rw [ofState_line_holds hbetween hlimit hlimitText, ht] at hef
    rw [ofState_line_holds hpath hlimit hlimitText]
    exact Comparison.test_chain hchain ((ofState_line_holds hpath hline htext).mp hve) hef
  · show ofState (op.line path text) s u = _
    rw [ofState_line hpath hline htext, Comparison.test_of_not_comparable hop hnull hkinds]
    rfl
  · rw [ofState, Condition.evaluate_exists hpath]
    rfl
  · rw [ofState, Condition.evaluate_missing hpath]
    rfl

/-- The path and both texts are made of words of other conditions; the values are strings. -/
theorem comparisons_agree_wordy :
    let s : State := ⟨[("not", .obj [("exists", .str "exists")])]⟩
    let t : State := ⟨[("a", .str "is set")]⟩
    Path.IsDotted "not.exists".toList ∧ '\n' ∉ "is set".toList ∧ ¬ AllBlank "is set".toList ∧
      ofState (Comparison.lt.line "not.exists" "is set") s () = (.done true, ()) ∧
      ofState (Comparison.le.line "a" " not missing ") t () = (.done true, ()) ∧
      ofState (Comparison.lt.line "not.exists" " not missing ") s () = (.done true, ()) := by
  intro s t
  have hpath : Path.IsDotted "not.exists".toList := by decide
  have hline : '\n' ∉ "is set".toList := by decide
  have htext : ¬ AllBlank "is set".toList := by decide
  have hbetween : Path.IsDotted "a".toList := by decide
  have hlimit : '\n' ∉ " not missing ".toList := by decide
  have hlimitText : ¬ AllBlank " not missing ".toList := by decide
  have hless : ofState (Comparison.lt.line "not.exists" "is set") s () = (.done true, ()) :=
    (ofState_line_holds hpath hline htext).mpr rfl
  have hmost : ofState (Comparison.le.line "a" " not missing ") t () = (.done true, ()) :=
    (ofState_line_holds hbetween hlimit hlimitText).mpr rfl
  have hchained := (comparisons_agree hpath hline htext s ()).2.2.2.1 t "a" " not missing " hbetween rfl hlimit
    hlimitText .lt .le .lt rfl hless hmost
  exact ⟨hpath, hline, htext, hless, hmost, hchained⟩

end Evaluator

end Runbook
