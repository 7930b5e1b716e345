import Runbook.Proofs.Frame
import Runbook.Proofs.Sameness

/-!
# Writes apart from each other

Two writes are apart if the names of neither are the first names of the other. They may go through the same objects on
their way down, create them, or stop at the same value; what each of them does is still the same in either order.

* `Fields.get?_write_ne`, `Fields.write_congr` : a write changes the field of its first name only, and depends on no
  other;
* `Fields.write_stop_apart` : whether a write stops, and where, is the same before and after one apart from it;
* `Fields.write_comm` : in either order the two leave equal fields;
* `State.apart_writes_commute` : the same of two writes at paths.
-/

namespace Runbook

variable {value v w : Json} {fs gs sub : Fields} {name other : String} {ns os : List String}

namespace Fields

/-! ## The first name of a write -/

theorem get?_write_ne {k : String} (h : k ≠ name) : (fs.write value name ns).1.get? k = fs.get? k := by
  cases ns with
  | nil => rw [write, get?_set, if_neg h]
  | cons n ns =>
    cases henter : fs.enter? name with
    | none => rw [write_of_blocked henter]
    | some sub => rw [write_of_enter henter, get?_set, if_neg h]

/-- What a write does depends on the field of its first name only. -/
theorem write_congr (h : gs.get? name = fs.get? name) :
    (gs.write value name ns).1.get? name = (fs.write value name ns).1.get? name ∧
      (gs.write value name ns).2 = (fs.write value name ns).2 := by
  cases ns with
  | nil => simp [write, get?_set]
  | cons n ns =>
    have hsame : gs.enter? name = fs.enter? name := by rw [enter?, h, enter?]
    cases henter : fs.enter? name with
    | none =>
      rw [write_of_blocked henter, write_of_blocked (hsame.trans henter)]
      exact ⟨h, rfl⟩
    | some sub =>
      rw [write_of_enter henter, write_of_enter (hsame.trans henter)]
      simp [get?_set]

/-- Below a common first name two writes are apart if they are apart from there on. -/
theorem apart_of_cons {n o : String} (h : ¬ name :: n :: ns <+: name :: o :: os) : ¬ n :: ns <+: o :: os :=
  fun hpre => h (List.cons_prefix_cons.mpr ⟨rfl, hpre⟩)

/-! ## Two writes -/

/-- A write stops where it would stop without one apart from it. -/
theorem write_stop_apart (h : ¬ name :: ns <+: other :: os) (h' : ¬ other :: os <+: name :: ns) :
    ((fs.write v name ns).1.write w other os).2 = (fs.write w other os).2 := by
  induction ns generalizing fs name other os with
  | nil =>
    have hne : other ≠ name := by
      rintro rfl
      exact h (by simp)
    exact (write_congr (get?_write_ne hne)).2
  | cons n ns ih =>
    by_cases hne : other = name
    · subst hne
      cases os with
      | nil => exact absurd (by simp) h'
      | cons o os =>
        cases henter : fs.enter? other with
        | none => rw [write_of_blocked henter]
        | some sub =>
          rw [write_of_enter henter, write_of_enter (enter?_set_obj fs _ other), write_of_enter henter]
          exact ih (apart_of_cons h) (apart_of_cons h')
    · exact (write_congr (get?_write_ne hne)).2

/-- Two writes that start with different names change different fields. -/
theorem write_comm_of_ne (h : name ≠ other) :
    (Json.obj ((fs.write v name ns).1.write w other os).1).same (.obj ((fs.write w other os).1.write v name ns).1) =
      true := by
  rw [Json.same_obj_iff]
  intro k
  have hsame : ((fs.write v name ns).1.write w other os).1.get? k = ((fs.write w other os).1.write v name ns).1.get? k := by
    by_cases hk : k = name
    · subst hk
      rw [get?_write_ne h]
      exact (write_congr (get?_write_ne h)).1.symm
    · have hlast : ((fs.write w other os).1.write v name ns).1.get? k = (fs.write w other os).1.get? k :=
        get?_write_ne hk
      rw [hlast]
      by_cases hko : k = other
      · subst hko
        exact (write_congr (get?_write_ne h.symm)).1
      · rw [get?_write_ne hko, get?_write_ne hk, get?_write_ne hko]
  rw [hsame]
  cases ((fs.write w other os).1.write v name ns).1.get? k with
  | none => exact .none
  | some u => exact .some (Json.same_refl u)

/-- Two writes apart from each other leave equal fields in either order. -/
theorem write_comm (h : ¬ name :: ns <+: other :: os) (h' : ¬ other :: os <+: name :: ns) :
    (Json.obj ((fs.write v name ns).1.write w other os).1).same (.obj ((fs.write w other os).1.write v name ns).1) =
      true := by
  induction ns generalizing fs name other os with
  | nil =>
    refine write_comm_of_ne ?_
    rintro rfl
    exact h (by simp)
  | cons n ns ih =>
    by_cases hne : name = other
    · subst hne
      cases os with
      | nil => exact absurd (by simp) h'
      | cons o os =>
        cases henter : fs.enter? name with
        | none =>
          rw [write_of_blocked henter, write_of_blocked henter, write_of_blocked henter]
          exact Json.same_refl _
        | some sub =>
          -- both writes set the common field, so the last of them has set it to what both did below it
          simp only [write_of_enter henter, write_of_enter (enter?_set_obj fs _ name), set_set]
          exact Json.same_set (ih (apart_of_cons h) (apart_of_cons h')) fs name
    · exact write_comm_of_ne hne

end Fields

/-! ## Two writes at paths -/

namespace State

theorem same_refl (s : State) : s.same s = true := Json.same_refl _

/-- **Writes apart from each other commute.** Of two writes of which neither goes to or below the place of the other,
each ends in either order as it would end alone, and in either order they leave equal states. -/
theorem apart_writes_commute (s : State) {p q : String} (v w : Json)
    (hpq : ¬ Path.trimmedNames p <+: Path.trimmedNames q) (hqp : ¬ Path.trimmedNames q <+: Path.trimmedNames p) :
    ((s.writePath p v).2.writePath q w).1 = (s.writePath q w).1 ∧
      ((s.writePath q w).2.writePath p v).1 = (s.writePath p v).1 ∧
      ((s.writePath p v).2.writePath q w).2.same ((s.writePath q w).2.writePath p v).2 = true := by
  by_cases hp : "" ∈ Path.trimmedNames p
  · simp only [writePath_of_blank hp]
    exact ⟨trivial, trivial, same_refl _⟩
  by_cases hq : "" ∈ Path.trimmedNames q
  · simp only [writePath_of_blank hq]
    exact ⟨trivial, trivial, same_refl _⟩
  obtain ⟨n, ns, hn⟩ := List.exists_cons_of_ne_nil (trimmedNames_ne_nil p)
  obtain ⟨o, os, ho⟩ := List.exists_cons_of_ne_nil (trimmedNames_ne_nil q)
  rw [hn, ho] at hpq hqp
  have hleft (t : State) (u : Json) := writePath_eq t u hn hp
  have hright (t : State) (u : Json) := writePath_eq t u ho hq
  simp only [hleft, hright]
  refine ⟨?_, ?_, Fields.write_comm hpq hqp⟩
  · rw [Fields.write_stop_apart hpq hqp]
  · rw [Fields.write_stop_apart hqp hpq]

/-- Both writes go through an object that is there and create one that is not; each order leaves another order of
fields in it. -/
theorem apart_writes_commute_shared :
    let s : State := ⟨[("a", .obj [("x", .null)])]⟩
    ¬ Path.trimmedNames "a.b.c" <+: Path.trimmedNames " a. b .d" ∧
      ¬ Path.trimmedNames " a. b .d" <+: Path.trimmedNames "a.b.c" ∧
      ((s.writePath "a.b.c" (.bool true)).2.writePath " a. b .d" (.str "t")).1 =
        (s.writePath " a. b .d" (.str "t")).1 ∧
      ((s.writePath " a. b .d" (.str "t")).2.writePath "a.b.c" (.bool true)).1 =
        (s.writePath "a.b.c" (.bool true)).1 ∧
      ((s.writePath "a.b.c" (.bool true)).2.writePath " a. b .d" (.str "t")).2.same
        ((s.writePath " a. b .d" (.str "t")).2.writePath "a.b.c" (.bool true)).2 = true := by
  have hpq : ¬ Path.trimmedNames "a.b.c" <+: Path.trimmedNames " a. b .d" := by decide
  have hqp : ¬ Path.trimmedNames " a. b .d" <+: Path.trimmedNames "a.b.c" := by decide
  exact ⟨hpq, hqp, apart_writes_commute _ _ _ hpq hqp⟩

end State

end Runbook
