import Runbook.Proofs.Cycle

/-!
# Repeated names

The names that a program repeats are found in one pass over its steps. There are none exactly where the walk from step to
step by name comes to an end.

* `SecondAt` : the place of the second occurrence of a name; `exists_secondAt` : a name that occurs twice has one;
* `Listed` : the repeated names of a list, each once, in the order of their second occurrences;
* `listed_repeatsFrom` : one pass with a memory of the names seen and of those listed lists them;
* `Program.Walk` : the names visited from a name on, up to the end; `walk_of_nodup`, `FirstRepeat.not_walk` : where a
  walk comes to an end, and where it does not;
* `repeated_names_listed` : what the list of repeated names tells.
-/

namespace Runbook

/-! ## Second occurrences -/

/-- A name occurs at a place for the second time. -/
def SecondAt (names : List String) (k : Nat) (n : String) : Prop := names[k]? = some n ∧ (names.take k).count n = 1

variable {names listed seen : List String} {n : String} {k : Nat}

theorem SecondAt.lt (h : SecondAt names k n) : k < names.length := (List.getElem?_eq_some_iff.mp h.1).1

/-- The place of a second occurrence does not depend on what comes after it. -/
theorem SecondAt.append (h : SecondAt names k n) (ms : List String) : SecondAt (names ++ ms) k n := by
  refine ⟨?_, ?_⟩
  · rw [List.getElem?_append_left h.lt, h.1]
  · rw [List.take_append_of_le_length (Nat.le_of_lt h.lt), h.2]

/-- A name that has occurred once occurs next for the second time. -/
theorem secondAt_concat (h : names.count n = 1) : SecondAt (names ++ [n]) names.length n :=
  ⟨List.getElem?_concat_length, by rw [List.take_left', h]; rfl⟩

theorem count_concat (names : List String) (m n : String) :
    (names ++ [n]).count m = names.count m + if m = n then 1 else 0 := by
  rw [List.count_append, List.count_singleton]
  simp only [beq_iff_eq, @eq_comm _ n m]

theorem exists_secondAt (h : 2 ≤ names.count n) : ∃ k, SecondAt names k n := by
  induction names using List.reverseRecOn with
  | nil => simp at h
  | append_singleton names m ih =>
    by_cases htwice : 2 ≤ names.count n
    · obtain ⟨k, hk⟩ := ih htwice
      exact ⟨k, hk.append [m]⟩
    · rw [count_concat] at h
      obtain rfl : n = m := by
        by_contra hne
        rw [if_neg hne] at h
        omega
      rw [if_pos rfl] at h
      exact ⟨names.length, secondAt_concat (by omega)⟩

/-! ## The list of repeated names -/

/-- The names that occur twice or more often in a list, each once, in the order of their second occurrences. -/
structure Listed (names listed : List String) : Prop where
  mem_iff : ∀ n, n ∈ listed ↔ 2 ≤ names.count n
  nodup : listed.Nodup
  ordered : listed.Pairwise fun a b => ∃ i j, SecondAt names i a ∧ SecondAt names j b ∧ i < j

theorem Listed.nil : Listed [] [] := ⟨by simp, List.nodup_nil, .nil⟩

/-- Earlier second occurrences stay in order, whatever comes after them. -/
theorem Listed.ordered_append (h : Listed names listed) (ms : List String) :
    listed.Pairwise fun a b => ∃ i j, SecondAt (names ++ ms) i a ∧ SecondAt (names ++ ms) j b ∧ i < j :=
  h.ordered.imp fun ⟨i, j, hi, hj, hlt⟩ => ⟨i, j, hi.append ms, hj.append ms, hlt⟩

/-- A name that has not occurred, or has been listed, adds nothing to the list. -/
theorem Listed.concat (h : Listed names listed) (hn : n ∉ names ∨ n ∈ listed) : Listed (names ++ [n]) listed := by
  refine ⟨fun m => ?_, h.nodup, h.ordered_append [n]⟩
  rw [h.mem_iff, count_concat]
  split
  · next heq =>
    subst heq
    rcases hn with hnew | hlisted
    · rw [List.count_eq_zero.mpr hnew]
      omega
    · have htwice := (h.mem_iff m).mp hlisted
      omega
  · rfl

/-- A name that occurs for the second time is the next one of the list. -/
theorem Listed.concat_second (h : Listed names listed) (hn : n ∈ names) (hl : n ∉ listed) :
    Listed (names ++ [n]) (listed ++ [n]) := by
  have honce : names.count n = 1 := by
    have hpos := List.count_pos_iff.mpr hn
    have hfew := (h.mem_iff n).not.mp hl
    omega
  refine ⟨fun m => ?_, ?_, ?_⟩
  · rw [List.mem_append, List.mem_singleton, h.mem_iff, count_concat]
    split
    · next heq =>
      subst heq
      exact iff_of_true (Or.inr rfl) (by omega)
    · next hne => simp only [hne, or_false, Nat.add_zero]
  · rw [← List.concat_eq_append]
    exact h.nodup.concat hl
  · rw [List.pairwise_append]
    refine ⟨h.ordered_append [n], List.pairwise_singleton _ _, fun a ha b hb => ?_⟩
    obtain rfl := List.mem_singleton.mp hb
    obtain ⟨i, hi⟩ := exists_secondAt ((h.mem_iff a).mp ha)
    exact ⟨i, names.length, hi.append [b], secondAt_concat honce, hi.lt⟩

/-- A pass that remembers the names it has come by, and has listed the repeated ones among them, lists those of all. -/
theorem listed_repeatsFrom (hseen : ∀ n, n ∈ seen ↔ n ∈ names) (h : Listed names listed) (ns : List String) :
    Listed (names ++ ns) (Program.repeatsFrom seen listed ns) := by
  induction ns generalizing names seen listed with
  | nil =>
    rw [List.append_nil]
    exact h
  | cons n ns ih =>
    rw [List.append_cons]
    unfold Program.repeatsFrom
    by_cases hnew : n ∉ seen
    · rw [if_pos hnew]
      refine ih (fun m => ?_) (h.concat (Or.inl ((hseen n).not.mp hnew)))
      rw [List.mem_cons, List.mem_append, List.mem_singleton, hseen, or_comm]
    · have hmem : n ∈ names := (hseen n).mp (not_not.mp hnew)
      have hseen' : ∀ m, m ∈ seen ↔ m ∈ names ++ [n] := fun m => by
        rw [hseen, List.mem_append, List.mem_singleton]
        exact ⟨Or.inl, fun hm => hm.elim id fun heq => heq ▸ hmem⟩
      rw [if_neg hnew]
      by_cases hlisted : n ∈ listed
      · rw [if_pos hlisted]
        exact ih hseen' (h.concat (Or.inr hlisted))
      · rw [if_neg hlisted]
        exact ih hseen' (h.concat_second hmem hlisted)

theorem Listed.eq_nil_iff (h : Listed names listed) : listed = [] ↔ names.Nodup := by
  rw [List.eq_nil_iff_forall_not_mem, List.nodup_iff_count_le_one]
  refine forall_congr' fun n => ?_
  rw [h.mem_iff, Nat.not_le, Nat.lt_succ_iff]

/-! ## Walks by name -/

namespace Program

variable {p : Program}

theorem listed_repeatedNames (p : Program) : Listed (p.steps.map (·.name)) p.repeatedNames := by
  have hseen : ∀ n, n ∈ ([] : List String) ↔ n ∈ ([] : List String) := fun _ => Iff.rfl
  exact listed_repeatsFrom hseen .nil (p.steps.map (·.name))

/-- The names visited from a name on, each followed by that of the next step, if the walk comes to an end. -/
inductive Walk (p : Program) : Option String → List String → Prop
  | done : Walk p none []
  | visit {n ns} (rest : Walk p (p.nextName? n) ns) : Walk p (some n) (n :: ns)

theorem Walk.unique {o : Option String} {as bs : List String} (ha : p.Walk o as) (hb : p.Walk o bs) : as = bs := by
  induction ha generalizing bs with
  | done =>
    cases hb
    rfl
  | visit _ ih =>
    cases hb with
    | visit hb => rw [ih hb]

/-- Where all names are different, the walk from the name at a place visits the names from there on. -/
theorem walk_of_nodup (hn : (p.steps.map (·.name)).Nodup) (k : Nat) :
    p.Walk (p.steps[k]?.map (·.name)) ((p.steps.drop k).map (·.name)) := by
  generalize hrest : p.steps.drop k = rest
  induction rest generalizing k with
  | nil =>
    rw [List.getElem?_eq_none (List.drop_eq_nil_iff.mp hrest), Option.map_none]
    exact .done
  | cons step rest ih =>
    have hstep : p.steps[k]? = some step := by
      have hhead : (p.steps.drop k)[0]? = some step := by rw [hrest, List.getElem?_cons_zero]
      rwa [List.getElem?_drop, Nat.add_zero] at hhead
    have hnext : p.steps.drop (k + 1) = rest := by rw [← List.tail_drop, hrest, List.tail_cons]
    rw [hstep, Option.map_some, List.map_cons]
    refine .visit ?_
    rw [nextName?_getElem hn hstep]
    exact ih (k + 1) hnext

/-- Where a name is repeated, no walk comes to an end from any place of the cycle. -/
theorem FirstRepeat.not_walk {i j : Nat} (h : p.FirstRepeat i j) (ns : List String) (r : Nat) :
    ¬ p.Walk (p.steps[cyclePlace i j r]?.map (·.name)) ns := by
  obtain ⟨step, hstep⟩ := h.getElem?_eq (Nat.le_of_lt (cyclePlace_lt h.before r))
  rw [hstep, Option.map_some]
  intro hwalk
  induction ns generalizing r step with
  | nil => cases hwalk
  | cons n ns ih =>
    cases hwalk with
    | visit rest =>
      rw [h.nextName?_eq hstep] at rest
      obtain ⟨next, hnext⟩ := h.getElem?_eq (Nat.le_of_lt (cyclePlace_lt h.before (r + 1)))
      rw [hnext, Option.map_some] at rest
      exact ih (r + 1) next hnext rest

theorem firstName?_eq (p : Program) : p.firstName? = p.steps[0]?.map (·.name) := by
  rw [firstName?, List.head?_eq_getElem?]

theorem walk_firstName?_iff (p : Program) :
    (∃ visited, p.Walk p.firstName? visited) ↔ (p.steps.map (·.name)).Nodup := by
  rw [firstName?_eq]
  constructor
  · rintro ⟨visited, hwalk⟩
    by_contra hn
    obtain ⟨i, j, hrepeat⟩ := firstRepeat_of_not_nodup hn
    refine hrepeat.not_walk visited 0 ?_
    rwa [cyclePlace, if_pos (Nat.zero_lt_of_lt hrepeat.before)]
  · intro hn
    exact ⟨_, walk_of_nodup hn 0⟩

/-- **Repeated names are listed.** The list of repeated names has exactly those that two steps or more bear, each once,
in the order of their second occurrences. It is empty if and only if the walk from the first step, from each name to
that of the next step, comes to an end, and then the walk has visited the names of the steps, in order. -/
theorem repeated_names_listed (p : Program) :
    (∀ n, n ∈ p.repeatedNames ↔ 2 ≤ (p.steps.map (·.name)).count n) ∧ p.repeatedNames.Nodup ∧
    (p.repeatedNames.Pairwise fun a b =>
      ∃ i j, SecondAt (p.steps.map (·.name)) i a ∧ SecondAt (p.steps.map (·.name)) j b ∧ i < j) ∧
    (p.repeatedNames = [] ↔ ∃ visited, p.Walk p.firstName? visited) ∧
    ∀ visited, p.Walk p.firstName? visited → visited = p.steps.map (·.name) := by
  have hlisted := p.listed_repeatedNames
  refine ⟨hlisted.mem_iff, hlisted.nodup, hlisted.ordered, ?_, fun visited hwalk => ?_⟩
  · rw [hlisted.eq_nil_iff, p.walk_firstName?_iff]
  · have hwhole := walk_of_nodup (p.walk_firstName?_iff.mp ⟨visited, hwalk⟩) 0
    rw [← p.firstName?_eq, List.drop_zero] at hwhole
    exact hwalk.unique hwhole

end Program

end Runbook
