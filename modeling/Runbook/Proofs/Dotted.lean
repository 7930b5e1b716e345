import Runbook.Proofs.Spelling
import Runbook.State.Basic

/-!
# Dotted paths

A well-formed path is names between single dots, and a name is one or more word characters and hyphens.

* `CharSet.not_mem_of_apart` : sets of characters whose ranges lie apart have no character in common;
* `isBlank_of_isNameChar` : no character of a name is a blank;
* `Path.IsDotted` : the names of a text are names of a path; `isWellFormed_iff` : that is the test that is made;
* `IsDotted.span_append` : such a path is told apart from a text after it that starts with neither a dot nor a name;
* `trimmedNames_eq` : writing and reading take the same names from it.
-/

namespace Runbook

open Text

/-! ## Characters of names -/

theorem Text.trim_of_not_isBlank {s : List Char} (h : ∀ c ∈ s, isBlank c = false) : trim s = s := by
  have hstart : trimStart s = s := by
    cases s with
    | nil => rfl
    | cons c s => exact trimStart_cons (h c List.mem_cons_self) s
  rw [trim, hstart]
  rcases List.eq_nil_or_concat s with rfl | ⟨r, c, rfl⟩
  · rfl
  · rw [List.concat_eq_append] at h ⊢
    exact trimEnd_append_cons (h c (by simp)) r []

theorem Text.CharSet.not_mem_of_apart {A B : CharSet} (h : ∀ r ∈ A, ∀ r' ∈ B, r.2 < r'.1 ∨ r'.2 < r.1) {c : Char}
    (hc : A.mem c = true) : B.mem c = false := by
  simp only [CharSet.mem, List.any_eq_true, Bool.and_eq_true, decide_eq_true_eq] at hc
  obtain ⟨r, hr, hlow, hhigh⟩ := hc
  rw [Bool.eq_false_iff]
  intro hB
  simp only [CharSet.mem, List.any_eq_true, Bool.and_eq_true, decide_eq_true_eq] at hB
  obtain ⟨r', hr', hlow', hhigh'⟩ := hB
  have := h r hr r' hr'
  omega

theorem Text.blank_apart_wordSet : ∀ r ∈ blank, ∀ r' ∈ wordSet, r.2 < r'.1 ∨ r'.2 < r.1 := by decide +kernel

namespace Path

theorem isNameChar_of_isBlank {c : Char} (h : isBlank c = true) : isNameChar c = false := by
  have hset := CharSet.not_mem_of_apart blank_apart_wordSet h
  have hdash : c ≠ '-' := by
    rintro rfl
    exact absurd h (by decide)
  have hline : c ≠ '_' := by
    rintro rfl
    exact absurd h (by decide)
  have hascii (hc : c.toNat < 128) : c.isAlphanum = false := by
    have hcode : c.toNat < 48 := by
      simp [isBlank, CharSet.mem, blank] at h
      omega
    have hlower : c.isLower = false := by
      rw [Bool.eq_false_iff, Ne, isLower_iff]
      omega
    have hupper : c.isUpper = false := by
      rw [Bool.eq_false_iff, Ne, isUpper_iff]
      omega
    have hdigit : c.isDigit = false := by
      rw [Bool.eq_false_iff, Ne, Char.isDigit_iff_toNat]
      have hzero : '0'.toNat = 48 := rfl
      omega
    show (c.isUpper || c.isLower || c.isDigit) = false
    rw [hupper, hlower, hdigit]
    rfl
  unfold isNameChar isWord
  split
  · simp [hascii ‹_›, hline, hdash]
  · simp [hset, hdash]

theorem isBlank_of_isNameChar {c : Char} (h : isNameChar c = true) : isBlank c = false := by
  cases hc : isBlank c with
  | false => rfl
  | true =>
    rw [isNameChar_of_isBlank hc] at h
    nomatch h

/-! ## The parts of a path -/

/-- The parts of a text between its dots are names: none is empty, and all are made of characters of names. -/
def IsDotted (s : List Char) : Prop := ∀ name ∈ split s, name ≠ [] ∧ ∀ c ∈ name, isNameChar c = true

instance (s : List Char) : Decidable (IsDotted s) :=
  decidable_of_iff ((split s).all fun name => !name.isEmpty && name.all isNameChar) (by simp [IsDotted])

/-- A text goes on with a path, after a character of a name or not. -/
def Continues (started : Bool) (s : List Char) : Prop :=
  (∀ name ∈ split s, ∀ c ∈ name, isNameChar c = true) ∧ (∀ name ∈ (split s).tail, name ≠ []) ∧
    (started = true ∨ s = [] ∨ (split s).head? ≠ some [])

theorem exists_split_cons (s : List Char) : ∃ n ns, split s = n :: ns := by
  unfold split
  split
  · exact ⟨_, _, rfl⟩
  · exact ⟨_, _, rfl⟩
  · split <;> exact ⟨_, _, rfl⟩

theorem split_cons {c : Char} (hc : c ≠ '.') {s n : List Char} {ns : List (List Char)} (h : split s = n :: ns) :
    split (c :: s) = (c :: n) :: ns := by
  rw [split, h]
  exact hc

theorem isNameChar_ne_dot {c : Char} (h : isNameChar c = true) : c ≠ '.' := by
  rintro rfl
  exact absurd h (by decide)

theorem continues_cons_name {started : Bool} {c : Char} {s : List Char} (hc : isNameChar c = true) :
    Continues started (c :: s) ↔ Continues true s := by
  obtain ⟨n, ns, hs⟩ := exists_split_cons s
  simp [Continues, split_cons (isNameChar_ne_dot hc) hs, hs, hc]

theorem continues_cons_dot {started : Bool} {s : List Char} :
    Continues started ('.' :: s) ↔ started = true ∧ s.head?.any isNameChar = true ∧ Continues false s := by
  have hsplit : split ('.' :: s) = [] :: split s := rfl
  cases s with
  | nil => simp [Continues, split]
  | cons c s =>
    obtain ⟨n, ns, hs⟩ := exists_split_cons s
    by_cases hc : c = '.'
    · subst hc
      have hinner : split ('.' :: s) = [] :: split s := rfl
      simp [Continues, hsplit, hinner]
    · simp only [Continues, hsplit, split_cons hc hs, List.mem_cons, forall_eq_or_imp, List.tail_cons, List.head?_cons,
        Option.any_some, ne_eq, not_true_eq_false, reduceCtorEq, not_false_eq_true, Option.some.injEq, or_false,
        or_true, true_and, and_true, List.not_mem_nil, false_imp_iff, implies_true]
      tauto

theorem not_continues_cons {started : Bool} {c : Char} {s : List Char} (hc : isNameChar c = false) (hdot : c ≠ '.') :
    ¬ Continues started (c :: s) := by
  obtain ⟨n, ns, hs⟩ := exists_split_cons s
  simp [Continues, split_cons hdot hs, hc]

/-- A path is told apart from a text after it, if that goes on neither with a name nor with a dot. -/
theorem spanFrom_append {started : Bool} {p rest : List Char} (h : Continues started p)
    (hrest : ∀ c ∈ rest.head?, isNameChar c = false ∧ c ≠ '.') : spanFrom started (p ++ rest) = (p, rest) := by
  induction p generalizing started with
  | nil =>
    cases rest with
    | nil => rfl
    | cons c rest =>
      obtain ⟨hc, hdot⟩ := hrest c rfl
      simp [spanFrom, hc, hdot]
  | cons c p ih =>
    rw [List.cons_append, spanFrom]
    by_cases hc : isNameChar c = true
    · rw [if_pos hc, ih ((continues_cons_name hc).mp h)]
    · by_cases hdot : c = '.'
      · subst hdot
        obtain ⟨rfl, hhead, hp⟩ := continues_cons_dot.mp h
        have hhead' : (p ++ rest).head?.any isNameChar = true := by
          cases p with
          | nil => nomatch hhead
          | cons d p => exact hhead
        rw [if_neg hc, hhead', ih hp]
        rfl
      · exact absurd h (not_continues_cons (by simpa using hc) hdot)

theorem continues_of_spanFrom {started : Bool} {s : List Char} (h : (spanFrom started s).2 = []) :
    Continues started s := by
  induction s generalizing started with
  | nil => simp [Continues, split]
  | cons c s ih =>
    rw [spanFrom] at h
    split at h
    · exact (continues_cons_name ‹_›).mpr (ih h)
    · split at h
      · next hdot =>
        simp only [Bool.and_eq_true, beq_iff_eq] at hdot
        obtain ⟨⟨hstarted, rfl⟩, hhead⟩ := hdot
        exact continues_cons_dot.mpr ⟨hstarted, hhead, ih h⟩
      · nomatch h

theorem isDotted_iff {s : List Char} : IsDotted s ↔ s ≠ [] ∧ Continues false s := by
  obtain ⟨n, ns, hs⟩ := exists_split_cons s
  have hnil : s = [] → n = [] := by
    rintro rfl
    exact (List.cons.inj hs).1.symm
  simp only [IsDotted, Continues, hs, List.mem_cons, forall_eq_or_imp, List.tail_cons, List.head?_cons, ne_eq,
    Option.some.injEq, reduceCtorEq, false_or, forall_and]
  tauto

/-- The test of a path asks for just this. -/
theorem isWellFormed_iff {s : List Char} : isWellFormed s = true ↔ IsDotted s := by
  rw [isDotted_iff, isWellFormed, Bool.and_eq_true, Bool.not_eq_true', List.isEmpty_eq_false_iff, List.isEmpty_iff]
  refine and_congr_right fun _ => ⟨continues_of_spanFrom, fun h => ?_⟩
  have hspan : spanFrom false (s ++ []) = (s, []) := spanFrom_append h fun c hc => nomatch hc
  rw [List.append_nil] at hspan
  rw [span, hspan]

theorem IsDotted.span_append {p rest : List Char} (h : IsDotted p)
    (hrest : ∀ c ∈ rest.head?, isNameChar c = false ∧ c ≠ '.') : span (p ++ rest) = (p, rest) :=
  spanFrom_append (isDotted_iff.mp h).2 hrest

theorem Continues.mem {started : Bool} {s : List Char} (h : Continues started s) {c : Char} (hc : c ∈ s) :
    isNameChar c = true ∨ c = '.' := by
  induction s generalizing started with
  | nil => nomatch hc
  | cons d s ih =>
    by_cases hname : isNameChar d = true
    · rcases List.mem_cons.mp hc with rfl | hc
      · exact .inl hname
      · exact ih ((continues_cons_name hname).mp h) hc
    · by_cases hdot : d = '.'
      · subst hdot
        rcases List.mem_cons.mp hc with rfl | hc
        · exact .inr rfl
        · exact ih (continues_cons_dot.mp h).2.2 hc
      · exact absurd h (not_continues_cons (by simpa using hname) hdot)

theorem IsDotted.mem {p : List Char} (h : IsDotted p) {c : Char} (hc : c ∈ p) : isNameChar c = true ∨ c = '.' :=
  (isDotted_iff.mp h).2.mem hc

theorem IsDotted.not_isBlank {p : List Char} (h : IsDotted p) {c : Char} (hc : c ∈ p) : isBlank c = false := by
  rcases h.mem hc with hname | rfl
  · exact isBlank_of_isNameChar hname
  · decide

theorem IsDotted.ne_nil {p : List Char} (h : IsDotted p) : p ≠ [] := (isDotted_iff.mp h).1

/-- A path is trimmed, so trimming a text after it takes off the end of that text only. -/
theorem IsDotted.trim_append {p : List Char} (h : IsDotted p) (s : List Char) : trim (p ++ s) = p ++ trimEnd s := by
  have hstart : trimStart (p ++ s) = p ++ s := by
    obtain ⟨c, r, rfl⟩ := List.exists_cons_of_ne_nil h.ne_nil
    exact trimStart_cons (h.not_isBlank List.mem_cons_self) (r ++ s)
  rcases List.eq_nil_or_concat p with rfl | ⟨r, c, rfl⟩
  · exact absurd rfl h.ne_nil
  · rw [trim, hstart, List.concat_eq_append, List.append_assoc, List.append_assoc, List.singleton_append,
      List.singleton_append, trimEnd_append_cons (h.not_isBlank (by simp))]

theorem IsDotted.ne_sign {p : List Char} (h : IsDotted p) {c : Char} (hc : c ∈ p) : c ≠ '=' := by
  rintro rfl
  exact absurd (h.mem hc) (by decide)

/-- Writing takes the names of a path as they stand, as reading does. -/
theorem trimmedNames_eq {path : String} (h : IsDotted path.toList) : trimmedNames path = names path := by
  unfold trimmedNames names
  rw [List.map_map]
  refine List.map_congr_left fun name hname => ?_
  show String.ofList (trim (String.ofList name).toList) = String.ofList name
  rw [String.toList_ofList, trim_of_not_isBlank fun c hc => isBlank_of_isNameChar ((h name hname).2 c hc)]

end Path

end Runbook
