/-!
# Sets of characters

A set of characters is a list of closed ranges of code points.

* `CharSet.mem` : membership, one scan of the ranges;
* `blank` : the characters with the White_Space property, and `isBlank`;
* `trimStart`, `trimEnd`, `trim` : a text without the blanks at one end or at both;
* `AllBlank` : nothing but blanks; `exists_trim`, `trim_append` : trimming takes blanks off, and all of them.
-/

namespace Runbook.Text

/-- Closed ranges of code points. -/
abbrev CharSet := List (Nat × Nat)

/-- Whether the set holds a character. -/
def CharSet.mem (set : CharSet) (c : Char) : Bool :=
  set.any fun r => r.1 ≤ c.toNat && c.toNat ≤ r.2

/-! ## Blanks -/

/-- The characters that separate words: Unicode's White_Space property, 25 characters. -/
def blank : CharSet :=
  [(0x09, 0x0D), (0x20, 0x20), (0x85, 0x85), (0xA0, 0xA0), (0x1680, 0x1680), (0x2000, 0x200A),
   (0x2028, 0x2029), (0x202F, 0x202F), (0x205F, 0x205F), (0x3000, 0x3000)]

/-- Whether a character separates words. -/
def isBlank (c : Char) : Bool := blank.mem c

/-- A text without its leading blanks. -/
def trimStart (s : List Char) : List Char := s.dropWhile isBlank

/-- A text without its trailing blanks. -/
def trimEnd (s : List Char) : List Char := (s.reverse.dropWhile isBlank).reverse

/-- A text without the blanks around it. -/
def trim (s : List Char) : List Char := trimEnd (trimStart s)

/-- A string without the blanks around it. -/
def trimString (s : String) : String := String.ofList (trim s.toList)

/-- The first character of a trimmed text is no blank. -/
theorem isBlank_head_trimStart {s : List Char} {c : Char} {r : List Char}
    (h : trimStart s = c :: r) : isBlank c = false := by
  have := List.head?_dropWhile_not isBlank s
  rw [trimStart] at h
  rw [h] at this
  simpa using this

/-! ## Trimming and concatenation -/

/-- Nothing but blanks. -/
def AllBlank (s : List Char) : Prop := ∀ c ∈ s, isBlank c = true

instance (s : List Char) : Decidable (AllBlank s) := List.decidableBAll _ _

@[simp] theorem allBlank_nil : AllBlank [] := fun _ h => nomatch h

@[simp] theorem allBlank_cons {c : Char} {s : List Char} : AllBlank (c :: s) ↔ isBlank c = true ∧ AllBlank s :=
  List.forall_mem_cons

@[simp] theorem allBlank_append {s t : List Char} : AllBlank (s ++ t) ↔ AllBlank s ∧ AllBlank t :=
  List.forall_mem_append

theorem trimStart_append {a : List Char} (ha : AllBlank a) (s : List Char) : trimStart (a ++ s) = trimStart s :=
  List.dropWhile_append_of_pos ha

theorem trimStart_cons {c : Char} (hc : isBlank c = false) (s : List Char) : trimStart (c :: s) = c :: s := by
  simp [trimStart, hc]

/-- What is taken off at the start is blank. -/
theorem exists_trimStart (s : List Char) : ∃ a, AllBlank a ∧ s = a ++ trimStart s :=
  ⟨s.takeWhile isBlank, fun _ hc => List.all_eq_true.mp List.all_takeWhile _ hc,
    List.takeWhile_append_dropWhile.symm⟩

theorem trimStart_eq_nil {s : List Char} : trimStart s = [] ↔ AllBlank s := by
  constructor
  · intro h
    obtain ⟨a, ha, hs⟩ := exists_trimStart s
    rw [h, List.append_nil] at hs
    exact hs ▸ ha
  · intro h
    have := trimStart_append h []
    rwa [List.append_nil] at this

theorem trimEnd_append (s : List Char) {b : List Char} (hb : AllBlank b) : trimEnd (s ++ b) = trimEnd s := by
  rw [trimEnd, List.reverse_append, List.dropWhile_append_of_pos fun c hc => hb c (List.mem_reverse.mp hc), trimEnd]

/-- What is taken off at the end is blank. -/
theorem exists_trimEnd (s : List Char) : ∃ b, AllBlank b ∧ s = trimEnd s ++ b := by
  obtain ⟨b, hb, hs⟩ := exists_trimStart s.reverse
  refine ⟨b.reverse, fun c hc => hb c (List.mem_reverse.mp hc), ?_⟩
  rw [trimEnd, ← List.reverse_append, ← trimStart, ← hs, List.reverse_reverse]

/-- Trimming the end stops at a character that is no blank. -/
theorem trimEnd_append_cons {c : Char} (hc : isBlank c = false) (s t : List Char) :
    trimEnd (s ++ c :: t) = s ++ c :: trimEnd t := by
  rw [trimEnd, List.reverse_append, List.reverse_cons, List.append_assoc, List.dropWhile_append]
  by_cases ht : t.reverse.dropWhile isBlank = []
  · simp [ht, trimEnd, hc]
  · simp [ht, trimEnd]

/-- What trimming takes off on either side is blank. -/
theorem exists_trim (s : List Char) : ∃ a b, AllBlank a ∧ AllBlank b ∧ s = a ++ trim s ++ b := by
  obtain ⟨a, ha, hs⟩ := exists_trimStart s
  obtain ⟨b, hb, ht⟩ := exists_trimEnd (trimStart s)
  refine ⟨a, b, ha, hb, ?_⟩
  rw [List.append_assoc, trim, ← ht, ← hs]

/-- Blanks on either side do not count. -/
theorem trim_append {a b : List Char} (ha : AllBlank a) (s : List Char) (hb : AllBlank b) :
    trim (a ++ s ++ b) = trim s := by
  rw [List.append_assoc, trim, trimStart_append ha, trim]
  obtain ⟨d, hd, hs⟩ := exists_trimStart s
  cases hr : trimStart s with
  | nil =>
    rw [hr, List.append_nil] at hs
    subst hs
    rw [trimStart_append hd, trimStart_eq_nil.mpr hb]
  | cons c r =>
    have hc := isBlank_head_trimStart hr
    rw [hs, hr, List.append_assoc, trimStart_append hd, List.cons_append, trimStart_cons hc, ← List.cons_append,
      trimEnd_append _ hb]

theorem trim_trimStart (s : List Char) : trim (trimStart s) = trim s := by
  obtain ⟨a, ha, hs⟩ := exists_trimStart s
  have := trim_append ha (trimStart s) allBlank_nil
  rwa [List.append_nil, ← hs, eq_comm] at this

theorem trim_trimEnd (s : List Char) : trim (trimEnd s) = trim s := by
  obtain ⟨b, hb, hs⟩ := exists_trimEnd s
  have := trim_append allBlank_nil (trimEnd s) hb
  rwa [List.nil_append, ← hs, eq_comm] at this

theorem trim_trim (s : List Char) : trim (trim s) = trim s := by
  have h := trim_trimEnd (trimStart s)
  rwa [trim_trimStart] at h

theorem mem_of_mem_trim {s : List Char} {c : Char} (h : c ∈ trim s) : c ∈ s := by
  obtain ⟨a, b, -, -, hs⟩ := exists_trim s
  rw [hs]
  simp [h]

theorem trim_eq_nil {s : List Char} : trim s = [] ↔ AllBlank s := by
  constructor
  · intro h
    obtain ⟨a, b, ha, hb, hs⟩ := exists_trim s
    rw [hs, h]
    simp [ha, hb]
  · intro h
    rw [trim, trimStart_eq_nil.mpr h]
    rfl

theorem trimStart_trimEnd_eq_nil {s : List Char} : trimStart (trimEnd s) = [] ↔ AllBlank s := by
  obtain ⟨b, hb, hs⟩ := exists_trimEnd s
  calc trimStart (trimEnd s) = [] ↔ AllBlank (trimEnd s) := trimStart_eq_nil
    _ ↔ AllBlank (trimEnd s ++ b) := by simp [hb]
    _ ↔ AllBlank s := by rw [← hs]

end Runbook.Text
