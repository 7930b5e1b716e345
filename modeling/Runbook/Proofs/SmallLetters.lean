import Runbook.Text.Lower

/-!
# How a text becomes small

Each character has a small form of its own, which for one letter depends on the text around it and for another is two
characters. Blanks and colons separate a phrase from what follows it; they stay what they are, and nothing else becomes
one of them.

* `smallAt` : the small form of a character where it stands; `lowerFrom_append` : a text made small part by part;
* `Separates` : blanks and colons; `smallAt_of_separates`, `not_separates_of_mem_smallAt` : they stay, and none is new;
* `exists_split_of_lowerFrom` : if a small text is cut before a blank, a colon or its end, the text is cut there too;
* `eq_of_length_lower` : no two beginnings of a text have equally long small forms.
-/

namespace Runbook.Text

variable {before before' a b s f t rest rest' : List Char} {c d : Char}

/-! ## One character -/

/-- The small form of a character between the characters before it, the nearest first, and after it. -/
def smallAt (before : List Char) (c : Char) (rest : List Char) : List Char :=
  if c == 'Σ' then (if meetsCased before && !meetsCased rest then ['ς'] else ['σ']) else smallLetters c

theorem lowerFrom_cons (before : List Char) (c : Char) (rest : List Char) :
    lowerFrom before (c :: rest) = smallAt before c rest ++ lowerFrom (c :: before) rest := rfl

/-- How long the small form is does not depend on where the character stands. -/
theorem length_smallAt : (smallAt before c rest).length = (smallAt before' c rest').length := by
  unfold smallAt
  split
  · split <;> split <;> rfl
  · rfl

theorem smallLetters_ne_nil (c : Char) : smallLetters c ≠ [] := by
  unfold smallLetters
  split
  · exact List.cons_ne_nil _ _
  · split
    · exact List.cons_ne_nil _ _
    · split <;> exact List.cons_ne_nil _ _

theorem smallAt_ne_nil : smallAt before c rest ≠ [] := by
  unfold smallAt
  split
  · split <;> exact List.cons_ne_nil _ _
  · exact smallLetters_ne_nil c

/-! ## Blanks and colons -/

/-- Blanks and colons, which separate a phrase from what follows it. -/
def Separates (c : Char) : Prop := isBlank c = true ∨ c = ':'

instance (c : Char) : Decidable (Separates c) := inferInstanceAs (Decidable (_ ∨ _))

/-- The blanks and the colon as ranges. -/
def separators : CharSet := (0x3A, 0x3A) :: blank

theorem separates_iff : Separates c ↔ separators.mem c = true := by
  have hcolon : c = ':' ↔ 0x3A ≤ c.toNat ∧ c.toNat ≤ 0x3A := by
    have hcode : ':'.toNat = 0x3A := rfl
    rw [← Char.toNat_inj, hcode]
    omega
  rw [Separates, hcolon, or_comm]
  simp [separators, isBlank, CharSet.mem]

/-- No capital beyond ASCII is a separator, nor is its small letter. -/
theorem capitalRuns_apart : ∀ r ∈ capitalRuns, ∀ b ∈ separators, (r.last < b.1 ∨ b.2 < r.first) ∧
    ((r.last : Int) + r.shift < b.1 ∨ (b.2 : Int) < r.first + r.shift) := by decide +kernel

/-- What holds of the first 128 characters holds of all ASCII characters. -/
theorem forall_ascii {p : Char → Prop} (hp : ∀ n : Fin 128, p (Char.ofNat n)) : ∀ c : Char, c.toNat < 128 → p c := by
  intro c h
  have hc := hp ⟨c.toNat, h⟩
  rwa [Char.ofNat_toNat] at hc

theorem ascii_separates : ∀ c : Char, c.toNat < 128 →
    (Separates c → c.toLower = c) ∧ (¬ Separates c → ¬ Separates c.toLower) :=
  forall_ascii (by decide +kernel)

theorem bounds_of_find? {n : Nat} {r : LetterRun} (h : capitalRuns.find? (·.mem n) = some r) :
    r ∈ capitalRuns ∧ r.first ≤ n ∧ n ≤ r.last := by
  have hmem := List.find?_some h
  simp only [LetterRun.mem, Bool.and_eq_true, decide_eq_true_eq] at hmem
  exact ⟨List.mem_of_find?_eq_some h, hmem.1⟩

/-- A number that is no character's stands for the character 0. -/
theorem toNat_ofNat_cases (n : Nat) : (Char.ofNat n).toNat = n ∨ (Char.ofNat n).toNat = 0 := by
  by_cases hn : n.isValidChar
  · exact .inl (by rw [Char.ofNat, dif_pos hn]; rfl)
  · exact .inr (by rw [Char.ofNat, dif_neg hn]; rfl)

theorem smallLetters_of_separates (h : Separates c) : smallLetters c = [c] := by
  unfold smallLetters
  split
  · next hascii => rw [(ascii_separates c hascii).1 h]
  · split
    · next hdot =>
      rw [beq_iff_eq] at hdot
      subst hdot
      exact absurd h (by decide)
    · split
      · next r hr =>
        -- the character would be a capital of a run
        obtain ⟨hrun, hlow, hhigh⟩ := bounds_of_find? hr
        obtain ⟨b, hb, hblow, hbhigh⟩ : ∃ b ∈ separators, b.1 ≤ c.toNat ∧ c.toNat ≤ b.2 := by
          simpa [CharSet.mem] using separates_iff.mp h
        have := (capitalRuns_apart r hrun b hb).1
        omega
      · rfl

theorem not_separates_of_mem_smallLetters (h : ¬ Separates c) (hd : d ∈ smallLetters c) : ¬ Separates d := by
  unfold smallLetters at hd
  split at hd
  · next hascii =>
    obtain rfl := List.mem_singleton.mp hd
    exact (ascii_separates c hascii).2 h
  · split at hd
    · rcases List.mem_cons.mp hd with rfl | hd
      · decide
      · obtain rfl := List.mem_singleton.mp hd
        decide
    · split at hd
      · next r hr =>
        obtain ⟨hrun, hlow, hhigh⟩ := bounds_of_find? hr
        obtain rfl := List.mem_singleton.mp hd
        rw [separates_iff, CharSet.mem, List.any_eq_true]
        rintro ⟨b, hb, hmem⟩
        simp only [Bool.and_eq_true, decide_eq_true_eq] at hmem
        have hapart := (capitalRuns_apart r hrun b hb).2
        have hpos : ∀ b ∈ separators, 0 < b.1 := by decide
        have := hpos b hb
        have := toNat_ofNat_cases (c.toNat + r.shift).toNat
        omega
      · obtain rfl := List.mem_singleton.mp hd
        exact h

theorem smallAt_of_separates (h : Separates c) : smallAt before c rest = [c] := by
  have hsigma : c ≠ 'Σ' := by
    rintro rfl
    exact absurd h (by decide)
  rw [smallAt, if_neg (by simpa using hsigma), smallLetters_of_separates h]

theorem not_separates_of_mem_smallAt (h : ¬ Separates c) (hd : d ∈ smallAt before c rest) : ¬ Separates d := by
  unfold smallAt at hd
  split at hd
  · split at hd <;> obtain rfl := List.mem_singleton.mp hd <;> decide
  · exact not_separates_of_mem_smallLetters h hd

/-! ## Texts -/

theorem lowerFrom_ne_nil (h : s ≠ []) : lowerFrom before s ≠ [] := by
  obtain ⟨c, s, rfl⟩ := List.exists_cons_of_ne_nil h
  rw [lowerFrom_cons]
  exact List.append_ne_nil_of_left_ne_nil smallAt_ne_nil _

/-- The second part of a text becomes small as what follows the first; the first as long as it would alone. -/
theorem lowerFrom_append (before a b : List Char) : ∃ w, w.length = (lowerFrom before a).length ∧
    lowerFrom before (a ++ b) = w ++ lowerFrom (a.reverse ++ before) b := by
  induction a generalizing before with
  | nil => exact ⟨[], rfl, rfl⟩
  | cons c a ih =>
    obtain ⟨w, hlen, heq⟩ := ih (c :: before)
    refine ⟨smallAt before c (a ++ b) ++ w, ?_, ?_⟩
    · rw [lowerFrom_cons, List.length_append, List.length_append, hlen, length_smallAt]
    · rw [List.cons_append, lowerFrom_cons, heq]
      simp

/-- A small text that is cut before a separator or its end comes from a text that is cut there. -/
theorem exists_split_of_lowerFrom (h : lowerFrom before s = f ++ t) (ht : ∀ d ∈ t.head?, Separates d) :
    ∃ a rest, s = a ++ rest ∧ t = lowerFrom (a.reverse ++ before) rest ∧ ∀ c ∈ rest.head?, Separates c := by
  induction s generalizing before f with
  | nil =>
    obtain ⟨-, rfl⟩ := List.append_eq_nil_iff.mp h.symm
    exact ⟨[], [], rfl, rfl, fun c hc => nomatch hc⟩
  | cons c s ih =>
    cases f with
    | nil =>
      refine ⟨[], c :: s, rfl, h.symm, fun c' hc' => ?_⟩
      obtain rfl := Option.some.inj hc'
      refine Classical.byContradiction fun hsep => ?_
      obtain ⟨d, small, hsmall⟩ : ∃ d small, smallAt before c s = d :: small :=
        List.exists_cons_of_ne_nil smallAt_ne_nil
      rw [lowerFrom_cons, hsmall, List.nil_append] at h
      exact not_separates_of_mem_smallAt hsep (hsmall ▸ List.mem_cons_self) (ht d (by rw [← h]; rfl))
    | cons e f =>
      rw [lowerFrom_cons] at h
      rcases List.append_eq_append_iff.mp h with ⟨more, hf, hrest⟩ | ⟨more, hsmall, hrest⟩
      · obtain ⟨a, rest, rfl, hrest', hhead⟩ := ih hrest
        exact ⟨c :: a, rest, rfl, by simpa using hrest', hhead⟩
      · cases more with
        | nil =>
          have hnone : lowerFrom (c :: before) s = [] ++ t := hrest.symm
          obtain ⟨a, rest, rfl, hrest', hhead⟩ := ih hnone
          exact ⟨c :: a, rest, rfl, by simpa using hrest', hhead⟩
        | cons d more =>
          -- the cut would go through the small form of one character, before a separator
          have hd : Separates d := ht d (by rw [hrest]; rfl)
          by_cases hc : Separates c
          · rw [smallAt_of_separates hc] at hsmall
            simp at hsmall
          · exact absurd hd (not_separates_of_mem_smallAt hc (by rw [hsmall]; simp))

/-- A text has one beginning whose small form has a given length. -/
theorem eq_of_length_lower (h : a ++ rest = b ++ rest') (hlen : (lower a).length = (lower b).length) :
    a = b ∧ rest = rest' := by
  have hmore {x y : List Char} (hxy : (lower (x ++ y)).length = (lower x).length) : y = [] := by
    obtain ⟨w, hw, heq⟩ := lowerFrom_append [] x y
    rw [lower, heq, List.length_append, hw, lower] at hxy
    have hnil : lowerFrom (x.reverse ++ []) y = [] := List.length_eq_zero_iff.mp (by omega)
    exact Classical.byContradiction fun hne => lowerFrom_ne_nil hne hnil
  rcases List.append_eq_append_iff.mp h with ⟨more, rfl, rfl⟩ | ⟨more, rfl, rfl⟩
  · obtain rfl := hmore hlen.symm
    simp
  · obtain rfl := hmore hlen
    simp

end Runbook.Text
