import Mathlib.Data.List.Forall2
import Runbook.Text.Phrase

/-!
# How phrases are spelt

* `smallLetter` : the small letter that a character stands for; `sameLetter_eq` : no character stands for two;
* `Spells p w` : `w` is the phrase `p` in some case;
* `dropPhrase?_eq_some` : what is dropped from a text is a spelling of the phrase;
* `dropPhrase?_apart` : a text starts with one phrase only, unless one of two phrases starts with the other.
-/

namespace Runbook.Text

/-! ## Letters -/

theorem isLower_iff {c : Char} : c.isLower = true ↔ 97 ≤ c.toNat ∧ c.toNat ≤ 122 := by
  delta Char.isLower
  simp [UInt32.le_iff_toNat_le, ← Char.toNat_val]

theorem isUpper_iff {c : Char} : c.isUpper = true ↔ 65 ≤ c.toNat ∧ c.toNat ≤ 90 := by
  delta Char.isUpper
  simp [UInt32.le_iff_toNat_le, ← Char.toNat_val]

/-- The small letter that a character stands for. -/
def smallLetter (c : Char) : Char := if c = 'ſ' then 's' else if c = '\u212a' then 'k' else c.toLower

theorem sameLetter_eq {l c : Char} (hl : l.isLower = true) (h : sameLetter l c = true) : l = smallLetter c := by
  simp only [sameLetter, Bool.or_eq_true, Bool.and_eq_true, beq_iff_eq] at h
  obtain ((rfl | ⟨⟨-, hu⟩, rfl⟩) | ⟨rfl, rfl⟩) | ⟨rfl, rfl⟩ := h
  · have hs : c ≠ 'ſ' := by
      rintro rfl
      exact absurd hl (by decide)
    have hk : c ≠ '\u212a' := by
      rintro rfl
      exact absurd hl (by decide)
    have hu : c.isUpper ≠ true := by
      rw [isLower_iff] at hl
      rw [Ne, isUpper_iff]
      omega
    have hself : c.toLower = c := by
      delta Char.toLower
      exact dif_neg fun h => hu (decide_eq_true h)
    rw [smallLetter, if_neg hs, if_neg hk, hself]
  · have hs : c ≠ 'ſ' := by
      rintro rfl
      exact absurd hu (by decide)
    have hk : c ≠ '\u212a' := by
      rintro rfl
      exact absurd hu (by decide)
    rw [smallLetter, if_neg hs, if_neg hk]
  · rfl
  · rfl

/-- A letter of a phrase is no blank in either case. -/
theorem isBlank_of_sameLetter {l c : Char} (hl : l.isLower = true) (h : sameLetter l c = true) : isBlank c = false := by
  simp only [sameLetter, Bool.or_eq_true, Bool.and_eq_true, beq_iff_eq] at h
  obtain ((rfl | ⟨⟨-, hu⟩, -⟩) | ⟨-, rfl⟩) | ⟨-, rfl⟩ := h
  · rw [isLower_iff] at hl
    simp [isBlank, CharSet.mem, blank]
    omega
  · rw [isUpper_iff] at hu
    simp [isBlank, CharSet.mem, blank]
    omega
  · decide
  · decide

/-! ## Phrases -/

/-- A text is a phrase in some case, letter by letter. -/
def Spells (phrase w : List Char) : Prop := List.Forall₂ (fun l c => sameLetter l c = true) phrase w

/-- What is dropped from a text is a spelling of the phrase. -/
theorem dropPhrase?_eq_some {phrase s r : List Char} :
    dropPhrase? phrase s = some r ↔ ∃ w, Spells phrase w ∧ s = w ++ r := by
  constructor
  · induction phrase generalizing s with
    | nil =>
      intro h
      cases h
      exact ⟨[], .nil, rfl⟩
    | cons l phrase ih =>
      intro h
      cases s with
      | nil => nomatch h
      | cons c s =>
        rw [dropPhrase?] at h
        split at h
        · obtain ⟨w, hw, rfl⟩ := ih h
          exact ⟨c :: w, .cons ‹_› hw, rfl⟩
        · nomatch h
  · rintro ⟨w, hw, rfl⟩
    induction hw with
    | nil => rfl
    | cons hc _ ih => rw [List.cons_append, dropPhrase?, if_pos hc, ih]

/-- A phrase of small letters is spelt by characters that stand for these. -/
theorem Spells.eq_map {phrase w : List Char} (hp : ∀ l ∈ phrase, l.isLower = true) (h : Spells phrase w) :
    phrase = w.map smallLetter := by
  induction h with
  | nil => rfl
  | cons hc _ ih =>
    rw [List.map_cons, ← sameLetter_eq (hp _ List.mem_cons_self) hc,
      ← ih fun l hl => hp l (List.mem_cons_of_mem _ hl)]

/-- A text starts with one phrase only, unless one of two phrases starts with the other. -/
theorem dropPhrase?_apart {p q s r : List Char} (hp : ∀ l ∈ p, l.isLower = true) (hq : ∀ l ∈ q, l.isLower = true)
    (hpq : ¬ p <+: q) (hqp : ¬ q <+: p) (h : dropPhrase? p s = some r) : dropPhrase? q s = none := by
  rw [Option.eq_none_iff_forall_not_mem]
  intro r' h'
  obtain ⟨w, hw, rfl⟩ := dropPhrase?_eq_some.mp h
  obtain ⟨w', hw', heq⟩ := dropPhrase?_eq_some.mp h'
  rw [hw.eq_map hp, hw'.eq_map hq] at hpq hqp
  -- both spellings start the one text, so the shorter one starts the longer one
  rcases List.append_eq_append_iff.mp heq with ⟨d, rfl, -⟩ | ⟨d, rfl, -⟩
  · exact hpq (List.map_append ▸ List.prefix_append _ _)
  · exact hqp (List.map_append ▸ List.prefix_append _ _)

/-- A spelling of a phrase of small letters holds no blank. -/
theorem Spells.not_isBlank {phrase w : List Char} (hp : ∀ l ∈ phrase, l.isLower = true) (h : Spells phrase w) :
    ∀ c ∈ w, isBlank c = false := by
  induction h with
  | nil => exact fun c hc => nomatch hc
  | cons hc _ ih =>
    rw [List.forall_mem_cons]
    exact ⟨isBlank_of_sameLetter (hp _ List.mem_cons_self) hc, ih fun l hl => hp l (List.mem_cons_of_mem _ hl)⟩

end Runbook.Text
