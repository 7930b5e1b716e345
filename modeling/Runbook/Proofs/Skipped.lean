import Runbook.Proofs.Representable

/-!
# Values of JSON text that are skipped

Skipping a value checks less than reading it: code units need not form characters, and numbers may have any size. But what
can be read can be skipped, and ends at the same place.

* `skipEscape_of_readEscape`, `skipString_of_readString` : escapes and strings;
* `skipScalar_of_readScalar`, `skipValue_of_scalar` : values that are neither lists nor objects.
-/

namespace Runbook.Json

/-! ## Strings -/

variable {s rest : List Char} {c : Char}

theorem length_of_hexFour {n : Nat} (h : hexFour s = .ok (n, rest)) : rest.length < s.length := by
  unfold hexFour at h
  split at h
  · split at h
    · cases h
      simp only [List.length_cons]
      omega
    · nomatch h
  · split at h <;> nomatch h

theorem length_of_skipEscape (h : skipEscape s = .ok (c, rest)) : rest.length < s.length := by
  unfold skipEscape at h
  split at h
  · nomatch h
  · obtain ⟨_, hfour, heq⟩ := map_eq_ok.mp h
    cases heq
    exact Nat.lt_succ_of_lt (length_of_hexFour hfour)
  · split at h
    · cases h
      exact Nat.lt_succ_self _
    · nomatch h

/-- An escape that is read is skipped as one escape, or as two if it stands for a character in two code units. -/
theorem skipEscape_of_readEscape (h : readEscape s = .ok (c, rest)) : (∃ l, skipEscape s = .ok (l, rest)) ∨
    ∃ l s' l', skipEscape s = .ok (l, '\\' :: s') ∧ skipEscape s' = .ok (l', rest) := by
  unfold readEscape at h
  split at h
  · nomatch h
  · unfold readUnits at h
    obtain ⟨⟨first, s'⟩, hfirst, h⟩ := bind_eq_ok.mp h
    dsimp only at h
    split at h
    · nomatch h
    split at h
    · cases h
      exact .inl ⟨'u', by rw [skipEscape, hfirst]; rfl⟩
    split at h
    · nomatch h
    · nomatch h
    · next s'' _ _ =>
      obtain ⟨⟨second, s₁⟩, hsecond, h⟩ := bind_eq_ok.mp h
      dsimp only at h
      split at h
      · obtain ⟨-, rfl⟩ := Prod.mk.inj (Except.ok.inj h)
        exact .inr ⟨'u', _, 'u', by rw [skipEscape, hfirst]; rfl, by rw [skipEscape, hsecond]; rfl⟩
      · nomatch h
    · nomatch h
  · next hu =>
    split at h
    · next l hl =>
      cases h
      exact .inl ⟨_, by rw [skipEscape, hl]; exact hu⟩
    · nomatch h

theorem skipQuoted_of_readQuoted {fuel n : Nat} {taken taken' : List Char} {t : String}
    (h : readQuoted readEscape fuel taken s = .ok (t, rest)) (hn : s.length < n) :
    ∃ t', readQuoted skipEscape n taken' s = .ok (t', rest) := by
  induction fuel generalizing s taken taken' n with
  | zero => nomatch h
  | succ fuel ih =>
    cases s with
    | nil => nomatch h
    | cons c s =>
      obtain ⟨n, rfl⟩ : ∃ m, n = m + 1 := ⟨n - 1, by omega⟩
      rw [readQuoted] at h ⊢
      rw [List.length_cons] at hn
      split at h
      · next hquote =>
        cases h
        exact ⟨_, if_pos hquote⟩
      next hquote =>
      rw [if_neg hquote]
      split at h
      · next hback =>
        rw [if_pos hback]
        obtain ⟨⟨l, s'⟩, hescape, h⟩ := bind_eq_ok.mp h
        rcases skipEscape_of_readEscape hescape with ⟨l', hskip⟩ | ⟨l', s₁, l'', hskip, hskip'⟩
        · have hlength := length_of_skipEscape hskip
          rw [hskip]
          exact ih h (by omega)
        · -- the second half of a character takes a turn of its own
          have hlength := length_of_skipEscape hskip
          have hlength' := length_of_skipEscape hskip'
          rw [List.length_cons] at hlength
          obtain ⟨n, rfl⟩ : ∃ m, n = m + 1 := ⟨n - 1, by omega⟩
          rw [hskip]
          show ∃ t', readQuoted skipEscape (n + 1) _ ('\\' :: s₁) = _
          rw [readQuoted, if_neg (by decide), if_pos (by decide), hskip']
          exact ih h (by omega)
      next hback =>
      rw [if_neg hback]
      split at h
      · nomatch h
      next hcontrol =>
      rw [if_neg hcontrol]
      exact ih h (by omega)

theorem skipString_of_readString {t : String} (h : readString s = .ok (t, rest)) : skipString s = .ok rest := by
  obtain ⟨t', ht'⟩ := skipQuoted_of_readQuoted h (Nat.lt_succ_self s.length)
  rw [skipString, ht']
  rfl

/-! ## Scalars -/

/-- A scalar that is read is skipped up to where it ends, and is neither a list nor an object. -/
theorem skipScalar_of_readScalar {v : Json} (h : readScalar s = .ok (v, rest)) :
    skipScalar s = .ok rest ∧ (∀ items, v ≠ .arr items) ∧ ∀ fields, v ≠ .obj fields := by
  have hskip (c : Char) (s : List Char) (hc : c ≠ '"') (hd : (c == '-' || c.isDigit) = false)
      (hread : readScalar (c :: s) = .ok (v, rest)) : skipScalar (c :: s) = .ok rest := by
    rw [skipScalar, if_neg (by rw [hd]; decide), hread]
    · rfl
    · exact hc
  have hread := h
  unfold readScalar at h
  split at h
  · nomatch h
  · obtain ⟨_, -, heq⟩ := map_eq_ok.mp h
    cases heq
    exact ⟨hskip _ _ (by decide) (by decide) hread, nofun, nofun⟩
  · obtain ⟨_, -, heq⟩ := map_eq_ok.mp h
    cases heq
    exact ⟨hskip _ _ (by decide) (by decide) hread, nofun, nofun⟩
  · obtain ⟨_, -, heq⟩ := map_eq_ok.mp h
    cases heq
    exact ⟨hskip _ _ (by decide) (by decide) hread, nofun, nofun⟩
  · obtain ⟨⟨t, _⟩, hstring, heq⟩ := map_eq_ok.mp h
    cases heq
    exact ⟨skipString_of_readString hstring, nofun, nofun⟩
  · next hquote =>
    split at h
    · next hnumber =>
      obtain ⟨⟨n, _⟩, hn, heq⟩ := map_eq_ok.mp h
      cases heq
      refine ⟨?_, nofun, nofun⟩
      rw [skipScalar, if_pos hnumber]
      · unfold readNumber at hn
        obtain ⟨⟨numeral, _⟩, hnumeral, hn⟩ := bind_eq_ok.mp hn
        dsimp only at hn
        split at hn
        · cases hn
          rw [hnumeral]
        · nomatch hn
      · exact hquote
    · nomatch h

/-- A value that is neither a list nor an object is skipped as a scalar. -/
theorem skipValue_of_scalar (fuel : Nat) (hlist : ∀ s', skipGap s ≠ '[' :: s')
    (hobject : ∀ s', skipGap s ≠ '\x7b' :: s') : skipValue (fuel + 1) s = skipScalar (skipGap s) := by
  rw [skipValue]
  split
  · next heq => exact absurd heq (hlist _)
  · next heq => exact absurd heq (hobject _)
  · rfl

end Runbook.Json
