import Runbook.Json.Quote
import Runbook.Json.Text

/-!
# Strings are read back

A string is written between quotes, and what would end it or may not stand in it is written after a backslash. So it is
read back whole, whatever stands after it.

* `readQuoted_escape` : each character is read back from its escape;
* `readString_stringChars` : so is a string from between its quotes;
* `stringChars_append_inj` : its text determines the string, also where other texts follow.
-/

namespace Runbook.Json

variable {c : Char} {rest : List Char}

/-! ## Characters -/

theorem hexValue?_digitChar : ∀ d < 16, hexValue? (Nat.digitChar d) = some d := by decide

/-- The hexadecimal digits of a number below 32 are read back. -/
theorem readUnits_hex {n : Nat} (hn : n < 32) (rest : List Char) :
    readUnits ('0' :: '0' :: (if n < 16 then '0' else '1') :: Nat.digitChar (n % 16) :: rest) =
      .ok (Char.ofNat n, rest) := by
  have hhigh : hexValue? (if n < 16 then '0' else '1') = some (n / 16) := by
    split
    · rw [Nat.div_eq_of_lt ‹_›]
      rfl
    · rw [show n / 16 = 1 by omega]
      rfl
  have hlow := hexValue?_digitChar (n % 16) (Nat.mod_lt n (by decide))
  have hfour : hexFour ('0' :: '0' :: (if n < 16 then '0' else '1') :: Nat.digitChar (n % 16) :: rest) =
      .ok (n, rest) := by
    have hzero : hexValue? '0' = some 0 := rfl
    simp only [hexFour, hhigh, hlow, hzero]
    congr 2
    omega
  have hlead : isLeading n = false := by simp [isLeading]; omega
  have htrail : isTrailing n = false := by simp [isTrailing]; omega
  simp [readUnits, hfour, hlead, htrail, bind, Except.bind]

/-- A character that is not escaped may stand in a string. -/
theorem readQuoted_plain (hquote : c ≠ '"') (hback : c ≠ '\\') (hcontrol : ¬ c.toNat < 32) (fuel : Nat)
    (taken : List Char) : readQuoted readEscape (fuel + 1) taken (c :: rest) =
      readQuoted readEscape fuel (c :: taken) rest := by
  rw [readQuoted, if_neg (by simpa using hquote), if_neg (by simpa using hback), if_neg hcontrol]

theorem readQuoted_backslash {s : List Char} (h : readEscape s = .ok (c, rest)) (fuel : Nat) (taken : List Char) :
    readQuoted readEscape (fuel + 1) taken ('\\' :: s) = readQuoted readEscape fuel (c :: taken) rest := by
  rw [readQuoted, if_neg (by decide), if_pos (by decide), h]
  rfl

/-- Each character is read back from its escape. -/
theorem readQuoted_escape (c : Char) (fuel : Nat) (taken rest : List Char) :
    readQuoted readEscape (fuel + 1) taken (escape c ++ rest) = readQuoted readEscape fuel (c :: taken) rest := by
  unfold escape
  split
  case h_8 hquote hback _ _ _ _ _ =>
    split
    · next hcontrol =>
      refine readQuoted_backslash ?_ fuel taken
      have hread := readUnits_hex hcontrol rest
      rwa [Char.ofNat_toNat] at hread
    · next hcontrol => exact readQuoted_plain hquote hback hcontrol fuel taken
  all_goals exact readQuoted_backslash rfl fuel taken

/-! ## Strings -/

theorem readQuoted_flatMap (cs : List Char) {fuel : Nat} (h : cs.length < fuel) (taken rest : List Char) :
    readQuoted readEscape fuel taken (cs.flatMap escape ++ '"' :: rest) =
      .ok (String.ofList (taken.reverse ++ cs), rest) := by
  induction cs generalizing fuel taken with
  | nil =>
    obtain ⟨fuel, rfl⟩ : ∃ n, fuel = n + 1 := ⟨fuel - 1, by omega⟩
    rw [List.append_nil]
    rfl
  | cons c cs ih =>
    obtain ⟨fuel, rfl⟩ : ∃ n, fuel = n + 1 := ⟨fuel - 1, by omega⟩
    rw [List.flatMap_cons, List.append_assoc, readQuoted_escape, ih (by simpa using h)]
    simp

theorem escape_ne_nil (c : Char) : escape c ≠ [] := by
  unfold escape
  split
  case h_8 => split <;> exact List.cons_ne_nil _ _
  all_goals exact List.cons_ne_nil _ _

theorem length_le_flatMap (cs : List Char) : cs.length ≤ (cs.flatMap escape).length := by
  induction cs with
  | nil => exact Nat.le_refl 0
  | cons c cs ih =>
    have hc := List.length_pos_iff.mpr (escape_ne_nil c)
    rw [List.flatMap_cons, List.length_append, List.length_cons]
    omega

/-- **A string is read back from its text**, and nothing of what follows it. -/
theorem readString_stringChars (s : String) (rest : List Char) :
    readString ((stringChars s ++ rest).drop 1) = .ok (s, rest) := by
  have htext : (stringChars s ++ rest).drop 1 = s.toList.flatMap escape ++ '"' :: rest := by simp [stringChars]
  have hlength := length_le_flatMap s.toList
  rw [htext, readString, readQuoted_flatMap _ (by rw [List.length_append]; omega)]
  simp

/-- The text of a string determines it, also where other texts follow. -/
theorem stringChars_append_inj {s t : String} {r r' : List Char} (h : stringChars s ++ r = stringChars t ++ r') :
    s = t ∧ r = r' := by
  have hread : Except.ok (s, r) = Except.ok (ε := Fault) (t, r') := by
    rw [← readString_stringChars s r, h, readString_stringChars]
  exact Prod.mk.inj (Except.ok.inj hread)

end Runbook.Json
