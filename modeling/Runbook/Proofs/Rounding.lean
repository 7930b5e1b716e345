import Mathlib.Algebra.Group.Nat.Defs
import Mathlib.Order.Compare
import Mathlib.Order.Monotone.Basic
import Runbook.Number.Basic

/-!
# The floats nearest to integers

A float keeps 53 leading bits. So rounding leaves small integers as they are, never changes the order of two integers,
and makes two of them one only if both are large and lie close together.

* `roundDiv_mono`, `roundDiv_near` : rounding a quotient to an integer keeps order, and moves by half a step at most;
* `nearestUnits_mono`, `nearestUnits_near` : the same for the float nearest to a whole number;
* `nearestUnits_mul_pow` : a number is rounded alike whether it counts steps or powers of two of steps;
* `Binary64.nearest`, `ofInt_value` : the integer that the float nearest to an integer stands for;
* `Merged`, `Merged.large`, `Merged.close` : two integers with one nearest float; `compare_nearest` : all others keep
  their order.
-/

namespace Runbook

/-! ## Quotients -/

section Quotient

variable {a b den : Nat}

/-- A quotient is rounded up if its rest is more than half a step, or if it is just half and the quotient is odd. -/
theorem roundDiv_eq (a den : Nat) : roundDiv a den =
    if den < 2 * (a % den) ∨ den = 2 * (a % den) ∧ a / den % 2 = 1 then a / den + 1 else a / den := by
  unfold roundDiv
  grind

theorem roundDiv_bounds (a den : Nat) : a / den ≤ roundDiv a den ∧ roundDiv a den ≤ a / den + 1 := by
  rw [roundDiv_eq]
  split <;> omega

theorem roundDiv_one (a : Nat) : roundDiv a 1 = a := by
  rw [roundDiv_eq, Nat.mod_one, Nat.div_one, if_neg (by omega)]

theorem roundDiv_mul_right (a den : Nat) {k : Nat} (hk : 0 < k) : roundDiv (a * k) (den * k) = roundDiv a den := by
  have hscaled (r : Nat) : (den * k < 2 * (r * k) ↔ den < 2 * r) ∧ (den * k = 2 * (r * k) ↔ den = 2 * r) := by
    rw [← Nat.mul_assoc, Nat.mul_lt_mul_right hk, Nat.mul_left_inj hk.ne']
    exact ⟨Iff.rfl, Iff.rfl⟩
  rw [roundDiv_eq, roundDiv_eq, Nat.mul_div_mul_right _ _ hk, Nat.mul_mod_mul_right]
  simp only [(hscaled _).1, (hscaled _).2]

theorem roundDiv_mul_left (a : Nat) {k : Nat} (hk : 0 < k) : roundDiv (a * k) k = a := by
  have hscaled := roundDiv_mul_right a 1 hk
  rwa [Nat.one_mul, roundDiv_one] at hscaled

/-- Rounding keeps order: of two numbers with one quotient the greater has the greater rest. -/
theorem roundDiv_mono (h : a ≤ b) : roundDiv a den ≤ roundDiv b den := by
  rcases (Nat.div_le_div_right h : a / den ≤ b / den).lt_or_eq with hlt | heq
  · have := roundDiv_bounds a den
    have := roundDiv_bounds b den
    omega
  · have hrest : a % den ≤ b % den := by
      have ha := Nat.div_add_mod a den
      have hb := Nat.div_add_mod b den
      rw [heq] at ha
      omega
    rw [roundDiv_eq, roundDiv_eq, heq]
    split <;> split <;> omega

/-- Rounding moves by half a step at most. -/
theorem roundDiv_near (a : Nat) {den : Nat} (h : 0 < den) :
    2 * (roundDiv a den * den) ≤ 2 * a + den ∧ 2 * a ≤ 2 * (roundDiv a den * den) + den := by
  have hdiv : a / den * den + a % den = a := Nat.div_add_mod' a den
  have hmod := Nat.mod_lt a h
  rw [roundDiv_eq]
  split
  · rw [Nat.add_mul, Nat.one_mul]
    omega
  · omega

end Quotient

/-! ## Leading bits -/

namespace Binary64

variable {m n : Nat}

theorem nearestUnits_eq (num den : Nat) : nearestUnits num den =
    if num / den < 2 ^ 53 then roundDiv num den
    else roundDiv num (den * 2 ^ ((num / den).log2 - 52)) * 2 ^ ((num / den).log2 - 52) := rfl

/-- Only the ratio of the two numbers counts. -/
theorem nearestUnits_mul_right (num den : Nat) {k : Nat} (hk : 0 < k) :
    nearestUnits (num * k) (den * k) = nearestUnits num den := by
  rw [nearestUnits_eq, nearestUnits_eq, Nat.mul_div_mul_right _ _ hk, roundDiv_mul_right _ _ hk, Nat.mul_right_comm,
    roundDiv_mul_right _ _ hk]

theorem nearestUnits_of_small (h : n < 2 ^ 53) : nearestUnits n 1 = n := by
  rw [nearestUnits_eq, Nat.div_one, if_pos h, roundDiv_one]

/-- The gap between neighbouring floats at a number of 53 bits or more. -/
def gap (n : Nat) : Nat := 2 ^ (n.log2 - 52)

theorem gap_pos (n : Nat) : 0 < gap n := Nat.two_pow_pos _

theorem nearestUnits_of_large (h : 2 ^ 53 ≤ n) : nearestUnits n 1 = roundDiv n (gap n) * gap n := by
  rw [nearestUnits_eq, Nat.div_one, if_neg (Nat.not_lt.mpr h), Nat.one_mul, gap]

theorem le_log2 (h : 2 ^ 53 ≤ n) : 53 ≤ n.log2 := (Nat.le_log2 (by omega)).mpr h

/-- A number of more than 53 bits lies between two powers of two, each of which is a float. -/
theorem nearestUnits_bounds (h : 2 ^ 53 ≤ n) :
    2 ^ n.log2 ≤ nearestUnits n 1 ∧ nearestUnits n 1 ≤ 2 ^ (n.log2 + 1) := by
  have hlog := le_log2 h
  have hlow : 2 ^ 52 * gap n = 2 ^ n.log2 := by
    rw [gap, ← Nat.pow_add]
    congr 1
    omega
  have hhigh : 2 ^ 53 * gap n = 2 ^ (n.log2 + 1) := by
    rw [gap, ← Nat.pow_add]
    congr 1
    omega
  have hle : roundDiv (2 ^ 52 * gap n) (gap n) ≤ roundDiv n (gap n) :=
    roundDiv_mono (hlow.trans_le (Nat.log2_self_le (by omega)))
  have hge : roundDiv n (gap n) ≤ roundDiv (2 ^ 53 * gap n) (gap n) :=
    roundDiv_mono (hhigh ▸ Nat.lt_log2_self.le)
  rw [roundDiv_mul_left _ (gap_pos n)] at hle hge
  rw [nearestUnits_of_large h, ← hlow, ← hhigh]
  exact ⟨Nat.mul_le_mul_right _ hle, Nat.mul_le_mul_right _ hge⟩

/-- Rounding keeps the order of whole numbers. -/
theorem nearestUnits_mono (h : m ≤ n) : nearestUnits m 1 ≤ nearestUnits n 1 := by
  by_cases hn : n < 2 ^ 53
  · rwa [nearestUnits_of_small hn, nearestUnits_of_small (lt_of_le_of_lt h hn)]
  have hn := Nat.not_lt.mp hn
  by_cases hm : m < 2 ^ 53
  · rw [nearestUnits_of_small hm]
    calc m ≤ 2 ^ 53 := hm.le
      _ ≤ 2 ^ n.log2 := Nat.pow_le_pow_right (by decide) (le_log2 hn)
      _ ≤ nearestUnits n 1 := (nearestUnits_bounds hn).1
  have hm := Nat.not_lt.mp hm
  have hlog : m.log2 ≤ n.log2 := (Nat.le_log2 (by omega)).mpr ((Nat.log2_self_le (by omega)).trans h)
  rcases hlog.lt_or_eq with hlt | heq
  · calc nearestUnits m 1 ≤ 2 ^ (m.log2 + 1) := (nearestUnits_bounds hm).2
      _ ≤ 2 ^ n.log2 := Nat.pow_le_pow_right (by decide) hlt
      _ ≤ nearestUnits n 1 := (nearestUnits_bounds hn).1
  · have hgap : gap m = gap n := by rw [gap, gap, heq]
    rw [nearestUnits_of_large hm, nearestUnits_of_large hn, hgap]
    exact Nat.mul_le_mul_right _ (roundDiv_mono h)

/-- A number of up to 64 bits is moved by half of `2 ^ 11` at most. -/
theorem nearestUnits_near (h : n < 2 ^ 64) :
    2 * nearestUnits n 1 ≤ 2 * n + 2 ^ 11 ∧ 2 * n ≤ 2 * nearestUnits n 1 + 2 ^ 11 := by
  by_cases hn : n < 2 ^ 53
  · rw [nearestUnits_of_small hn]
    omega
  · have hlog : n.log2 < 64 := (Nat.log2_lt (by omega)).mpr h
    have hgap : gap n ≤ 2 ^ 11 := Nat.pow_le_pow_right (by decide) (by omega)
    have hnear := roundDiv_near n (gap_pos n)
    rw [nearestUnits_of_large (Nat.not_lt.mp hn)]
    omega

theorem log2_mul_pow (hn : n ≠ 0) (k : Nat) : (n * 2 ^ k).log2 = n.log2 + k := by
  have hk : 0 < 2 ^ k := Nat.two_pow_pos k
  rw [Nat.log2_eq_iff (Nat.mul_ne_zero hn hk.ne'), Nat.pow_add, Nat.add_right_comm, Nat.pow_add]
  exact ⟨Nat.mul_le_mul_right _ (Nat.log2_self_le hn), Nat.mul_lt_mul_of_pos_right Nat.lt_log2_self hk⟩

/-- A number that counts whole gaps is a float. -/
theorem nearestUnits_of_dvd (h : gap n ∣ n) : nearestUnits n 1 = n := by
  by_cases hn : n < 2 ^ 53
  · exact nearestUnits_of_small hn
  obtain ⟨k, hk⟩ := h
  rw [Nat.mul_comm] at hk
  rw [nearestUnits_of_large (Nat.not_lt.mp hn)]
  calc roundDiv n (gap n) * gap n = roundDiv (k * gap n) (gap n) * gap n := by rw [← hk]
    _ = k * gap n := by rw [roundDiv_mul_left k (gap_pos n)]
    _ = n := hk.symm

/-- Up to `2 ^ 53` steps of one size are a float. -/
theorem nearestUnits_of_steps (h : n ≤ 2 ^ 53) (k : Nat) : nearestUnits (n * 2 ^ k) 1 = n * 2 ^ k := by
  by_cases hn : n = 0
  · rw [hn, Nat.zero_mul, nearestUnits_of_small (Nat.two_pow_pos 53)]
  refine nearestUnits_of_dvd ?_
  rw [gap, log2_mul_pow hn]
  rcases h.lt_or_eq with hlt | rfl
  · have hlog : n.log2 < 53 := (Nat.log2_lt hn).mpr hlt
    exact Nat.dvd_mul_left_of_dvd (Nat.pow_dvd_pow 2 (by omega)) n
  · rw [Nat.log2_two_pow, ← Nat.pow_add]
    exact Nat.pow_dvd_pow 2 (by omega)

/-- A number is rounded alike whether it counts steps or powers of two of steps. -/
theorem nearestUnits_mul_pow (n : Nat) {k : Nat} (hk : 53 ≤ k) :
    nearestUnits (n * 2 ^ k) 1 = nearestUnits n 1 * 2 ^ k := by
  by_cases hsmall : n < 2 ^ 53
  · rw [nearestUnits_of_small hsmall, nearestUnits_of_steps hsmall.le]
  have hn := Nat.not_lt.mp hsmall
  have hlog := le_log2 hn
  have hlarge : 2 ^ 53 ≤ n * 2 ^ k := hn.trans (Nat.le_mul_of_pos_right n (Nat.two_pow_pos k))
  have hsplit : gap (n * 2 ^ k) = gap n * 2 ^ k := by
    rw [gap, gap, log2_mul_pow (by omega), ← Nat.pow_add]
    congr 1
    omega
  rw [nearestUnits_of_large hlarge, nearestUnits_of_large hn, hsplit, roundDiv_mul_right _ _ (Nat.two_pow_pos k),
    Nat.mul_assoc]

/-! ## Integers -/

/-- The integer that the float nearest to an integer stands for. -/
def nearest (n : Int) : Int := if n < 0 then -(nearestUnits n.natAbs 1 : Int) else nearestUnits n.natAbs 1

theorem exists_one : ∃ k, 53 ≤ k ∧ one = 2 ^ k := by
  delta one
  generalize hk : 1074 = k
  exact ⟨k, by omega, rfl⟩

theorem one_pos : 0 < one := by
  obtain ⟨k, -, hk⟩ := exists_one
  exact hk ▸ Nat.two_pow_pos k

theorem ofInt_value (n : Int) : (ofInt n).value = nearest n * one := by
  obtain ⟨k, hlarge, hk⟩ := exists_one
  have hunits : nearestUnits (n.natAbs * one) 1 = nearestUnits n.natAbs 1 * one := by
    rw [hk, nearestUnits_mul_pow n.natAbs hlarge]
  unfold ofInt value nearest
  rw [hunits, Int.natCast_mul]
  by_cases hn : n < 0
  · rw [if_pos hn, if_pos (decide_eq_true hn), Int.neg_mul]
  · rw [if_neg hn, if_neg (by rwa [decide_eq_true_eq])]

theorem nearest_mono {a b : Int} (h : a ≤ b) : nearest a ≤ nearest b := by
  unfold nearest
  split <;> split
  · have := nearestUnits_mono (show b.natAbs ≤ a.natAbs by omega)
    omega
  · omega
  · omega
  · have := nearestUnits_mono (show a.natAbs ≤ b.natAbs by omega)
    omega

/-- Integers of up to 53 bits are floats themselves. -/
theorem nearest_of_small {a : Int} (h : a.natAbs < 2 ^ 53) : nearest a = a := by
  unfold nearest
  rw [nearestUnits_of_small h]
  split <;> omega

end Binary64

/-! ## Integers with one nearest float -/

/-- Two integers have one nearest float. -/
def Merged (a b : Int) : Prop := a ≠ b ∧ Binary64.nearest a = Binary64.nearest b

theorem Merged.symm {a b : Int} (h : Merged a b) : Merged b a := ⟨h.1.symm, h.2.symm⟩

/-- Such integers have more than 53 bits, and lie close together. -/
theorem Merged.large {a b : Int} (h : Merged a b) : 2 ^ 53 ≤ a.natAbs := by
  by_contra ha
  have hself := Binary64.nearest_of_small (Nat.not_le.mp ha)
  have hsame := h.2
  by_cases hb : b.natAbs < 2 ^ 53
  · rw [hself, Binary64.nearest_of_small hb] at hsame
    exact h.1 hsame
  · have hb := Nat.not_lt.mp hb
    have hfar : 2 ^ 53 ≤ Binary64.nearestUnits b.natAbs 1 :=
      (Nat.pow_le_pow_right (by decide) (Binary64.le_log2 hb)).trans (Binary64.nearestUnits_bounds hb).1
    rw [hself, Binary64.nearest] at hsame
    split at hsame <;> omega

theorem Merged.close {a b : Int} (h : Merged a b) (ha : a.natAbs < 2 ^ 64) (hb : b.natAbs < 2 ^ 64) :
    (a - b).natAbs ≤ 2 ^ 11 := by
  have hnear := Binary64.nearestUnits_near ha
  have hnear' := Binary64.nearestUnits_near hb
  have hsame := h.2
  unfold Binary64.nearest at hsame
  split at hsame <;> split at hsame <;> omega

/-- Floats that are nearest to integers are ordered as the integers that they stand for. -/
theorem compare_ofInt (a b : Int) : compare (Binary64.ofInt a).value (Binary64.ofInt b).value =
    compare (Binary64.nearest a) (Binary64.nearest b) := by
  have hone : 0 < (Binary64.one : Int) := Int.natCast_pos.mpr Binary64.one_pos
  rw [Binary64.ofInt_value, Binary64.ofInt_value]
  rcases lt_trichotomy (Binary64.nearest a) (Binary64.nearest b) with h | h | h
  · rw [compare_lt_iff_lt.mpr h, compare_lt_iff_lt]
    exact Int.mul_lt_mul_of_pos_right h hone
  · rw [h, compare_eq_iff_eq.mpr rfl]
    exact (compare_eq_iff_eq.mpr rfl).symm
  · rw [compare_gt_iff_gt.mpr h, compare_gt_iff_gt]
    exact Int.mul_lt_mul_of_pos_right h hone

/-- Integers with two nearest floats keep their order. -/
theorem compare_nearest {a b : Int} (h : ¬ Merged a b) :
    compare (Binary64.nearest a) (Binary64.nearest b) = compare a b := by
  have hapart (hne : a ≠ b) : Binary64.nearest a ≠ Binary64.nearest b := fun hsame => h ⟨hne, hsame⟩
  rcases lt_trichotomy a b with hlt | rfl | hgt
  · rw [compare_lt_iff_lt.mpr hlt, compare_lt_iff_lt]
    exact lt_of_le_of_ne (Binary64.nearest_mono hlt.le) (hapart hlt.ne)
  · rw [compare_eq_iff_eq.mpr rfl, compare_eq_iff_eq.mpr rfl]
  · rw [compare_gt_iff_gt.mpr hgt, compare_gt_iff_gt]
    exact lt_of_le_of_ne (Binary64.nearest_mono hgt.le) (hapart hgt.ne').symm

end Runbook
