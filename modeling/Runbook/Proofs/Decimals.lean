import Runbook.Proofs.Numerals
import Runbook.Proofs.Representable

/-!
# The texts of floats

A float is written with the digits of a decimal that reads back to it. So its text tells it apart from every other
number: from integers by a point or a power, from floats by its sign and by the decimal.

* `Decimal.units_shift`, `units_strip` : the magnitude of a decimal depends on its value only;
* `Decimal.units_shortest` : the shortest decimal of a float reads back to it;
* `Decimal.numeral`, `chars_numeral`, `units_numeral` : the numeral that a decimal is laid out as, which reads back to
  its magnitude;
* `Number.numeral`, `Number.chars_eq` : all numbers are written as numerals;
* `Number.ofNumeral_numeral` : the numeral of a number determines it;
* `Number.chars_append_inj` : so does the text, whatever stands after it.
-/

namespace Runbook

open Json (digitsValue Numeral)

/-! ## Decimals of one value -/

/-- Quotients that are equal are rounded to one magnitude. -/
theorem Binary64.nearestUnits_congr {num den num' den' : Nat} (hden : 0 < den) (hden' : 0 < den')
    (h : num * den' = num' * den) : nearestUnits num den = nearestUnits num' den' := by
  rw [← nearestUnits_mul_right num den hden', h, Nat.mul_comm den, nearestUnits_mul_right num' den' hden]

theorem Binary64.nearestUnits_zero (den : Nat) : nearestUnits 0 den = 0 := by
  rw [nearestUnits_eq, Nat.zero_div, if_pos (by decide), roundDiv_eq, Nat.zero_div, Nat.zero_mod, if_neg]
  omega

namespace Decimal

open Binary64 (nearestUnits nearestUnits_congr)

variable {d : Decimal}

/-- Zeros can go from the digits to the exponent. -/
theorem units_shift (n k : Nat) (e : Int) : units ⟨n * 10 ^ k, e⟩ = units ⟨n, e + k⟩ := by
  have hpowers : k + e.toNat + (-(e + k)).toNat = (e + k).toNat + (-e).toNat := by omega
  refine nearestUnits_congr (Nat.pow_pos (by decide)) (Nat.pow_pos (by decide)) ?_
  generalize Binary64.one = one
  calc n * 10 ^ k * 10 ^ e.toNat * one * 10 ^ (-(e + k)).toNat
      = n * one * 10 ^ (k + e.toNat + (-(e + k)).toNat) := by rw [Nat.pow_add, Nat.pow_add]; ac_rfl
    _ = n * one * 10 ^ ((e + k).toNat + (-e).toNat) := by rw [hpowers]
    _ = n * 10 ^ (e + k).toNat * one * 10 ^ (-e).toNat := by rw [Nat.pow_add]; ac_rfl

theorem units_strip (fuel : Nat) (d : Decimal) : units (strip fuel d) = units d := by
  induction fuel generalizing d with
  | zero => rfl
  | succ fuel ih =>
    rw [strip]
    split
    · next h =>
      have hten : d.digits / 10 * 10 ^ 1 = d.digits := by
        have := eq_of_beq h
        omega
      have hshift := units_shift (d.digits / 10) 1 d.exponent
      rw [hten] at hshift
      rw [ih]
      exact hshift.symm
    · rfl

theorem units_onGrid? {u : Nat} {k : Int} (h : onGrid? u k = some d) : units d = u := by
  unfold onGrid? at h
  dsimp only at h
  split at h
  · next hlow =>
    simp only [Bool.and_eq_true, beq_iff_eq] at hlow
    obtain rfl := Option.some.inj h
    exact hlow.1.2
  · split at h
    · next hhigh =>
      obtain rfl := Option.some.inj h
      exact eq_of_beq hhigh
    · nomatch h

theorem nearestUnits_five (u k : Nat) : nearestUnits (u * 5 ^ k * 2 ^ k) (10 ^ k) = nearestUnits u 1 := by
  have hten : u * 5 ^ k * 2 ^ k = u * 10 ^ k := by rw [Nat.mul_assoc, ← Nat.mul_pow]
  have hscaled := Binary64.nearestUnits_mul_right u 1 (Nat.pow_pos (n := k) (show 0 < 10 by decide))
  rwa [Nat.one_mul, ← hten] at hscaled

/-- One power of two makes up the steps in the number one, and the digits of an exact decimal. -/
theorem exists_exact (u : Nat) : ∃ k : Nat, Binary64.one = 2 ^ k ∧ exact u = ⟨u * 5 ^ k, -k⟩ := by
  have hexponent : (-1074 : Int) = -((1074 : Nat) : Int) := rfl
  delta Binary64.one exact
  rw [hexponent]
  generalize 1074 = k
  exact ⟨k, rfl, rfl⟩

theorem units_exact {u : Nat} (h : nearestUnits u 1 = u) : units (exact u) = u := by
  obtain ⟨k, hone, hexact⟩ := exists_exact u
  calc units (exact u)
      = nearestUnits (u * 5 ^ k * 10 ^ (-(k : Int)).toNat * Binary64.one) (10 ^ (- -(k : Int)).toNat) := by rw [hexact]; rfl
    _ = nearestUnits (u * 5 ^ k * 2 ^ k) (10 ^ k) := by
      rw [hone, Int.neg_neg, Int.toNat_natCast, Int.toNat_neg_natCast, Nat.pow_zero, Nat.mul_one]
    _ = u := by rw [nearestUnits_five, h]

/-- The shortest decimal of a float reads back to it. -/
theorem units_shortest {u : Nat} (h : nearestUnits u 1 = u) : units (shortest u) = u := by
  unfold shortest
  dsimp only
  rw [units_strip]
  cases hfound : (List.range 17).findSome? fun n => onGrid? u (scale u - (n + 1 : Nat)) with
  | none => exact units_exact h
  | some d =>
    obtain ⟨n, -, hn⟩ := List.exists_of_findSome?_eq_some hfound
    exact units_onGrid? hn

/-! ## Layouts -/

/-- The decimal that a numeral stands for. -/
def ofNumeral (n : Numeral) : Decimal :=
  ⟨digitsValue (n.whole ++ n.fraction.getD []), n.power.getD 0 - (n.fraction.getD []).length⟩

section Layout

variable {digits : List Char} (negative : Bool) (point power : Int)

/-- The numeral of digits around a point that stands after the first `point` of them. -/
def plainNumeral (digits : List Char) : Numeral :=
  if point ≤ 0 then ⟨negative, ['0'], some (List.replicate (-point).toNat '0' ++ digits), none⟩
  else if digits.length ≤ point.toNat then
    ⟨negative, digits ++ List.replicate (point.toNat - digits.length) '0', some ['0'], none⟩
  else ⟨negative, digits.take point.toNat, some (digits.drop point.toNat), none⟩

/-- The numeral of one digit, the others after a point, and a power of ten. -/
def scientificNumeral (digits : List Char) : Numeral :=
  ⟨negative, digits.take 1, if digits.length ≤ 1 then none else some (digits.drop 1), some power⟩

theorem chars_plainNumeral (digits : List Char) :
    (plainNumeral negative point digits).chars = (if negative then ['-'] else []) ++ plain digits point := by
  unfold plainNumeral plain
  split
  · simp [Numeral.chars, Json.fractionChars, Json.powerChars]
  · split <;> simp [Numeral.chars, Json.fractionChars, Json.powerChars]

theorem chars_scientificNumeral (h : digits ≠ []) :
    (scientificNumeral negative power digits).chars = (if negative then ['-'] else []) ++ scientific digits power := by
  match digits, h with
  | [c], _ => simp [scientificNumeral, scientific, Numeral.chars, Json.fractionChars, Json.powerChars]
  | c :: d :: ds, _ => simp [scientificNumeral, scientific, Numeral.chars, Json.fractionChars, Json.powerChars]

theorem isWritten_plainNumeral (hdigits : Json.IsDigits digits) (hhead : digits.head? ≠ some '0') :
    (plainNumeral negative point digits).IsWritten := by
  unfold plainNumeral
  split
  · exact ⟨Json.isWhole_zero, by simpa using hdigits.zeros_append _⟩
  · next hpoint =>
    split
    · refine ⟨(hdigits.append_zeros _).isWhole ?_, by simpa using Json.isWhole_zero.1⟩
      rwa [hdigits.head?_append]
    · next hinside =>
      have hpos : 0 < point.toNat := by omega
      refine ⟨(hdigits.take hpos).isWhole ?_, by simpa using hdigits.drop (Nat.not_le.mp hinside)⟩
      rwa [List.head?_take, if_neg hpos.ne']

theorem isWritten_scientificNumeral (hdigits : Json.IsDigits digits) (hhead : digits.head? ≠ some '0') :
    (scientificNumeral negative power digits).IsWritten := by
  refine ⟨(hdigits.take Nat.one_pos).isWhole (by rwa [List.head?_take, if_neg Nat.one_ne_zero]), fun ds hds => ?_⟩
  unfold scientificNumeral at hds
  dsimp only at hds
  split at hds
  · nomatch hds
  · next hone =>
    obtain rfl := Option.some.inj hds
    exact hdigits.drop (Nat.not_le.mp hone)

/-- Zeros may stand behind the digits, which count in the exponent then. -/
theorem ofNumeral_plainNumeral (digits : List Char) : ∃ k : Nat, ofNumeral (plainNumeral negative point digits) =
    ⟨digitsValue digits * 10 ^ k, point - digits.length - k⟩ := by
  unfold plainNumeral ofNumeral
  simp only [Decimal.mk.injEq]
  split
  · refine ⟨0, ?_, ?_⟩
    · have hzero : digitsValue ['0'] = 0 := rfl
      rw [Option.getD_some, Json.digitsValue_append ['0'], Json.digitsValue_append, Json.digitsValue_zeros, hzero]
      simp only [Nat.zero_mul, Nat.zero_add, Nat.pow_zero, Nat.mul_one]
    · simp only [Option.getD_some, Option.getD_none, List.length_append, List.length_replicate]
      omega
  · split
    · next hinside =>
      refine ⟨point.toNat - digits.length + 1, ?_, ?_⟩
      · rw [Option.getD_some, List.append_assoc, ← List.replicate_succ', Json.digitsValue_append,
          Json.digitsValue_zeros, List.length_replicate, Nat.add_zero]
      · simp only [Option.getD_some, Option.getD_none, List.length_singleton]
        omega
    · refine ⟨0, ?_, ?_⟩
      · rw [Option.getD_some, List.take_append_drop, Nat.pow_zero, Nat.mul_one]
      · simp only [Option.getD_some, Option.getD_none, List.length_drop]
        omega

theorem ofNumeral_scientificNumeral (h : digits ≠ []) : ofNumeral (scientificNumeral negative power digits) =
    ⟨digitsValue digits, power + 1 - digits.length⟩ := by
  have hlength := List.length_pos_iff.mpr h
  unfold scientificNumeral ofNumeral
  simp only [Decimal.mk.injEq]
  split
  · next hone =>
    rw [Option.getD_none, List.append_nil, List.take_of_length_le hone, List.length_nil, Option.getD_some]
    omega
  · rw [Option.getD_some, List.take_append_drop, List.length_drop, Option.getD_some]
    omega

end Layout

/-- The numeral that a decimal is laid out as. -/
def numeral (negative : Bool) (d : Decimal) : Numeral :=
  let digits := digitChars d.digits
  let point := (digits.length : Int) + d.exponent
  if -5 < point && point ≤ 16 then plainNumeral negative point digits
  else scientificNumeral negative (point - 1) digits

theorem chars_numeral (negative : Bool) (d : Decimal) :
    (d.numeral negative).chars = (if negative then ['-'] else []) ++ d.chars := by
  unfold numeral chars
  dsimp only
  split
  · exact chars_plainNumeral negative _ _
  · exact chars_scientificNumeral negative _ (Json.isDigits_digitChars d.digits).1

theorem isWritten_numeral {d : Decimal} (h : d.digits ≠ 0) (negative : Bool) : (d.numeral negative).IsWritten := by
  have hdigits := Json.isDigits_digitChars d.digits
  have hhead : (digitChars d.digits).head? ≠ some '0' := fun hzero => h (Json.head?_digitChars hzero)
  unfold numeral
  dsimp only
  split
  · exact isWritten_plainNumeral negative _ hdigits hhead
  · exact isWritten_scientificNumeral negative _ hdigits hhead

/-- A decimal is read back from its numeral, as far as its magnitude goes. -/
theorem units_numeral (negative : Bool) (d : Decimal) : units (ofNumeral (d.numeral negative)) = units d := by
  have hvalue := Json.digitsValue_digitChars d.digits
  have hexponent (n : Nat) : (n : Int) + d.exponent - n = d.exponent := by omega
  unfold numeral
  dsimp only
  split
  · obtain ⟨k, hk⟩ := ofNumeral_plainNumeral negative ((digitChars d.digits).length + d.exponent) (digitChars d.digits)
    rw [hk, hvalue, units_shift, Int.sub_add_cancel, hexponent]
  · rw [ofNumeral_scientificNumeral negative _ (Json.isDigits_digitChars d.digits).1, hvalue, Int.sub_add_cancel,
      hexponent]

theorem numeral_negative (negative : Bool) (d : Decimal) : (d.numeral negative).negative = negative := by
  unfold numeral plainNumeral
  dsimp only
  split
  · split
    · rfl
    · split <;> rfl
  · rfl

/-- A decimal is laid out with a point or with a power. -/
theorem numeral_isFloat (negative : Bool) (d : Decimal) :
    ((d.numeral negative).fraction.isNone && (d.numeral negative).power.isNone) = false := by
  unfold numeral plainNumeral
  dsimp only
  split
  · split
    · rfl
    · split <;> rfl
  · exact Bool.and_false _

theorem units_zero (e : Int) : units ⟨0, e⟩ = 0 := by
  rw [units, Nat.zero_mul, Nat.zero_mul, Binary64.nearestUnits_zero]

theorem digits_ne_zero {d : Decimal} (h : d.units ≠ 0) : d.digits ≠ 0 := by
  obtain ⟨digits, e⟩ := d
  rintro rfl
  exact h (units_zero e)

end Decimal

/-! ## Numbers -/

/-- The numeral that a float is written as. -/
def Binary64.numeral (x : Binary64) : Numeral :=
  if x.units == 0 then ⟨x.negative, ['0'], some ['0'], none⟩ else (Decimal.shortest x.units).numeral x.negative

/-- The float nearest to a numeral. -/
def Binary64.ofNumeral (n : Numeral) : Binary64 := ⟨n.negative, (Decimal.ofNumeral n).units⟩

namespace Binary64

variable {x : Binary64}

theorem chars_eq (x : Binary64) : x.chars = x.numeral.chars := by
  by_cases hzero : (x.units == 0) = true
  · rw [chars, numeral, if_pos hzero, if_pos hzero]
    rfl
  · rw [chars, numeral, if_neg hzero, if_neg hzero, Decimal.chars_numeral]

theorem isWritten_numeral (h : x.Representable) : x.numeral.IsWritten := by
  unfold numeral
  split
  · exact ⟨Json.isWhole_zero, by simpa using Json.isWhole_zero.1⟩
  · next hzero =>
    refine Decimal.isWritten_numeral (Decimal.digits_ne_zero ?_) x.negative
    rw [Decimal.units_shortest h]
    simpa using hzero

/-- A float is the one nearest to its numeral. -/
theorem ofNumeral_numeral (h : x.Representable) : ofNumeral x.numeral = x := by
  obtain ⟨negative, units⟩ := x
  unfold ofNumeral numeral
  split
  · next hzero =>
    obtain rfl : units = 0 := eq_of_beq hzero
    have hdecimal : Decimal.ofNumeral ⟨negative, ['0'], some ['0'], none⟩ = ⟨0, -1⟩ := rfl
    rw [hdecimal, Decimal.units_zero]
  · rw [Decimal.numeral_negative, Decimal.units_numeral, Decimal.units_shortest h]

end Binary64

namespace Number

variable {m n : Number}

/-- The numeral that a number is written as. -/
def numeral : Number → Numeral
  | int n => intNumeral n
  | float x => x.numeral

/-- The number that a numeral was written for: without point and power that is an integer. -/
def ofNumeral (n : Numeral) : Number :=
  if n.fraction.isNone && n.power.isNone then
    .int (if n.negative then -(digitsValue n.whole : Int) else digitsValue n.whole)
  else .float (.ofNumeral n)

theorem chars_eq (n : Number) : n.chars = n.numeral.chars := by
  cases n with
  | int n => exact intChars_eq n
  | float x => exact x.chars_eq

theorem isWritten_numeral (h : n.Representable) : n.numeral.IsWritten := by
  cases n with
  | int n => exact isWritten_intNumeral n
  | float x => exact Binary64.isWritten_numeral h

/-- The numeral of a number determines it. -/
theorem ofNumeral_numeral (h : n.Representable) : ofNumeral n.numeral = n := by
  cases n with
  | int n =>
    have hint : ofNumeral (intNumeral n) =
        .int (if decide (n < 0) then -(digitsValue (Decimal.digitChars n.natAbs) : Int)
          else digitsValue (Decimal.digitChars n.natAbs)) := rfl
    rw [numeral, hint, Json.digitsValue_digitChars]
    by_cases hn : n < 0
    · rw [if_pos (decide_eq_true hn)]
      congr 1
      omega
    · rw [if_neg (by rwa [decide_eq_true_eq])]
      congr 1
      omega
  | float x =>
    have hfloat : (x.numeral.fraction.isNone && x.numeral.power.isNone) = false := by
      unfold Binary64.numeral
      split
      · rfl
      · exact Decimal.numeral_isFloat x.negative _
    rw [ofNumeral, numeral, hfloat, if_neg Bool.false_ne_true, Binary64.ofNumeral_numeral h]

theorem readNumeral_append (h : n.Representable) {rest : List Char} (hrest : Json.EndsNumeral rest) :
    Json.readNumeral (n.chars ++ rest) = .ok (n.numeral, rest) := by
  rw [chars_eq, Json.readNumeral_chars (isWritten_numeral h) hrest]

/-- **The text of a number determines it**, also where other texts follow. -/
theorem chars_append_inj (hm : m.Representable) (hn : n.Representable) {r s : List Char} (hr : Json.EndsNumeral r)
    (hs : Json.EndsNumeral s) (h : m.chars ++ r = n.chars ++ s) : m = n ∧ r = s := by
  have hread : Except.ok (m.numeral, r) = Except.ok (ε := Json.Fault) (n.numeral, s) := by
    rw [← readNumeral_append hm hr, h, readNumeral_append hn hs]
  obtain ⟨hnumeral, hrest⟩ := Prod.mk.inj (Except.ok.inj hread)
  exact ⟨by rw [← ofNumeral_numeral hm, hnumeral, ofNumeral_numeral hn], hrest⟩

end Number

end Runbook
