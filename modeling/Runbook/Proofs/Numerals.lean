import Mathlib.Algebra.Group.Nat.Defs
import Runbook.Json.Reader
import Runbook.Number.Basic

/-!
# Numerals that are written

Numbers are written with digits that start with no zero in vain, and with a sign at each power. Such a numeral is read
back whole, whatever stands after it that does not go on with a number.

* `digitsValue_digitChars` : the digits of a number have its value;
* `Numeral.IsWritten`, `Numeral.chars` : the numerals that are written, and their texts;
* `EndsNumeral`, `readNumeral_chars` : the numeral at the start of a text is read back;
* `Number.intNumeral`, `readNumber_intChars` : an integer in range is read back as that integer.
-/

namespace Runbook.Json

open Decimal (digitChars)

/-! ## Digits -/

theorem digitsValue_eq (ds : List Char) : digitsValue ds = Nat.ofDigitChars 10 ds 0 := by
  rw [Nat.ofDigitChars_eq_foldl, digitsValue]
  simp only [Nat.mul_comm 10]
  rfl

/-- The digits of a number have its value. -/
theorem digitsValue_digitChars (n : Nat) : digitsValue (digitChars n) = n := by
  rw [digitsValue_eq, digitChars, Nat.ofDigitChars_ten_toDigits]

theorem digitsValue_append (ds es : List Char) :
    digitsValue (ds ++ es) = digitsValue ds * 10 ^ es.length + digitsValue es := by
  rw [digitsValue_eq, Nat.ofDigitChars_append, Nat.ofDigitChars_eq_ofDigitChars_zero, ← digitsValue_eq,
    ← digitsValue_eq, Nat.mul_comm]

theorem digitsValue_zeros (n : Nat) : digitsValue (List.replicate n '0') = 0 := by
  rw [digitsValue_eq, Nat.ofDigitChars_replicate_zero, Nat.mul_zero]

/-- A row of digits, one at least. -/
def IsDigits (ds : List Char) : Prop := ds ≠ [] ∧ ∀ c ∈ ds, c.isDigit = true

/-- Digits before a point: a zero alone, or digits that start with another one. -/
def IsWhole (ds : List Char) : Prop := IsDigits ds ∧ (ds.head? = some '0' → ds = ['0'])

theorem isDigits_digitChars (n : Nat) : IsDigits (digitChars n) :=
  ⟨Nat.toDigits_ne_nil, fun _ hc => Nat.isDigit_of_mem_toDigits (by decide) (by decide) hc⟩

/-- Only zero starts with a zero. -/
theorem head?_digitChars {n : Nat} (h : (digitChars n).head? = some '0') : n = 0 := by
  rw [digitChars, Nat.toDigits_eq_if (by decide)] at h
  split at h
  · simpa using h
  · next hn =>
    obtain ⟨c, r, hcons⟩ := List.exists_cons_of_ne_nil (isDigits_digitChars (n / 10)).1
    have hrest : (digitChars (n / 10)).head? = some '0' := by
      rw [← digitChars, hcons, List.cons_append] at h
      rwa [hcons]
    have hzero := head?_digitChars hrest
    omega

theorem isWhole_digitChars (n : Nat) : IsWhole (digitChars n) :=
  ⟨isDigits_digitChars n, fun h => by rw [head?_digitChars h]; rfl⟩

variable {ds rest : List Char}

theorem isWhole_zero : IsWhole ['0'] := ⟨⟨List.cons_ne_nil _ _, List.forall_mem_singleton.mpr rfl⟩, fun _ => rfl⟩

theorem IsDigits.isWhole (h : IsDigits ds) (hhead : ds.head? ≠ some '0') : IsWhole ds :=
  ⟨h, fun hzero => absurd hzero hhead⟩

theorem isDigit_zeros (n : Nat) : ∀ c ∈ List.replicate n '0', c.isDigit = true := fun c hc => by
  rw [List.eq_of_mem_replicate hc]
  rfl

theorem IsDigits.zeros_append (h : IsDigits ds) (n : Nat) : IsDigits (List.replicate n '0' ++ ds) :=
  ⟨List.append_ne_nil_of_right_ne_nil _ h.1, List.forall_mem_append.mpr ⟨isDigit_zeros n, h.2⟩⟩

theorem IsDigits.append_zeros (h : IsDigits ds) (n : Nat) : IsDigits (ds ++ List.replicate n '0') :=
  ⟨List.append_ne_nil_of_left_ne_nil h.1 _, List.forall_mem_append.mpr ⟨h.2, isDigit_zeros n⟩⟩

theorem IsDigits.head?_append (h : IsDigits ds) (s : List Char) : (ds ++ s).head? = ds.head? := by
  obtain ⟨c, ds, rfl⟩ := List.exists_cons_of_ne_nil h.1
  rfl

theorem IsDigits.take (h : IsDigits ds) {n : Nat} (hn : 0 < n) : IsDigits (ds.take n) := by
  refine ⟨fun hnil => ?_, fun c hc => h.2 c (List.mem_of_mem_take hc)⟩
  rcases List.take_eq_nil_iff.mp hnil with h0 | hds
  · omega
  · exact h.1 hds

theorem IsDigits.drop (h : IsDigits ds) {n : Nat} (hn : n < ds.length) : IsDigits (ds.drop n) :=
  ⟨fun hnil => Nat.not_le.mpr hn (List.drop_eq_nil_iff.mp hnil), fun c hc => h.2 c (List.mem_of_mem_drop hc)⟩

/-! ## Rows of digits at the start of a text -/

theorem takeWhile_digits (hds : ∀ c ∈ ds, c.isDigit = true) (hrest : ∀ c ∈ rest.head?, c.isDigit = false) :
    (ds ++ rest).takeWhile Char.isDigit = ds := by
  rw [List.takeWhile_append_of_pos hds]
  cases rest with
  | nil => exact List.append_nil ds
  | cons c rest => simp [hrest c rfl]

theorem dropWhile_digits (hds : ∀ c ∈ ds, c.isDigit = true) (hrest : ∀ c ∈ rest.head?, c.isDigit = false) :
    (ds ++ rest).dropWhile Char.isDigit = rest := by
  rw [List.dropWhile_append_of_pos hds]
  cases rest with
  | nil => rfl
  | cons c rest => simp [hrest c rfl]

theorem readDigits_append (hds : IsDigits ds) (hrest : ∀ c ∈ rest.head?, c.isDigit = false) :
    readDigits (ds ++ rest) = .ok (ds, rest) := by
  obtain ⟨c, ds, rfl⟩ := List.exists_cons_of_ne_nil hds.1
  obtain ⟨hc, hds⟩ := List.forall_mem_cons.mp hds.2
  rw [List.cons_append, readDigits, if_pos hc, takeWhile_digits hds hrest, dropWhile_digits hds hrest]

theorem readWhole_append (hds : IsWhole ds) (hrest : ∀ c ∈ rest.head?, c.isDigit = false) :
    readWhole (ds ++ rest) = .ok (ds, rest) := by
  obtain ⟨⟨hne, hds⟩, hzero⟩ := hds
  obtain ⟨c, ds, rfl⟩ := List.exists_cons_of_ne_nil hne
  obtain ⟨hc, hds⟩ := List.forall_mem_cons.mp hds
  by_cases h : c = '0'
  · subst h
    obtain rfl : ds = [] := (List.cons.inj (hzero rfl)).2
    cases rest with
    | nil => rfl
    | cons c rest => simp [readWhole, hrest c rfl]
  · rw [List.cons_append]
    unfold readWhole
    split
    · next hnil => nomatch hnil
    · next hcons => exact absurd (List.cons.inj hcons).1 h
    · next hcons =>
      obtain ⟨rfl, rfl⟩ := List.cons.inj hcons
      rw [if_pos hc, takeWhile_digits hds hrest, dropWhile_digits hds hrest]

/-! ## Numerals -/

/-- What numbers are written with: no zero in vain before the point, and no part without digits. -/
structure Numeral.IsWritten (n : Numeral) : Prop where
  whole : IsWhole n.whole
  fraction : ∀ ds ∈ n.fraction, IsDigits ds

/-- The text of a fraction, if there is one. -/
def fractionChars : Option (List Char) → List Char
  | some ds => '.' :: ds
  | none => []

/-- The text of a power of ten with its sign, if there is one. -/
def powerChars : Option Int → List Char
  | some power => 'e' :: (if power < 0 then '-' else '+') :: digitChars power.natAbs
  | none => []

/-- The text of a numeral. -/
def Numeral.chars (n : Numeral) : List Char :=
  (if n.negative then ['-'] else []) ++ (n.whole ++ (fractionChars n.fraction ++ powerChars n.power))

/-- A text does not go on with a numeral before it. -/
def EndsNumeral (rest : List Char) : Prop := ∀ c ∈ rest.head?, c.isDigit = false ∧ c ≠ '.' ∧ c ≠ 'e' ∧ c ≠ 'E'

theorem readPower_append (power : Option Int) (hrest : EndsNumeral rest) :
    readPower (powerChars power ++ rest) = .ok (power, rest) := by
  cases power with
  | none =>
    show readPower rest = _
    unfold readPower
    split
    · exact absurd rfl (hrest 'e' rfl).2.2.1
    · exact absurd rfl (hrest 'E' rfl).2.2.2
    · rfl
  | some power =>
    have hdigits : readDigits (digitChars power.natAbs ++ rest) = .ok (digitChars power.natAbs, rest) :=
      readDigits_append (isDigits_digitChars power.natAbs) fun c hc => (hrest c hc).1
    by_cases h : power < 0
    · have hvalue : -(power.natAbs : Int) = power := by omega
      rw [powerChars, if_pos h]
      show (readDigits (digitChars power.natAbs ++ rest)).map _ = _
      simp only [hdigits, Except.map, if_true, digitsValue_digitChars, hvalue]
    · have hvalue : (power.natAbs : Int) = power := by omega
      rw [powerChars, if_neg h]
      show (readDigits (digitChars power.natAbs ++ rest)).map _ = _
      simp only [hdigits, Except.map, Bool.false_eq_true, if_false, digitsValue_digitChars, hvalue]

theorem head?_powerChars (power : Option Int) (hrest : EndsNumeral rest) :
    ∀ c ∈ (powerChars power ++ rest).head?, c.isDigit = false ∧ c ≠ '.' := by
  intro c hc
  cases power with
  | none => exact ⟨(hrest c hc).1, (hrest c hc).2.1⟩
  | some power =>
    obtain rfl := Option.some.inj hc
    decide

theorem readFraction_append {fraction : Option (List Char)} (hfraction : ∀ ds ∈ fraction, IsDigits ds)
    (hrest : ∀ c ∈ rest.head?, c.isDigit = false ∧ c ≠ '.') :
    readFraction (fractionChars fraction ++ rest) = .ok (fraction, rest) := by
  cases fraction with
  | none =>
    show readFraction rest = _
    unfold readFraction
    split
    · exact absurd rfl (hrest '.' rfl).2
    · rfl
  | some ds =>
    show (readDigits (ds ++ rest)).map _ = _
    rw [readDigits_append (hfraction ds rfl) fun c hc => (hrest c hc).1]
    rfl

theorem head?_fractionChars (fraction : Option (List Char)) (hrest : ∀ c ∈ rest.head?, c.isDigit = false) :
    ∀ c ∈ (fractionChars fraction ++ rest).head?, c.isDigit = false := by
  intro c hc
  cases fraction with
  | none => exact hrest c hc
  | some ds =>
    obtain rfl := Option.some.inj hc
    rfl

/-- The numeral after its sign. -/
def readUnsigned (negative : Bool) (s : List Char) : Except Fault (Numeral × List Char) := do
  let (whole, s) ← readWhole s
  let (fraction, s) ← readFraction s
  let (power, s) ← readPower s
  .ok (⟨negative, whole, fraction, power⟩, s)

theorem readNumeral_minus (s : List Char) : readNumeral ('-' :: s) = readUnsigned true s := rfl

theorem readNumeral_plain {s : List Char} (h : ∀ c ∈ s.head?, c.isDigit = true) :
    readNumeral s = readUnsigned false s := by
  cases s with
  | nil => rfl
  | cons c s =>
    have hc : c ≠ '-' := by
      rintro rfl
      exact absurd (h '-' rfl) (by decide)
    unfold readNumeral
    split
    next heq =>
    split at heq
    · next hcons => exact absurd (List.cons.inj hcons).1 hc
    · obtain ⟨rfl, rfl⟩ := Prod.mk.inj heq
      rfl

/-- A numeral is read back from its text, and nothing of what follows it. -/
theorem readNumeral_chars {n : Numeral} (h : n.IsWritten) (hrest : EndsNumeral rest) :
    readNumeral (n.chars ++ rest) = .ok (n, rest) := by
  obtain ⟨negative, whole, fraction, power⟩ := n
  have hpower := head?_powerChars power hrest
  have hfraction := head?_fractionChars fraction fun c hc => (hpower c hc).1
  have hunsigned : readUnsigned negative (whole ++ (fractionChars fraction ++ (powerChars power ++ rest))) =
      .ok (⟨negative, whole, fraction, power⟩, rest) := by
    simp only [readUnsigned, readWhole_append h.whole hfraction, readFraction_append h.fraction hpower,
      readPower_append power hrest, bind, Except.bind]
  rw [← hunsigned]
  simp only [Numeral.chars, List.append_assoc]
  cases negative with
  | true => exact readNumeral_minus _
  | false =>
    refine readNumeral_plain fun c hc => ?_
    obtain ⟨d, ds, hds⟩ := List.exists_cons_of_ne_nil h.whole.1.1
    dsimp only at hds
    subst hds
    obtain rfl := Option.some.inj hc
    exact h.whole.1.2 d List.mem_cons_self

/-! ## Values that start as a number -/

/-- A character that starts a number. -/
def StartsNumber (c : Char) : Prop := c = '-' ∨ c.isDigit = true

theorem StartsNumber.ne {c : Char} (hc : StartsNumber c) {d : Char} (hd : (d == '-' || d.isDigit) = false) : c ≠ d := by
  rintro rfl
  rw [Bool.or_eq_false_iff] at hd
  rcases hc with rfl | hdigit
  · exact absurd hd.1 (by decide)
  · exact Bool.false_ne_true (hd.2.symm.trans hdigit)

theorem StartsNumber.isGap {c : Char} (hc : StartsNumber c) : isGap c = false := by
  simp [Json.isGap, hc.ne (d := ' ') (by decide), hc.ne (d := '\n') (by decide), hc.ne (d := '\t') (by decide),
    hc.ne (d := '\r') (by decide)]

theorem readScalar_number {c : Char} (hc : StartsNumber c) (s : List Char) :
    readScalar (c :: s) = (readNumber (c :: s)).map fun (n, s) => (.num n, s) := by
  unfold readScalar
  split
  · next h => nomatch h
  · next h => exact absurd (List.cons.inj h).1 (hc.ne (by decide))
  · next h => exact absurd (List.cons.inj h).1 (hc.ne (by decide))
  · next h => exact absurd (List.cons.inj h).1 (hc.ne (by decide))
  · next h => exact absurd (List.cons.inj h).1 (hc.ne (by decide))
  · next h =>
    obtain ⟨rfl, rfl⟩ := List.cons.inj h
    rw [if_pos (by simpa [StartsNumber] using hc)]

theorem readValue_number {c : Char} (hc : StartsNumber c) (fuel depth : Nat) (s : List Char) :
    readValue (fuel + 1) depth (c :: s) = (readNumber (c :: s)).map fun (n, s) => (.num n, s) := by
  have hgap : skipGap (c :: s) = c :: s := by rw [skipGap, List.dropWhile_cons, if_neg (by simp [hc.isGap])]
  rw [← readScalar_number hc]
  unfold readValue
  rw [hgap]
  split
  · next h => exact absurd (List.cons.inj h).1 (hc.ne (by decide))
  · next h => exact absurd (List.cons.inj h).1 (hc.ne (by decide))
  · rfl

/-! ## Integers -/

/-- The significand takes all digits of a number below its limit. -/
theorem gather_eq {significand : Nat} (h : Nat.ofDigitChars 10 ds significand < 2 ^ 64) :
    gather significand ds = (Nat.ofDigitChars 10 ds significand, []) := by
  induction ds generalizing significand with
  | nil => rfl
  | cons d ds ih =>
    have hcons : Nat.ofDigitChars 10 (d :: ds) significand = Nat.ofDigitChars 10 ds (significand * 10 + digitValue d) := by
      rw [Nat.ofDigitChars_cons, Nat.mul_comm]
      rfl
    rw [hcons] at h ⊢
    have hnext : significand * 10 + digitValue d < Nat.pow 2 64 := by
      refine Nat.lt_of_le_of_lt ?_ h
      rw [Nat.ofDigitChars_eq_ofDigitChars_zero]
      exact Nat.le_add_right_of_le (Nat.le_mul_of_pos_left _ (Nat.pow_pos (by decide)))
    rw [gather, if_pos hnext, ih h]

end Runbook.Json

namespace Runbook.Number

open Json
open Decimal (digitChars)

/-- An integer as a numeral. -/
def intNumeral (n : Int) : Numeral := ⟨n < 0, digitChars n.natAbs, none, none⟩

theorem isWritten_intNumeral (n : Int) : (intNumeral n).IsWritten :=
  ⟨isWhole_digitChars n.natAbs, fun _ h => nomatch h⟩

theorem intChars_eq (n : Int) : intChars n = (intNumeral n).chars := by
  simp [intChars, intNumeral, Numeral.chars, fractionChars, powerChars]

theorem intChars_ne_nil (n : Int) : intChars n ≠ [] :=
  List.append_ne_nil_of_right_ne_nil _ (isDigits_digitChars n.natAbs).1

theorem startsNumber_of_mem_intChars {n : Int} {c : Char} (h : c ∈ intChars n) : StartsNumber c := by
  rw [intChars, List.mem_append] at h
  rcases h with hsign | hdigit
  · split at hsign
    · exact .inl (List.mem_singleton.mp hsign)
    · nomatch hsign
  · exact .inr ((isDigits_digitChars n.natAbs).2 c hdigit)

/-- An integer in range stays one. -/
theorem number?_intNumeral {n : Int} (hmin : minInt ≤ n) (hmax : n ≤ maxInt) :
    (intNumeral n).number? = some (.int n) := by
  have hlimit : n.natAbs < 2 ^ 64 := by
    unfold minInt at hmin
    unfold maxInt at hmax
    omega
  have hgather : gather 0 (digitChars n.natAbs) = (n.natAbs, []) := by
    have hvalue : Nat.ofDigitChars 10 (digitChars n.natAbs) 0 = n.natAbs := Nat.ofDigitChars_ten_toDigits
    rw [gather_eq (by rwa [hvalue]), hvalue]
  unfold Numeral.number? intNumeral
  simp only [hgather, Option.getD_none, gather, Option.isNone_none, List.isEmpty_nil, Bool.and_self, if_true]
  by_cases hneg : n < 0
  · have hzero : n.natAbs ≠ 0 := by omega
    have hfits : ¬ Nat.pow 2 63 < n.natAbs := by
      show ¬ 2 ^ 63 < n.natAbs
      unfold minInt at hmin
      omega
    have hvalue : -(n.natAbs : Int) = n := by omega
    simp only [hneg, hzero, hfits, hvalue, decide_true, decide_false, Bool.not_true, Bool.or_self, Bool.false_eq_true,
      if_false]
  · have hvalue : (n.natAbs : Int) = n := by omega
    simp only [hneg, hvalue, decide_false, Bool.not_false, if_true]

/-- **An integer in range is read back from its text**, and nothing of what follows it. -/
theorem readNumber_intChars {n : Int} (hmin : minInt ≤ n) (hmax : n ≤ maxInt) {rest : List Char}
    (hrest : EndsNumeral rest) : readNumber (intChars n ++ rest) = .ok (.int n, rest) := by
  rw [intChars_eq]
  simp only [readNumber, readNumeral_chars (isWritten_intNumeral n) hrest, number?_intNumeral hmin hmax, bind, Except.bind]

end Runbook.Number
