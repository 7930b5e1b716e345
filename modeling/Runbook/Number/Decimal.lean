import Runbook.Number.Binary64

/-!
# Decimals for floats

* `Decimal` : `digits * 10 ^ exponent`;
* `Decimal.units` : the float magnitude that a decimal reads back to;
* `Decimal.shortest` : the decimal with the fewest digits that reads back to a magnitude, of two
  such the nearer, of two equally near the one with an even last digit;
* `Decimal.plain`, `Decimal.scientific` : its two layouts, and `Binary64.text`, the text of a float.
-/

namespace Runbook

/-- The number `digits * 10 ^ exponent`. -/
structure Decimal where
  digits : Nat
  exponent : Int
deriving DecidableEq, Repr

namespace Decimal

open Binary64 (one nearestUnits)

/-- The float magnitude nearest to a decimal. -/
def units (d : Decimal) : Nat :=
  nearestUnits (d.digits * Nat.pow 10 d.exponent.toNat * one) (Nat.pow 10 (-d.exponent).toNat)

/-- Whether a magnitude is below `10 ^ k`. -/
def below (units : Nat) (k : Int) : Bool :=
  units * Nat.pow 10 (-k).toNat < Nat.pow 10 k.toNat * one

/-- The least of the next few exponents from `k` on whose power of ten exceeds a magnitude. -/
def raise (units : Nat) : Nat → Int → Int
  | 0, k => k
  | tries + 1, k => if below units k then k else raise units tries (k + 1)

/-- The least `k` with a positive magnitude below `10 ^ k`. The binary logarithm gives it but for a
step or two. -/
def scale (units : Nat) : Int :=
  raise units 4 (Int.fdiv (((units.log2 : Int) - 1074) * 30103) 100000)

/-- The digits of a magnitude on the grid `10 ^ k`, rounded down, and twice the remainder compared
with one grid step. -/
def onGrid (units : Nat) (k : Int) : Nat × Ordering :=
  let num := units * Nat.pow 10 (-k).toNat
  let den := Nat.pow 10 k.toNat * one
  (num / den, compare (2 * (num % den)) den)

/-- The neighbour of a magnitude on the grid `10 ^ k` that reads back to it, if one does. -/
def onGrid? (units : Nat) (k : Int) : Option Decimal :=
  let (low, half) := onGrid units k
  let lowHits := 0 < low && Decimal.units ⟨low, k⟩ == units
  let highHits := Decimal.units ⟨low + 1, k⟩ == units
  let lowNearer := half == .lt || (half == .eq && low % 2 == 0)
  if lowHits && (lowNearer || !highHits) then some ⟨low, k⟩
  else if highHits then some ⟨low + 1, k⟩
  else none

/-- A decimal without trailing zeros, at most `fuel` of them dropped. -/
def strip : Nat → Decimal → Decimal
  | 0, d => d
  | fuel + 1, d => if d.digits % 10 == 0 then strip fuel ⟨d.digits / 10, d.exponent + 1⟩ else d

/-- The exact decimal of a magnitude: `units * 5 ^ 1074 * 10 ^ -1074`. -/
def exact (units : Nat) : Decimal := ⟨units * Nat.pow 5 1074, -1074⟩

/-- The shortest decimal that reads back to a positive magnitude. Seventeen digits always do. -/
def shortest (units : Nat) : Decimal :=
  let k := scale units
  let found := (List.range 17).findSome? fun (n : Nat) => onGrid? units (k - (n + 1 : Nat))
  strip 400 (found.getD (exact units))

/-! ## Layout -/

/-- The digits of a number in base ten. -/
def digitChars (n : Nat) : List Char := Nat.toDigits 10 n

/-- Digits around a decimal point that stands after the first `point` digits. -/
def plain (digits : List Char) (point : Int) : List Char :=
  if point ≤ 0 then ['0', '.'] ++ List.replicate (-point).toNat '0' ++ digits
  else if digits.length ≤ point.toNat then
    digits ++ List.replicate (point.toNat - digits.length) '0' ++ ['.', '0']
  else digits.take point.toNat ++ ['.'] ++ digits.drop point.toNat

/-- One digit, the others after a point, and a signed power of ten. -/
def scientific (digits : List Char) (power : Int) : List Char :=
  let mantissa := match digits with
    | [] => []
    | [d] => [d]
    | d :: rest => d :: '.' :: rest
  mantissa ++ ['e', if power < 0 then '-' else '+'] ++ digitChars power.natAbs

/-- The text of a decimal: positional from `10 ^ -5` up to below `10 ^ 16`, else with a power. -/
def chars (d : Decimal) : List Char :=
  let digits := digitChars d.digits
  let point := (digits.length : Int) + d.exponent
  if -5 < point && point ≤ 16 then plain digits point else scientific digits (point - 1)

end Decimal

/-- The text of a float: its sign and its shortest decimal; zero has one digit on either side of the
point. -/
def Binary64.chars (x : Binary64) : List Char :=
  (if x.negative then ['-'] else []) ++
    (if x.units == 0 then ['0', '.', '0'] else (Decimal.shortest x.units).chars)

end Runbook
