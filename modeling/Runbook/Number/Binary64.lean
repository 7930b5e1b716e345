/-!
# Finite 64-bit floats

A finite 64-bit float is a sign and a whole number of least steps: every such float is a multiple of
`2 ^ -1074`, and below `2 ^ 53` steps each multiple is one. Order and arithmetic are then questions
about integers.

* `roundDiv` : a quotient rounded to the nearest integer, ties to even;
* `nearestUnits` : the representable number of steps nearest to a quotient;
* `Binary64`, `Binary64.value` : a float and its signed number of steps;
* `ofInt`, `times?`, `quotient` : rounding an integer, product and quotient.
-/

namespace Runbook

/-- The quotient of two numbers, rounded to nearest; a tie goes to the even neighbour. -/
def roundDiv (num den : Nat) : Nat :=
  let q := num / den
  let r := num % den
  if 2 * r < den then q else if den < 2 * r then q + 1 else if q % 2 = 0 then q else q + 1

/-- A finite 64-bit float: its sign, and its magnitude in steps of `2 ^ -1074`. -/
structure Binary64 where
  negative : Bool
  units : Nat
deriving DecidableEq, Repr, Inhabited

namespace Binary64

/-- Steps in the number one. -/
def one : Nat := Nat.pow 2 1074

/-- The largest finite magnitude, in steps. -/
def maxUnits : Nat := (Nat.pow 2 53 - 1) * Nat.pow 2 2045

/-- The representable number of steps nearest to `num / den`: 53 leading bits are kept. -/
def nearestUnits (num den : Nat) : Nat :=
  let q := num / den
  if q < Nat.pow 2 53 then roundDiv num den
  else
    let gap := Nat.pow 2 (q.log2 - 52)
    roundDiv num (den * gap) * gap

/-- A magnitude within the finite range, if it is one. -/
def finite? (units : Nat) : Option Nat := if units ≤ maxUnits then some units else none

/-- The signed number of steps. -/
def value (x : Binary64) : Int := if x.negative then -(x.units : Int) else x.units

/-- Positive zero. -/
def zero : Binary64 := ⟨false, 0⟩

/-- The float nearest to an integer. -/
def ofInt (n : Int) : Binary64 := ⟨n < 0, nearestUnits (n.natAbs * one) 1⟩

/-- Equal as numbers; the two zeros are equal. -/
def same (x y : Binary64) : Bool := x.value == y.value

/-- Order as numbers. -/
def order (x y : Binary64) : Ordering := compare x.value y.value

/-! ## Magnitudes -/

/-- The magnitude nearest to a power of ten. -/
def tenTo (k : Nat) : Nat := nearestUnits (Nat.pow 10 k * one) 1

/-- The product of two magnitudes, if it is finite. -/
def times? (x y : Nat) : Option Nat := finite? (nearestUnits (x * y) one)

/-- The quotient of two magnitudes. -/
def quotient (x y : Nat) : Nat := nearestUnits (x * one) y

end Binary64

end Runbook
