import Runbook.Number.Decimal

/-!
# Numbers of the data format

A number is an integer or a float, and the two forms are never the same value.

* `Number.same` : equality of values, integers apart from floats;
* `Number.toFloat` : the float nearest to a number, in which conditions compare;
* `Number.chars` : the text of a number.
-/

namespace Runbook

/-- An integer, or a finite 64-bit float. -/
inductive Number where
  | int (n : Int)
  | float (x : Binary64)
deriving DecidableEq, Repr, Inhabited

namespace Number

/-- The least integer that stays an integer. -/
def minInt : Int := -9223372036854775808

/-- The greatest integer that stays an integer. -/
def maxInt : Int := 18446744073709551615

/-- Equal values of one form. -/
def same : Number → Number → Bool
  | .int a, .int b => a == b
  | .float x, .float y => x.same y
  | _, _ => false

/-- The float nearest to a number. -/
def toFloat : Number → Binary64
  | .int n => .ofInt n
  | .float x => x

/-- The text of an integer. -/
def intChars (n : Int) : List Char :=
  (if n < 0 then ['-'] else []) ++ Decimal.digitChars n.natAbs

/-- The text of a number. -/
def chars : Number → List Char
  | .int n => intChars n
  | .float x => x.chars

end Number

end Runbook
