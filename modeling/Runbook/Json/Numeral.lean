import Runbook.Json.Basic
import Runbook.Json.Fault

/-!
# Numbers in JSON text

* `Numeral` : a number as written, `readNumeral` : the numeral at the start of a text;
* `gather` : digits join the significand while it stays below `2 ^ 64`;
* `Numeral.number?` : the number that a numeral stands for, none if it is too large.

A numeral without fraction and power is an integer where its significand takes all its digits and
fits, but minus zero is a float. Any other is a float: the significand is rounded, and then scaled by
a power of ten that is itself rounded, so a long numeral may miss the nearest float by one step.
-/

namespace Runbook.Json

/-- A number as written: its sign, the digits before and after the point, and the power of ten. -/
structure Numeral where
  negative : Bool
  whole : List Char
  fraction : Option (List Char)
  power : Option Int
deriving DecidableEq, Repr

/-- The value of a decimal digit. -/
def digitValue (c : Char) : Nat := c.toNat - 48

/-- The value of a row of decimal digits. -/
def digitsValue (ds : List Char) : Nat := ds.foldl (fun n d => n * 10 + digitValue d) 0

/-! ## Reading -/

/-- The digits before the point: a zero alone, or digits that start with another one. -/
def readWhole : List Char → Except Fault (List Char × List Char)
  | [] => .error .valueEnds
  | '0' :: s => if s.head?.any Char.isDigit then .error .badNumber else .ok (['0'], s)
  | c :: s =>
    if c.isDigit then .ok (c :: s.takeWhile Char.isDigit, s.dropWhile Char.isDigit)
    else .error .badNumber

/-- A row of at least one digit. -/
def readDigits : List Char → Except Fault (List Char × List Char)
  | [] => .error .valueEnds
  | c :: s =>
    if c.isDigit then .ok (c :: s.takeWhile Char.isDigit, s.dropWhile Char.isDigit)
    else .error .badNumber

/-- A point and the digits after it, if there is a point. -/
def readFraction : List Char → Except Fault (Option (List Char) × List Char)
  | '.' :: s => (readDigits s).map fun (ds, rest) => (some ds, rest)
  | s => .ok (none, s)

/-- A mark, a sign and the digits of a power, if there is a mark. -/
def readPower : List Char → Except Fault (Option Int × List Char)
  | 'e' :: s | 'E' :: s =>
    let (negative, s) := match s with
      | '+' :: r => (false, r)
      | '-' :: r => (true, r)
      | r => (false, r)
    (readDigits s).map fun (ds, rest) =>
      (some (if negative then -(digitsValue ds : Int) else digitsValue ds), rest)
  | s => .ok (none, s)

/-- The numeral at the start of a text, and what follows it. -/
def readNumeral (s : List Char) : Except Fault (Numeral × List Char) := do
  let (negative, s) := match s with
    | '-' :: r => (true, r)
    | r => (false, r)
  let (whole, s) ← readWhole s
  let (fraction, s) ← readFraction s
  let (power, s) ← readPower s
  .ok (⟨negative, whole, fraction, power⟩, s)

/-! ## Value -/

/-- Digits join the significand while it stays below `2 ^ 64`; the digits from the first that does
not fit are left over. -/
def gather (significand : Nat) : List Char → Nat × List Char
  | [] => (significand, [])
  | d :: ds =>
    let next := significand * 10 + digitValue d
    if next < Nat.pow 2 64 then gather next ds else (significand, d :: ds)

/-- A magnitude divided by `10 ^ n`, at most 308 powers at a time. -/
def scaleDown (units n : Nat) : Nat :=
  if n ≤ 308 then Binary64.quotient units (Binary64.tenTo n)
  else if units = 0 then 0
  else scaleDown (Binary64.quotient units (Binary64.tenTo 308)) (n - 308)
termination_by n

/-- A magnitude times `10 ^ n`, if that is finite. -/
def scaleUp? (units n : Nat) : Option Nat :=
  if n ≤ 308 then Binary64.times? units (Binary64.tenTo n)
  else if units = 0 then some 0 else none

/-- A significand times a power of ten, as a float magnitude. -/
def scale? (significand : Nat) (power : Int) : Option Nat :=
  let units := Binary64.nearestUnits (significand * Binary64.one) 1
  if 0 ≤ power then scaleUp? units power.toNat else some (scaleDown units power.natAbs)

/-- The number that a numeral stands for, none where no finite float is near. -/
def Numeral.number? (n : Numeral) : Option Number :=
  let (significand, skipped) := gather 0 n.whole
  let fraction := n.fraction.getD []
  let (full, dropped) := gather significand fraction
  if n.fraction.isNone && n.power.isNone && skipped.isEmpty then
    if !n.negative then some (.int significand)
    else if significand = 0 || Nat.pow 2 63 < significand then
      some (.float ⟨true, Binary64.nearestUnits (significand * Binary64.one) 1⟩)
    else some (.int (-(significand : Int)))
  else
    let power : Int := skipped.length - (fraction.length - dropped.length : Nat) + n.power.getD 0
    (scale? full power).map fun units => .float ⟨n.negative, units⟩

/-- The number at the start of a text, and what follows it. -/
def readNumber (s : List Char) : Except Fault (Number × List Char) := do
  let (numeral, rest) ← readNumeral s
  match numeral.number? with
  | some n => .ok (n, rest)
  | none => .error .numberTooLarge

end Runbook.Json
