/-!
# Time and the virtual clock

* `Duration` : nanoseconds;
* `Instant` : a second, counted from the start of 1970, and nanoseconds from its start; those of a leap second are
  counted on from the start of the second before it;
* `Instant.later`, written `t + d` : a point in time moved on, which leaves a leap second for the start of the next one;
* `Instant.elapsed` : the time between two instants, zero if the second is the earlier one. A leap second counts in it
  only if the other instant is later in the day, or earlier for one at the end;
* `VirtualClock` : a clock that only moves when it is told to, and by a fixed duration after each
  step if one is set. A move that no clock can take is ignored, one past the calendar's end has no
  result.
-/

namespace Runbook

/-- A length of time, in nanoseconds. -/
abbrev Duration := Nat

namespace Duration

/-- A number of milliseconds. -/
def ofMillis (n : Nat) : Duration := n * 1000000

/-- The whole milliseconds of a duration. -/
def millis (d : Duration) : Nat := d / 1000000

/-- A number of seconds and nanoseconds. -/
def ofParts (seconds nanos : Nat) : Duration := seconds * 1000000000 + nanos

/-- The longest duration that a clock can be moved by at once. -/
def maxMove : Duration := ofMillis (Nat.pow 2 63 - 1)

end Duration

/-- A point in time. The nanoseconds from the start of its second are more than a second has in a leap second. -/
@[ext]
structure Instant where
  second : Int
  nanos : Nat
  nanos_lt : nanos < 2000000000
deriving DecidableEq, Repr

namespace Instant

/-- A point in time outside leap seconds, by the nanoseconds from the start of a second. -/
def ofSecond (second : Int) (nanos : Nat) : Instant :=
  ⟨second + (nanos / 1000000000 : Nat), nanos % 1000000000, by omega⟩

/-- A point in time given in nanoseconds. -/
def ofNanos (n : Int) : Instant := ofSecond (n / 1000000000) (n % 1000000000).toNat

/-- A point in time given in milliseconds. -/
def ofMillis (n : Int) : Instant := ofNanos (n * 1000000)

instance (n : Nat) : OfNat Instant n := ⟨ofNanos n⟩

instance : Inhabited Instant := ⟨0⟩

instance : LE Instant := ⟨fun a b => a.second < b.second ∨ a.second = b.second ∧ a.nanos ≤ b.nanos⟩

instance : LT Instant := ⟨fun a b => a.second < b.second ∨ a.second = b.second ∧ a.nanos < b.nanos⟩

instance : DecidableLE Instant := fun _ _ => inferInstanceAs (Decidable (_ ∨ _))

instance : DecidableLT Instant := fun _ _ => inferInstanceAs (Decidable (_ ∨ _))

/-- Whether a point in time lies in a leap second. -/
def isLeap (t : Instant) : Bool := 1000000000 ≤ t.nanos

/-- The second of the day. -/
def ofDay (t : Instant) : Int := t.second % 86400

/-- The start of the calendar, the first moment of the year -262143. -/
def first : Instant := ofSecond (-8334601228800) 0

/-- The end of the calendar, the last nanosecond of a leap second after the year 262142. -/
def last : Instant := ⟨8210266876799, 1999999999, by decide⟩

/-- Whether the calendar holds a point in time. -/
def isRepresentable (t : Instant) : Bool := first ≤ t && t ≤ last

/-- A point in time, if the calendar holds it. -/
def represented? (t : Instant) : Option Instant := if isRepresentable t then some t else none

/-- The point in time that lies a duration later. After a leap second the next one begins. -/
def later (t : Instant) (d : Duration) : Instant :=
  if h : t.isLeap = true ∧ t.nanos + d < 2000000000 then ⟨t.second, t.nanos + d, h.2⟩
  else ofSecond t.second (t.nanos % 1000000000 + d)

instance : HAdd Instant Duration Instant := ⟨later⟩

/-- The point in time that lies a duration earlier. -/
def earlier (t : Instant) (d : Duration) : Instant :=
  if 1000000000 + d ≤ t.nanos then ⟨t.second, t.nanos - d, Nat.lt_of_le_of_lt (Nat.sub_le _ _) t.nanos_lt⟩
  else ofNanos (t.second * 1000000000 + t.nanos - d)

/-- The leap seconds that count between two points in time. -/
def leaps (start finish : Instant) : Int :=
  if start.isLeap = true ∧ start.ofDay < finish.ofDay then 1
  else if finish.isLeap = true ∧ finish.ofDay < start.ofDay then -1
  else 0

/-- The time from a start to an end, zero if the end is the earlier one. -/
def elapsed (start finish : Instant) : Duration :=
  ((finish.second - start.second + leaps start finish) * 1000000000 + finish.nanos - start.nanos).toNat

end Instant

/-- A clock that only moves when it is told to; it moves by the step duration, if there is one, after
each step. -/
structure VirtualClock where
  time : Instant
  stepDuration : Option Duration := none
deriving DecidableEq, Repr, Inhabited

namespace VirtualClock

/-- The clock moved forward. A duration above the longest move leaves it where it is; no result past
the end of the calendar. -/
def forward? (c : VirtualClock) (d : Duration) : Option VirtualClock :=
  if d ≤ Duration.maxMove then
    (Instant.represented? (c.time + d)).map fun time => { c with time }
  else some c

/-- The clock set to a time. -/
def set (c : VirtualClock) (time : Instant) : VirtualClock := { c with time }

/-- The clock set to the time a duration ago, as a strategy sets it that turns the clock back. -/
def back? (c : VirtualClock) (d : Duration) : Option VirtualClock :=
  if d ≤ Duration.maxMove then (Instant.represented? (c.time.earlier d)).map c.set else some c

/-- The clock with a duration per step. -/
def withStepDuration (c : VirtualClock) (d : Duration) : VirtualClock :=
  { c with stepDuration := some d }

/-- The clock after a step. -/
def stepFinished? (c : VirtualClock) : Option VirtualClock :=
  match c.stepDuration with
  | none => some c
  | some d => c.forward? d

end VirtualClock

end Runbook
