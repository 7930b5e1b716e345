import Runbook.Digest.Canonical
import Runbook.Time.Clock

/-!
# Checkpoints

* `Checkpoint`, `Checkpoint.capture` : where a run stood, with the digest of its state;
* `CheckpointStore` : the latest checkpoints up to a capacity, the oldest first;
* `CheckpointStore.get?` : a checkpoint by its index, from the oldest on, or from the latest back for
  negative indices.
-/

namespace Runbook

/-- Where a run stood at one point. -/
structure Checkpoint where
  timestamp : Instant
  cursor : Option String
  state : State
  traceLength : Nat
  digest : String
deriving Repr, Inhabited

namespace Checkpoint

/-- A checkpoint with the digest of its state. -/
def capture (timestamp : Instant) (cursor : Option String) (state : State) (traceLength : Nat) :
    Checkpoint :=
  ⟨timestamp, cursor, state, traceLength, state.digest⟩

/-- Equal checkpoints; in their states the order of fields does not matter. -/
def same (a b : Checkpoint) : Bool :=
  a.timestamp == b.timestamp && a.cursor == b.cursor && a.state.same b.state
    && a.traceLength == b.traceLength && a.digest == b.digest

end Checkpoint

/-- The latest checkpoints, the oldest first, and how many are kept. -/
structure CheckpointStore where
  entries : List Checkpoint
  capacity : Nat
deriving Repr, Inhabited

namespace CheckpointStore

/-- A store without checkpoints; it keeps at least one. -/
def empty (capacity : Nat) : CheckpointStore := ⟨[], max capacity 1⟩

/-- The store with one more checkpoint; the oldest make room. -/
def push (s : CheckpointStore) (c : Checkpoint) : CheckpointStore :=
  let entries := s.entries ++ [c]
  { s with entries := entries.drop (entries.length - s.capacity) }

/-- The position that an index stands for: from the front on, or from the end back if it is
negative. -/
def position? (s : CheckpointStore) (index : Int) : Option Nat :=
  if 0 ≤ index then some index.toNat
  else if index.natAbs ≤ s.entries.length then some (s.entries.length - index.natAbs)
  else none

/-- The checkpoint at an index. -/
def get? (s : CheckpointStore) (index : Int) : Option Checkpoint :=
  (s.position? index).bind fun i => s.entries[i]?

/-- The latest checkpoint. -/
def latest? (s : CheckpointStore) : Option Checkpoint := s.entries.getLast?

end CheckpointStore

end Runbook
