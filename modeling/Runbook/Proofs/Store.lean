import Runbook.Proofs.Captured
import Runbook.Proofs.Retained

/-!
# The store of checkpoints

A store is a log of the latest checkpoints, read by indices from either end. A restore goes by what is read: where there
is nothing at an index, the session stays as it is.

* `CheckpointStore.pushed` : the store after some checkpoints; `pushed_suffix`, `length_pushed` : what it holds of them;
* `get?_eq`, `get?_isSome`, `latest?_eq` : what is read at an index, where there is something, and the latest one;
* `Session.restore` : whether a restore finds its checkpoint, and the session after it; `restore_of_none`,
  `restore_of_some` : by what is read at the index;
* `checkpoints_logged_and_restored` : stores and restores, for all capacities, checkpoints, sessions and indices.
-/

namespace Runbook

/-! ## Stores -/

namespace CheckpointStore

/-- A store of a capacity after checkpoints have been pushed onto it, one after the other. -/
def pushed (capacity : Nat) (cs : List Checkpoint) : CheckpointStore := cs.foldl .push (.empty capacity)

theorem entries_pushed (capacity : Nat) (cs : List Checkpoint) :
    (pushed capacity cs).entries = cs.drop (cs.length - max capacity 1) := by
  have hempty : (empty capacity).entries =
      ([] : List Checkpoint).drop (([] : List Checkpoint).length - (empty capacity).capacity) := List.drop_nil.symm
  exact entries_foldl_push cs hempty

/-- A store holds an end of what has been pushed, in the order of the pushes. -/
theorem pushed_suffix (capacity : Nat) (cs : List Checkpoint) : (pushed capacity cs).entries <:+ cs := by
  rw [entries_pushed]
  exact List.drop_suffix _ _

/-- A store holds all that has been pushed, up to its capacity. -/
theorem length_pushed (capacity : Nat) (cs : List Checkpoint) :
    (pushed capacity cs).entries.length = min cs.length (max capacity 1) := by
  rw [entries_pushed, List.length_drop]
  omega

variable (store : CheckpointStore) {i : Int}

theorem get?_of_nonneg (h : 0 ≤ i) : store.get? i = store.entries[i.toNat]? := by
  unfold get? position?
  rw [if_pos h, Option.bind_some]

theorem get?_of_neg (h : i < 0) (hle : -(store.entries.length : Int) ≤ i) :
    store.get? i = store.entries[(store.entries.length + i).toNat]? := by
  have hplace : store.entries.length - i.natAbs = (store.entries.length + i).toNat := by omega
  unfold get? position?
  rw [if_neg (by omega), if_pos (by omega), Option.bind_some, hplace]

theorem get?_of_lt (h : i < -(store.entries.length : Int)) : store.get? i = none := by
  unfold get? position?
  rw [if_neg (by omega), if_neg (by omega), Option.bind_none]

/-- An index from 0 on counts from the oldest entry, a negative one from the end, and there is nothing past either
end. -/
theorem get?_eq (i : Int) : store.get? i =
    if 0 ≤ i ∧ i < store.entries.length then store.entries[i.toNat]?
    else if -(store.entries.length : Int) ≤ i ∧ i < 0 then store.entries[(store.entries.length + i).toNat]?
    else none := by
  by_cases hfront : 0 ≤ i ∧ i < store.entries.length
  · rw [if_pos hfront, store.get?_of_nonneg hfront.1]
  · rw [if_neg hfront]
    by_cases hback : -(store.entries.length : Int) ≤ i ∧ i < 0
    · rw [if_pos hback, store.get?_of_neg hback.2 hback.1]
    · rw [if_neg hback]
      by_cases hneg : i < 0
      · exact store.get?_of_lt (by omega)
      · rw [store.get?_of_nonneg (by omega), List.getElem?_eq_none (by omega)]

theorem get?_isSome (i : Int) :
    (store.get? i).isSome = true ↔ -(store.entries.length : Int) ≤ i ∧ i < store.entries.length := by
  rw [store.get?_eq]
  split
  · next h =>
    rw [List.getElem?_eq_getElem (by omega), Option.isSome_some]
    exact iff_of_true rfl (by omega)
  · split
    · rw [List.getElem?_eq_getElem (by omega), Option.isSome_some]
      exact iff_of_true rfl (by omega)
    · exact iff_of_false (by simp) (by omega)

theorem latest?_eq : store.latest? = store.get? (-1) := by
  unfold latest?
  rw [List.getLast?_eq_getElem?]
  by_cases hempty : store.entries.length = 0
  · rw [store.get?_of_lt (by omega), List.getElem?_eq_none (by omega)]
  · have hplace : (store.entries.length + (-1 : Int)).toNat = store.entries.length - 1 := by omega
    rw [store.get?_of_neg (by omega) (by omega), hplace]

end CheckpointStore

/-! ## Restores -/

namespace Session

variable {s : Session} {i : Int}

/-- Whether a restore finds a checkpoint at its index, and the session after it. -/
def restore (s : Session) (i : Int) : Bool × Session :=
  match s.restore? i with
  | some s' => (true, s')
  | none => (false, s)

theorem restore_of_none (h : s.checkpoints.get? i = none) : s.restore i = (false, s) := by
  unfold restore restore?
  rw [h, Option.map_none]

theorem restore_of_some {c : Checkpoint} (h : s.checkpoints.get? i = some c) : s.restore i =
    (true, { s with state := c.state, cursor := c.cursor, trace := s.trace.take c.traceLength, attempt := 1 }) := by
  unfold restore restore?
  rw [h, Option.map_some]

theorem restore_found (s : Session) (i : Int) : (s.restore i).1 = (s.checkpoints.get? i).isSome := by
  cases h : s.checkpoints.get? i with
  | none => rw [restore_of_none h, Option.isSome_none]
  | some c => rw [restore_of_some h, Option.isSome_some]

/-- Only the state, the cursor, the trace and the number of the attempt change. -/
theorem restore_keeps (s : Session) (i : Int) : (s.restore i).2 =
    { s with
      state := (s.restore i).2.state
      cursor := (s.restore i).2.cursor
      trace := (s.restore i).2.trace
      attempt := (s.restore i).2.attempt } := by
  cases h : s.checkpoints.get? i with
  | none => rw [restore_of_none h]
  | some c => rw [restore_of_some h]

/-- The same restore again finds the same checkpoint, and changes nothing more. -/
theorem restore_restore (s : Session) (i : Int) : (s.restore i).2.restore i = s.restore i := by
  cases h : s.checkpoints.get? i with
  | none => rw [restore_of_none h, restore_of_none h]
  | some c =>
    have hkept : (s.restore i).2.checkpoints.get? i = some c := by
      rw [restore_keeps]
      exact h
    rw [restore_of_some hkept, restore_of_some h]
    simp only [List.take_take, Nat.min_self]

/-- **A bounded log, read from both ends.** A store of a capacity, at least one, holds the latest of the checkpoints that
have been pushed onto it, in the order of the pushes, as many as there are up to the capacity. An index from 0 on reads
from the oldest entry, a negative one from the end, and there is nothing past either end; the latest entry is at -1. A
restore in any session tells whether there is an entry at its index. If there is none, the session stays as it is;
otherwise its state and cursor are those of the entry, its trace is cut and its attempts are counted anew. In any case
its identifier, program, options, errors, checkpoints, outcome and time spent stay as they are, and the same restore
again tells the same and changes nothing more. -/
theorem checkpoints_logged_and_restored :
    (∀ capacity cs, (CheckpointStore.pushed capacity cs).entries <:+ cs ∧
      (CheckpointStore.pushed capacity cs).entries.length = min cs.length (max capacity 1)) ∧
    (∀ (store : CheckpointStore) (i : Int),
      let length : Int := store.entries.length
      store.get? i =
        (if 0 ≤ i ∧ i < length then store.entries[i.toNat]?
          else if -length ≤ i ∧ i < 0 then store.entries[(length + i).toNat]? else none) ∧
      ((store.get? i).isSome = true ↔ -length ≤ i ∧ i < length) ∧ store.latest? = store.get? (-1)) ∧
    ∀ (s : Session) (i : Int),
      (s.restore i).1 = (s.checkpoints.get? i).isSome ∧
      ((s.restore i).1 = false → (s.restore i).2 = s) ∧
      (∀ c, s.checkpoints.get? i = some c → (s.restore i).2.state = c.state ∧ (s.restore i).2.cursor = c.cursor ∧
        (s.restore i).2.trace = s.trace.take c.traceLength ∧ (s.restore i).2.attempt = 1) ∧
      (s.restore i).2.runId = s.runId ∧ (s.restore i).2.program = s.program ∧ (s.restore i).2.options = s.options ∧
      (s.restore i).2.errors = s.errors ∧ (s.restore i).2.checkpoints = s.checkpoints ∧
      (s.restore i).2.outcome = s.outcome ∧ (s.restore i).2.active = s.active ∧
      (s.restore i).2.restore i = s.restore i := by
  refine ⟨fun capacity cs => ⟨CheckpointStore.pushed_suffix capacity cs, CheckpointStore.length_pushed capacity cs⟩,
    fun store i => ⟨store.get?_eq i, store.get?_isSome i, store.latest?_eq⟩, fun s i => ?_⟩
  have hkeeps := s.restore_keeps i
  refine ⟨s.restore_found i, fun hnone => ?_, fun c hc => ?_, ?_, ?_, ?_, ?_, ?_, ?_, ?_, s.restore_restore i⟩
  · rw [restore_found, Option.isSome_eq_false_iff, Option.isNone_iff_eq_none] at hnone
    rw [restore_of_none hnone]
  · rw [restore_of_some hc]
    exact ⟨rfl, rfl, rfl, rfl⟩
  all_goals rw [hkeeps]

/-- A session that keeps three checkpoints has nothing at the least index of 64 bits, which it is left by as it is. -/
theorem checkpoints_logged_and_restored_past_end : (ranSession.restore (-9223372036854775808)).1 = false ∧
    (ranSession.restore (-9223372036854775808)).2 = ranSession := by
  have hlength : ranSession.checkpoints.entries.length = 3 := by decide +kernel
  obtain ⟨-, hread, hrestored⟩ := checkpoints_logged_and_restored
  obtain ⟨hfound, hnone, -⟩ := hrestored ranSession (-9223372036854775808)
  have hpast : ¬ (ranSession.checkpoints.get? (-9223372036854775808)).isSome = true := by
    rw [(hread ranSession.checkpoints (-9223372036854775808)).2.1, hlength]
    decide
  rw [Bool.not_eq_true] at hpast
  exact ⟨hfound.trans hpast, hnone (hfound.trans hpast)⟩

end Session

end Runbook
