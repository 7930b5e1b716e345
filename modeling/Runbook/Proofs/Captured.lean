import Runbook.Proofs.Path

/-!
# Checkpoints of a path

* `Takes.cursor_eq` : the cursor names the step of a turn;
* `Turn.captured` : the checkpoints that turns capture, by the length of the trace before them;
* `Path.checkpoints`, `Ran.checkpoints` : a path pushes them onto the store of its session, and so does a run;
* `Checkpoint.later`, `captured_add` : the same turns further on in a trace;
* `CheckpointStore.entries_foldl_push` : a store holds the latest of all the checkpoints pushed.
-/

namespace Runbook

variable {ω : Type}

theorem Program.name_eq_of_step? {p : Program} {name : String} {step : Step} (h : p.step? name = some step) :
    step.name = name := by
  have hname := List.find?_some h
  exact beq_iff_eq.mp hname

namespace CheckpointStore

variable {store : CheckpointStore} {all : List Checkpoint}

theorem capacity_foldl_push (cs : List Checkpoint) (store : CheckpointStore) :
    (cs.foldl .push store).capacity = store.capacity := by
  induction cs generalizing store with
  | nil => rfl
  | cons c cs ih => exact ih (store.push c)

theorem entries_push (h : store.entries = all.drop (all.length - store.capacity)) (c : Checkpoint) :
    (store.push c).entries = (all ++ [c]).drop ((all ++ [c]).length - store.capacity) := by
  have hle : all.length - store.capacity ≤ all.length := Nat.sub_le _ _
  unfold push
  simp only [h, List.length_append, List.length_drop, List.length_singleton]
  rw [← List.drop_append_of_le_length hle, List.drop_drop]
  congr 1
  omega

/-- A store that holds the latest of some checkpoints holds the latest of all of them after more have been pushed. -/
theorem entries_foldl_push (cs : List Checkpoint) (h : store.entries = all.drop (all.length - store.capacity)) :
    (cs.foldl .push store).entries = (all ++ cs).drop ((all ++ cs).length - store.capacity) := by
  induction cs generalizing store all with
  | nil => rw [List.append_nil]; exact h
  | cons c cs ih =>
    rw [List.append_cons, List.foldl_cons]
    exact ih (entries_push h c)

end CheckpointStore

/-- A checkpoint as it is after more records. -/
def Checkpoint.later (n : Nat) (c : Checkpoint) : Checkpoint := { c with traceLength := c.traceLength + n }

namespace Turn

/-- The checkpoint that a turn captures behind a trace of a length. -/
def mark? (t : Turn ω) (n : Nat) : Option Checkpoint :=
  t.capturedAt.map fun now => .capture now (if t.decision = .halt then none else some t.step.name) t.after (n + 1)

/-- The checkpoints that turns capture, one after the other, behind a trace of a length. -/
def captured : Nat → List (Turn ω) → List Checkpoint
  | _, [] => []
  | n, t :: ts => (t.mark? n).toList ++ captured (n + 1) ts

theorem captured_append (n : Nat) (as bs : List (Turn ω)) :
    captured n (as ++ bs) = captured n as ++ captured (n + as.length) bs := by
  induction as generalizing n with
  | nil => rfl
  | cons a as ih =>
    have hn : n + 1 + as.length = n + (as.length + 1) := by omega
    rw [List.cons_append, captured, captured, ih, List.append_assoc, List.length_cons, hn]

theorem captured_add (n k : Nat) (ts : List (Turn ω)) : captured (n + k) ts = (captured n ts).map (.later k) := by
  induction ts generalizing n with
  | nil => rfl
  | cons t ts ih =>
    have hn : n + k + 1 = n + 1 + k := by omega
    have hmark : (t.mark? (n + k)).toList = (t.mark? n).toList.map (.later k) := by
      unfold mark?
      rw [hn]
      cases t.capturedAt <;> rfl
    rw [captured, captured, hmark, hn, ih, List.map_append]

/-- Where every turn captures a checkpoint, those captured are one for each turn. -/
theorem captured_getElem? {ts : List (Turn ω)} (h : ∀ t ∈ ts, t.capturedAt.isSome = true) (n k : Nat) :
    (captured n ts)[k]? = ts[k]?.bind fun t => t.mark? (n + k) := by
  induction ts generalizing n k with
  | nil => rfl
  | cons t ts ih =>
    obtain ⟨ht, hts⟩ := List.forall_mem_cons.mp h
    obtain ⟨now, hnow⟩ := Option.isSome_iff_exists.mp ht
    obtain ⟨c, hc⟩ : ∃ c, t.mark? n = some c := by
      unfold mark?
      rw [hnow]
      exact ⟨_, rfl⟩
    rw [captured, hc, Option.toList_some, List.singleton_append]
    cases k with
    | zero => exact hc.symm
    | succ k =>
      have hn : n + 1 + k = n + (k + 1) := by omega
      rw [List.getElem?_cons_succ, List.getElem?_cons_succ, ih hts, hn]

theorem captured_length {ts : List (Turn ω)} (h : ∀ t ∈ ts, t.capturedAt.isSome = true) (n : Nat) :
    (captured n ts).length = ts.length := by
  induction ts generalizing n with
  | nil => rfl
  | cons t ts ih =>
    obtain ⟨ht, hts⟩ := List.forall_mem_cons.mp h
    obtain ⟨now, hnow⟩ := Option.isSome_iff_exists.mp ht
    unfold captured mark?
    rw [hnow, Option.map_some, Option.toList_some, List.singleton_append, List.length_cons, List.length_cons, ih hts]

end Turn

namespace Executor

variable {x : Executor ω} {started : Instant} {s m : Session} {w v : ω} {t : Turn ω} {turns : List (Turn ω)}

theorem Takes.cursor_eq (h : x.Takes started s w t v) : s.cursor = some t.step.name := by
  obtain ⟨name, hcursor, hstep⟩ := Option.bind_eq_some_iff.mp h.named
  rw [hcursor, Program.name_eq_of_step? hstep]

/-- What a turn captures does not depend on its session but for the length of the trace. -/
theorem Takes.checkpoint?_eq (h : x.Takes started s w t v) : t.checkpoint? s = t.mark? s.trace.length := by
  unfold Turn.checkpoint? Turn.cursor? Turn.mark?
  rw [h.cursor_eq]

theorem Path.checkpoints (h : x.Path started s w turns m v) :
    m.checkpoints = (Turn.captured s.trace.length turns).foldl .push s.checkpoints := by
  induction h with
  | nil => rfl
  | cons first rest ih =>
    rw [ih, Turn.apply_checkpoints, Turn.apply_trace, List.length_append, List.length_singleton, first.checkpoint?_eq,
      Turn.captured, List.foldl_append]

theorem Ran.checkpoints {s' : Session} {w' : ω} {o : Outcome} (h : x.Ran s w turns o s' w') :
    s'.checkpoints = (Turn.captured s.trace.length turns).foldl .push s.checkpoints := by
  obtain ⟨m, v, es, d, hpath, -, rfl⟩ := h.stops
  exact hpath.checkpoints

/-- The turns of a run capture checkpoints if the options ask for them. -/
theorem Ran.captured {s' : Session} {w' : ω} {o : Outcome} (h : x.Ran s w turns o s' w') :
    ∀ t ∈ turns, t.capturedAt.isSome = s.options.checkpoint := by
  intro t ht
  obtain ⟨m, v, es, d, hpath, -, -⟩ := h.stops
  obtain ⟨r, u, u', htakes, -, hoptions⟩ := hpath.taken t ht
  rw [← hoptions]
  exact htakes.captured

end Executor

end Runbook
