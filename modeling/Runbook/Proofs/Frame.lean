import Runbook.State.Basic

/-!
# What a write changes

A write goes down from the fields of the state name by name, creates objects where names are absent, and writes at the
last name. It stops where a name holds a value that is no object.

* `Json.Blocks v names segment` : a beginning of `names` that ends with `segment` leads to a value in `v` that is no
  object; `write_stop` : a write stops exactly at such a name;
* `write_of_stop` : a write that stops leaves the fields as they were, since nothing blocks a new object;
* `find?_write_self`, `find?_write_apart` : what is read after a write, at its names and at names apart from them;
* `State.namesAt` : the names of an object of the state, in order; `namesBelow_write` : where a write adds one;
* `write_write` : of two writes the later one counts;
* `State.WrittenAt`, `writePath_all_or_nothing` : the same of a write at a path.
-/

namespace Runbook

variable {value : Json} {fs sub : Fields} {name n segment : String} {names ns : List String}

/-! ## Reading below a field -/

/-- A beginning of the names, other than all of them, leads to a value that is no object; `segment` is its last name. -/
def Json.Blocks (v : Json) (names : List String) (segment : String) : Prop :=
  ∃ start, start.getLast? = some segment ∧ start <+: names ∧ start ≠ names ∧
    ∃ w, v.find? start = some w ∧ ∀ fs, w ≠ .obj fs

/-- The names of the object below a list of names, in order; none where there is no object. -/
def Json.namesBelow (v : Json) (level : List String) : List String :=
  match v.find? level with
  | some (.obj fs) => Fields.names fs
  | _ => []

namespace Json

theorem find?_cons (name : String) (names : List String) (fs : Fields) :
    find? (name :: names) (.obj fs) = (fs.get? name).bind (find? names) := rfl

theorem find?_of_ne_obj {v : Json} (hv : ∀ fs, v ≠ .obj fs) (hne : names ≠ []) : v.find? names = none := by
  obtain ⟨o, os, rfl⟩ := List.exists_cons_of_ne_nil hne
  cases v with
  | obj fs => exact absurd rfl (hv fs)
  | _ => rfl

theorem find?_empty (hne : names ≠ []) : find? names (.obj []) = none := by
  obtain ⟨o, os, rfl⟩ := List.exists_cons_of_ne_nil hne
  rfl

theorem find?_set_self (v : Json) : find? (name :: names) (.obj (fs.set name v)) = v.find? names := by
  rw [find?_cons, Fields.get?_set, if_pos rfl, Option.bind_some]

theorem find?_set_ne (v : Json) (h : n ≠ name) :
    find? (n :: names) (.obj (fs.set name v)) = find? (n :: names) (.obj fs) := by
  rw [find?_cons, Fields.get?_set, if_neg h, find?_cons]

end Json

namespace Fields

open Json

theorem enter?_eq_some (h : fs.enter? name = some sub) :
    (fs.get? name = none ∧ sub = []) ∨ fs.get? name = some (.obj sub) := by
  unfold enter? at h
  split at h
  · exact .inl ⟨‹_›, (Option.some.inj h).symm⟩
  · obtain rfl := Option.some.inj h
    exact .inr ‹_›
  · nomatch h

theorem enter?_eq_none (h : fs.enter? name = none) : ∃ v, fs.get? name = some v ∧ ∀ sub, v ≠ .obj sub := by
  unfold enter? at h
  split at h
  · nomatch h
  · nomatch h
  · next v hno hv => exact ⟨v, hv, fun sub hsub => hno sub hsub⟩

theorem find?_of_enter (h : fs.enter? name = some sub) (hne : names ≠ []) :
    find? (name :: names) (.obj fs) = find? names (.obj sub) := by
  rw [find?_cons]
  rcases enter?_eq_some h with ⟨hnone, rfl⟩ | hsome
  · rw [hnone, find?_empty hne, Option.bind_none]
  · rw [hsome, Option.bind_some]

theorem namesBelow_of_enter (h : fs.enter? name = some sub) (level : List String) :
    namesBelow (.obj fs) (name :: level) = namesBelow (.obj sub) level := by
  cases level with
  | cons l ls => simp only [namesBelow, find?_of_enter h (List.cons_ne_nil l ls)]
  | nil =>
    unfold namesBelow
    rw [find?_cons]
    rcases enter?_eq_some h with ⟨hnone, rfl⟩ | hsome
    · rw [hnone]
      rfl
    · rw [hsome]
      rfl

/-! ## One step down -/

theorem write_of_enter (h : fs.enter? name = some sub) :
    fs.write value name (n :: ns) = (fs.set name (.obj (sub.write value n ns).1), (sub.write value n ns).2) := by
  rw [write, h]

theorem write_of_blocked (h : fs.enter? name = none) : fs.write value name (n :: ns) = (fs, some name) := by
  rw [write, h]

theorem not_blocks_empty : ¬ Blocks (.obj []) names segment := by
  rintro ⟨start, hlast, -, -, w, hw, -⟩
  have hne : start ≠ [] := by
    rintro rfl
    nomatch hlast
  rw [find?_empty hne] at hw
  nomatch hw

theorem enter?_set_obj (fs sub : Fields) (name : String) : (fs.set name (.obj sub)).enter? name = some sub := by
  rw [enter?, get?_set, if_pos rfl]

/-- What blocks a list of names from an object on blocks the names from that object on. -/
theorem blocks_of_enter (h : fs.enter? name = some sub) :
    Blocks (.obj fs) (name :: names) segment ↔ Blocks (.obj sub) names segment := by
  constructor
  · rintro ⟨start, hlast, hpre, hne, w, hw, hno⟩
    cases start with
    | nil => nomatch hlast
    | cons o os =>
      obtain ⟨rfl, hpre'⟩ := List.cons_prefix_cons.mp hpre
      cases os with
      | nil =>
        -- the name itself holds an object or nothing
        rw [find?_cons] at hw
        rcases enter?_eq_some h with ⟨hnone, -⟩ | hsome
        · rw [hnone] at hw
          nomatch hw
        · rw [hsome] at hw
          exact absurd (Option.some.inj hw).symm (hno sub)
      | cons p ps =>
        rw [find?_of_enter h (List.cons_ne_nil p ps)] at hw
        exact ⟨p :: ps, by simpa using hlast, hpre', by simpa using hne, w, hw, hno⟩
  · rintro ⟨start, hlast, hpre, hne, w, hw, hno⟩
    have hstart : start ≠ [] := by
      rintro rfl
      nomatch hlast
    refine ⟨name :: start, ?_, List.cons_prefix_cons.mpr ⟨rfl, hpre⟩, by simpa using hne, w, ?_, hno⟩
    · rw [List.getLast?_cons_of_ne_nil hstart, hlast]
    · rw [find?_of_enter h hstart, hw]

/-- A name that holds no object blocks all names after it. -/
theorem blocks_of_blocked (h : fs.enter? name = none) :
    Blocks (.obj fs) (name :: n :: ns) segment ↔ segment = name := by
  obtain ⟨v, hv, hno⟩ := enter?_eq_none h
  constructor
  · rintro ⟨start, hlast, hpre, -, w, hw, -⟩
    cases start with
    | nil => nomatch hlast
    | cons o os =>
      obtain ⟨rfl, -⟩ := List.cons_prefix_cons.mp hpre
      cases os with
      | nil => simpa using hlast.symm
      | cons p ps =>
        rw [find?_cons, hv, Option.bind_some, find?_of_ne_obj hno (List.cons_ne_nil p ps)] at hw
        nomatch hw
  · rintro rfl
    refine ⟨[segment], rfl, by simp, by simp, v, ?_, hno⟩
    rw [find?_cons, hv]
    rfl

/-! ## The whole walk -/

/-- A write stops exactly at a name that blocks it. -/
theorem write_stop : (fs.write value name ns).2 = some segment ↔ Blocks (.obj fs) (name :: ns) segment := by
  induction ns generalizing fs name with
  | nil =>
    refine iff_of_false (fun h => nomatch h) ?_
    rintro ⟨start, hlast, hpre, hne, -⟩
    cases start with
    | nil => nomatch hlast
    | cons o os =>
      obtain ⟨rfl, hnil⟩ := List.cons_prefix_cons.mp hpre
      exact hne (by rw [List.prefix_nil.mp hnil])
  | cons n ns ih =>
    cases h : fs.enter? name with
    | some sub => rw [write_of_enter h, blocks_of_enter h, ih]
    | none => rw [write_of_blocked h, blocks_of_blocked h, Option.some.injEq, eq_comm]

/-- A write that stops leaves the fields as they were: it has gone through objects that were there before, since
below a new one nothing stops it. -/
theorem write_of_stop (h : (fs.write value name ns).2 = some segment) : (fs.write value name ns).1 = fs := by
  induction ns generalizing fs name with
  | nil => nomatch h
  | cons n ns ih =>
    cases henter : fs.enter? name with
    | none => rw [write_of_blocked henter]
    | some sub =>
      rw [write_of_enter henter] at h ⊢
      have hsub := ih h
      rcases enter?_eq_some henter with ⟨-, rfl⟩ | hsome
      · exact absurd (write_stop.mp h) not_blocks_empty
      · show fs.set name (.obj (sub.write value n ns).1) = fs
        rw [hsub, set_of_get? hsome]

/-- A write that goes through sets one field, to whatever it leaves below. -/
theorem exists_write_eq_set (h : (fs.write value name ns).2 = none) : ∃ v, (fs.write value name ns).1 = fs.set name v := by
  cases ns with
  | nil => exact ⟨value, rfl⟩
  | cons n ns =>
    cases henter : fs.enter? name with
    | none =>
      rw [write_of_blocked henter] at h
      nomatch h
    | some sub => exact ⟨_, by rw [write_of_enter henter]⟩

theorem find?_write_self (h : (fs.write value name ns).2 = none) :
    find? (name :: ns) (.obj (fs.write value name ns).1) = some value := by
  induction ns generalizing fs name with
  | nil => exact find?_set_self value
  | cons n ns ih =>
    cases henter : fs.enter? name with
    | none =>
      rw [write_of_blocked henter] at h
      nomatch h
    | some sub =>
      rw [write_of_enter henter] at h ⊢
      rw [find?_set_self]
      exact ih h

/-- Names of which none starts the others lead where they led before. -/
theorem find?_write_apart {other : List String} (hstart : ¬ other <+: name :: ns) (hbelow : ¬ name :: ns <+: other) :
    find? other (.obj (fs.write value name ns).1) = find? other (.obj fs) := by
  induction ns generalizing fs name other with
  | nil =>
    cases other with
    | nil => exact absurd List.nil_prefix hstart
    | cons o os =>
      have ho : o ≠ name := by
        rintro rfl
        exact hbelow (by simp)
      exact find?_set_ne value ho
  | cons n ns ih =>
    cases other with
    | nil => exact absurd List.nil_prefix hstart
    | cons o os =>
      cases henter : fs.enter? name with
      | none => rw [write_of_blocked henter]
      | some sub =>
        rw [write_of_enter henter]
        by_cases ho : o = name
        · subst ho
          have hos : ¬ os <+: n :: ns := fun h => hstart (List.cons_prefix_cons.mpr ⟨rfl, h⟩)
          have hne : os ≠ [] := by
            rintro rfl
            exact hos List.nil_prefix
          rw [find?_set_self, ih hos fun h => hbelow (List.cons_prefix_cons.mpr ⟨rfl, h⟩), find?_of_enter henter hne]
        · exact find?_set_ne _ ho

/-- On the way down each object keeps its names in order, and gets the next name as its last one if that is new. -/
theorem namesBelow_write {level : List String} (h : (fs.write value name ns).2 = none)
    (hlevel : level ++ [n] <+: name :: ns) : namesBelow (.obj (fs.write value name ns).1) level =
      if n ∈ namesBelow (.obj fs) level then namesBelow (.obj fs) level else namesBelow (.obj fs) level ++ [n] := by
  induction level generalizing fs name ns with
  | nil =>
    obtain ⟨rfl, -⟩ := List.cons_prefix_cons.mp hlevel
    obtain ⟨v, hv⟩ := exists_write_eq_set h
    rw [hv]
    exact names_set n v fs
  | cons l ls ih =>
    rw [List.cons_append] at hlevel
    obtain ⟨rfl, hlevel'⟩ := List.cons_prefix_cons.mp hlevel
    cases ns with
    | nil => simp at hlevel'
    | cons m ms =>
      cases henter : fs.enter? l with
      | none =>
        rw [write_of_blocked henter] at h
        nomatch h
      | some sub =>
        rw [write_of_enter henter] at h ⊢
        have hset (v : Json) : namesBelow (.obj (fs.set l v)) (l :: ls) = namesBelow v ls := by
          simp only [namesBelow, find?_set_self]
        rw [hset, namesBelow_of_enter henter]
        exact ih h hlevel'

/-- Of two writes below the same names the later one counts. -/
theorem write_write (first : Json) : (fs.write first name ns).1.write value name ns = fs.write value name ns := by
  induction ns generalizing fs name with
  | nil => simp only [write, set_set]
  | cons n ns ih =>
    cases henter : fs.enter? name with
    | none => rw [write_of_blocked henter]
    | some sub =>
      rw [write_of_enter henter, write_of_enter (enter?_set_obj fs _ name), ih, write_of_enter henter, set_set]

end Fields

/-! ## Writes at a path -/

namespace State

/-- The names of the object of the state below a list of names, in order. -/
def namesAt (s : State) (level : List String) : List String := s.toJson.namesBelow level

/-- `s'` is `s` with a value written below a list of names. -/
structure WrittenAt (s : State) (names : List String) (value : Json) (s' : State) : Prop where
  found : s'.find? names = some value
  apart : ∀ other, ¬ other <+: names → ¬ names <+: other → s'.find? other = s.find? other
  order : ∀ level, ¬ names <+: level → s.namesAt level <+: s'.namesAt level
  last : ∀ level name, level ++ [name] <+: names →
    s'.namesAt level = if name ∈ s.namesAt level then s.namesAt level else s.namesAt level ++ [name]

theorem trimmedNames_ne_nil (path : String) : Path.trimmedNames path ≠ [] := by
  have hsplit (s : List Char) : Path.split s ≠ [] := by
    unfold Path.split
    split
    · exact List.cons_ne_nil _ _
    · exact List.cons_ne_nil _ _
    · split <;> exact List.cons_ne_nil _ _
  simpa [Path.trimmedNames, Path.names] using hsplit path.toList

theorem writePath_of_blank {s : State} {path : String} (h : "" ∈ Path.trimmedNames path) :
    s.writePath path value = (.error .emptyPath, s) := by
  unfold writePath
  rw [if_pos (List.any_eq_true.mpr ⟨"", h, rfl⟩)]

/-- A write at names of which none is empty is the walk down the fields. -/
theorem writePath_eq (s : State) (v : Json) {path : String} (hnames : Path.trimmedNames path = n :: ns)
    (h : "" ∉ Path.trimmedNames path) : s.writePath path v =
      ((s.fields.write v n ns).2.elim (.ok ()) fun segment => .error (.conflict path segment),
        ⟨(s.fields.write v n ns).1⟩) := by
  have hany : ¬ (Path.trimmedNames path).any (· == "") = true := by simpa using h
  unfold writePath
  rw [if_neg hany, hnames]
  dsimp only
  cases (s.fields.write v n ns).2 <;> rfl

/-- A write depends on what it does to the fields only. -/
theorem writePath_congr {s t : State} {path : String} (hnames : Path.trimmedNames path = n :: ns)
    (h : "" ∉ Path.trimmedNames path) (hfields : s.fields.write value n ns = t.fields.write value n ns) :
    s.writePath path value = t.writePath path value := by
  rw [writePath_eq s value hnames h, writePath_eq t value hnames h, hfields]

theorem writePath_of_names (s : State) (v : Json) {path : String} (hnames : Path.trimmedNames path = n :: ns)
    (h : "" ∉ Path.trimmedNames path) :
    (s.writePath path v).2 = ⟨(s.fields.write v n ns).1⟩ ∧
      ((s.writePath path v).1 = .ok () ↔ (s.fields.write v n ns).2 = none) ∧
      ∀ e, (s.writePath path v).1 = .error e ↔
        ∃ segment, e = .conflict path segment ∧ (s.fields.write v n ns).2 = some segment := by
  rw [writePath_eq s v hnames h]
  cases hstop : (s.fields.write v n ns).2 with
  | none => simp
  | some segment => simp [eq_comm]

theorem writtenAt_write {s : State} (h : (s.fields.write value n ns).2 = none) :
    s.WrittenAt (n :: ns) value ⟨(s.fields.write value n ns).1⟩ := by
  have hlast (level : List String) (name : String) (hlevel : level ++ [name] <+: n :: ns) :=
    Fields.namesBelow_write h hlevel
  refine ⟨Fields.find?_write_self h, fun other => Fields.find?_write_apart, ?_, hlast⟩
  intro level hlevel
  show s.toJson.namesBelow level <+: Json.namesBelow (.obj (s.fields.write value n ns).1) level
  by_cases hpre : level <+: n :: ns
  · obtain ⟨rest, hrest⟩ := hpre
    cases rest with
    | nil =>
      rw [List.append_nil] at hrest
      exact absurd (hrest ▸ List.prefix_refl level) hlevel
    | cons k rest =>
      have hk : level ++ [k] <+: n :: ns := ⟨rest, by rw [← hrest]; simp⟩
      rw [hlast level k hk]
      split
      · exact List.prefix_refl _
      · exact List.prefix_append _ _
  · have hsame : Json.namesBelow (.obj (s.fields.write value n ns).1) level = s.toJson.namesBelow level := by
      unfold Json.namesBelow
      rw [Fields.find?_write_apart hpre hlevel]
      rfl
    exact hsame ▸ List.prefix_refl _

theorem writtenAt_of_ok {s : State} {path : String} (h : (s.writePath path value).1 = .ok ()) :
    s.WrittenAt (Path.trimmedNames path) value (s.writePath path value).2 := by
  by_cases hblank : "" ∈ Path.trimmedNames path
  · rw [writePath_of_blank hblank] at h
    nomatch h
  · obtain ⟨n, ns, hnames⟩ := List.exists_cons_of_ne_nil (trimmedNames_ne_nil path)
    obtain ⟨hstate, hok, -⟩ := writePath_of_names s value hnames hblank
    rw [hstate, hnames]
    exact writtenAt_write (hok.mp h)

theorem setPath_eq_ok {s s' : State} {path : String} :
    s.setPath path value = .ok s' ↔ s.writePath path value = (.ok (), s') := by
  unfold setPath
  rcases s.writePath path value with ⟨result, t⟩
  cases result <;> simp [Except.map]

theorem writtenAt_of_setPath {s s' : State} {path : String} (h : s.setPath path value = .ok s') :
    s.WrittenAt (Path.trimmedNames path) value s' := by
  have hwritten := setPath_eq_ok.mp h
  have hat : s.WrittenAt (Path.trimmedNames path) value (s.writePath path value).2 :=
    writtenAt_of_ok (by rw [hwritten])
  rwa [hwritten] at hat

/-- **A write is whole or not at all, and touches nothing else.** It fails where a name is empty, or else where a
beginning of the names leads to a value that is no object, and leaves the state as it was. A write that does not fail
leaves its value at its names, and everything apart from them as it was; objects keep the order of their names, and a
new name comes last. Of two writes the later one counts. -/
theorem writePath_all_or_nothing (s : State) (path : String) (value : Json) :
    ((s.writePath path value).1 = .error .emptyPath ↔ "" ∈ Path.trimmedNames path) ∧
      ("" ∉ Path.trimmedNames path → ∀ segment, (s.writePath path value).1 = .error (.conflict path segment) ↔
        s.toJson.Blocks (Path.trimmedNames path) segment) ∧
      (∀ e, (s.writePath path value).1 = .error e →
        (e = .emptyPath ∨ ∃ segment, e = .conflict path segment) ∧ (s.writePath path value).2 = s) ∧
      ((s.writePath path value).1 = .ok () →
        s.WrittenAt (Path.trimmedNames path) value (s.writePath path value).2) ∧
      ∀ first, (s.writePath path first).2.writePath path value = s.writePath path value := by
  by_cases hblank : "" ∈ Path.trimmedNames path
  · simp only [writePath_of_blank hblank]
    refine ⟨by simp [hblank], fun h => absurd hblank h, fun e he => ?_, fun h => ?_, fun first => trivial⟩
    · exact ⟨.inl (Except.error.inj he).symm, trivial⟩
    · nomatch h
  · obtain ⟨n, ns, hnames⟩ := List.exists_cons_of_ne_nil (trimmedNames_ne_nil path)
    obtain ⟨hstate, -, herror⟩ := writePath_of_names s value hnames hblank
    have hblocks (segment : String) : (s.fields.write value n ns).2 = some segment ↔
        s.toJson.Blocks (Path.trimmedNames path) segment := by
      rw [hnames]
      exact Fields.write_stop
    refine ⟨?_, fun _ segment => ?_, fun e he => ?_, writtenAt_of_ok, fun first => ?_⟩
    · refine iff_of_false (fun h => ?_) hblank
      obtain ⟨segment, hsegment, -⟩ := (herror _).mp h
      nomatch hsegment
    · rw [herror, ← hblocks]
      simp
    · obtain ⟨segment, rfl, hstop⟩ := (herror e).mp he
      exact ⟨.inr ⟨segment, rfl⟩, by rw [hstate, Fields.write_of_stop hstop]⟩
    · obtain ⟨hfirst, -, -⟩ := writePath_of_names s first hnames hblank
      rw [hfirst]
      exact writePath_congr hnames hblank (Fields.write_write first)

end State

end Runbook
