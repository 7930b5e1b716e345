import Runbook.Proofs.Dotted
import Runbook.Proofs.Frame

/-!
# Path texts with blanks around their names

Writing takes the names of a path text without the blanks around them, reading takes them as they stand. So the two
agree on the text exactly if there are no such blanks.

* `Path.tidy` : a path text without the blanks around its names; `names_tidy` : its names are those that writing takes;
* `tidy_eq_self_iff` : a text is tidy if reading and writing take the same names from it;
* `getPath?_of_setPath_tidy` : what is read after a write, at its path text and at the tidy one;
* `blanks_hide_value` : a write that the same path text does not read back.
-/

namespace Runbook

open Text

namespace Path

/-- A path text without the blanks around its names. -/
def tidy (path : String) : String := ".".intercalate (trimmedNames path)

theorem split_eq_splitOn (s : List Char) : split s = s.splitOn '.' := by
  induction s with
  | nil => rfl
  | cons c s ih =>
    rw [List.splitOn_cons_eq_if_modifyHead, ← ih]
    by_cases hc : c = '.'
    · subst hc
      rfl
    · obtain ⟨n, ns, hs⟩ := exists_split_cons s
      rw [split_cons hc hs, hs]
      simp [hc]

theorem dot_not_mem_split {s name : List Char} (h : name ∈ split s) : '.' ∉ name := by
  induction s generalizing name with
  | nil =>
    obtain rfl := List.mem_singleton.mp h
    exact List.not_mem_nil
  | cons c s ih =>
    by_cases hc : c = '.'
    · subst hc
      rcases List.mem_cons.mp h with rfl | h
      · exact List.not_mem_nil
      · exact ih h
    · obtain ⟨n, ns, hs⟩ := exists_split_cons s
      rw [split_cons hc hs] at h
      rcases List.mem_cons.mp h with rfl | h
      · have hn : '.' ∉ n := ih (hs ▸ List.mem_cons_self)
        simp [Ne.symm hc, hn]
      · exact ih (hs ▸ List.mem_cons_of_mem n h)

theorem split_intercalate {parts : List (List Char)} (hdots : ∀ part ∈ parts, '.' ∉ part) (hne : parts ≠ []) :
    split (['.'].intercalate parts) = parts := by
  rw [split_eq_splitOn, List.splitOn_intercalate _ hdots hne]

theorem toList_intercalate_dot (names : List String) :
    (".".intercalate names).toList = ['.'].intercalate (names.map String.toList) := String.toList_intercalate

/-- The names of the tidy text are those that writing takes. -/
theorem names_tidy (path : String) : names (tidy path) = trimmedNames path := by
  have hdots : ∀ part ∈ (trimmedNames path).map String.toList, '.' ∉ part := by
    intro part hpart
    simp only [trimmedNames, names, List.map_map, List.mem_map] at hpart
    obtain ⟨name, hname, rfl⟩ := hpart
    have htrim : (trimString (String.ofList name)).toList = trim name := by simp [trimString]
    rw [Function.comp_apply, Function.comp_apply, htrim]
    exact fun hdot => dot_not_mem_split hname (mem_of_mem_trim hdot)
  have hne : (trimmedNames path).map String.toList ≠ [] := by simpa using State.trimmedNames_ne_nil path
  rw [names, tidy, toList_intercalate_dot, split_intercalate hdots hne, List.map_map]
  simp [Function.comp_def]

/-- A text is its names with dots between them. -/
theorem intercalate_names (path : String) : ".".intercalate (names path) = path := by
  rw [← String.toList_inj, toList_intercalate_dot, names, List.map_map]
  simp [Function.comp_def, split_eq_splitOn, List.intercalate_splitOn]

theorem tidy_eq_self_iff {path : String} : tidy path = path ↔ names path = trimmedNames path := by
  constructor
  · intro h
    rw [← names_tidy, h]
  · intro h
    rw [tidy, ← h, intercalate_names]

end Path

namespace State

variable {s s' : State} {path : String} {value : Json}

/-- Names that are as many as those of a write, but not the same, lead where they led before. -/
theorem find?_of_setPath_ne (h : s.setPath path value = .ok s') {names : List String}
    (hlen : names.length = (Path.trimmedNames path).length) (hne : names ≠ Path.trimmedNames path) :
    s'.find? names = s.find? names := by
  refine (writtenAt_of_setPath h).apart names (fun hpre => hne (hpre.eq_of_length hlen)) fun hpre => ?_
  exact hne (hpre.eq_of_length hlen.symm).symm

/-- **A written value is read at the tidy path text.** At the path text of the write itself it is read if that text is
tidy; if blanks stand around a name, that text reads what it read before. -/
theorem getPath?_of_setPath_tidy (h : s.setPath path value = .ok s') :
    s'.getPath? (Path.tidy path) = some value ∧ s'.hasPath (Path.tidy path) = true ∧
      s'.getPath? path = (if Path.tidy path = path then some value else s.getPath? path) ∧
      s'.hasPath path = (decide (Path.tidy path = path) || s.hasPath path) := by
  have htidy : s'.getPath? (Path.tidy path) = some value := by
    rw [getPath?, Path.names_tidy]
    exact (writtenAt_of_setPath h).found
  have hpath : s'.getPath? path = if Path.tidy path = path then some value else s.getPath? path := by
    split
    · next heq => rwa [heq] at htidy
    · next hne =>
      have hlen : (Path.names path).length = (Path.trimmedNames path).length := by simp [Path.trimmedNames]
      exact find?_of_setPath_ne h hlen fun hnames => hne (Path.tidy_eq_self_iff.mpr hnames)
  refine ⟨htidy, by rw [hasPath, htidy]; rfl, hpath, ?_⟩
  rw [hasPath, hpath, hasPath]
  split <;> simp [*]

/-- A field whose name ends with a blank is what the path text reads, before the write and after it. -/
theorem getPath?_of_setPath_tidy_stale :
    let s : State := ⟨[("a ", .obj [("b", .bool false)])]⟩
    let s' : State := ⟨[("a ", .obj [("b", .bool false)]), ("a", .obj [("b", .bool true)])]⟩
    s.setPath "a .b" (.bool true) = .ok s' ∧
      s'.getPath? "a.b" = some (.bool true) ∧ s'.hasPath "a.b" = true ∧
      s'.getPath? "a .b" = some (.bool false) ∧ s'.hasPath "a .b" = true := by
  have htidy : Path.tidy "a .b" = "a.b" := by decide
  have hset : State.setPath ⟨[("a ", .obj [("b", .bool false)])]⟩ "a .b" (.bool true) =
      .ok ⟨[("a ", .obj [("b", .bool false)]), ("a", .obj [("b", .bool true)])]⟩ := by rfl
  obtain ⟨hread, hhas, hpath, hhaspath⟩ := getPath?_of_setPath_tidy hset
  rw [htidy] at hread hhas hpath hhaspath
  exact ⟨hset, hread, hhas, hpath, hhaspath⟩

/-- A write at a path text with a blank before its name is not read back at that text. -/
theorem blanks_hide_value : ¬ ∀ (s s' : State) (path : String) (value : Json), s.setPath path value = .ok s' →
    s'.getPath? path = some value ∧ s'.hasPath path = true := by
  intro h
  have hread := h empty ⟨[("a", .bool true)]⟩ " a" (.bool true) rfl
  exact absurd hread.2 (by decide)

end State

end Runbook
