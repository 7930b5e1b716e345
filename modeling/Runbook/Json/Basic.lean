import Runbook.Number.Basic

/-!
# JSON values

* `Json`, `Fields` : a value, and the fields of an object in their order of arrival;
* `Fields.get?`, `Fields.set` : the first field of a name counts; a written field keeps its place,
  a new one comes last;
* `Json.same` : equality of values, in which the order of fields does not matter;
* `Json.kindName` : the word for a value's kind in messages.
-/

namespace Runbook

/-- A JSON value. An object is the list of its fields. -/
inductive Json where
  | null
  | bool (b : Bool)
  | num (n : Number)
  | str (s : String)
  | arr (items : List Json)
  | obj (fields : List (String × Json))
deriving Repr, Inhabited

/-- The fields of an object, in order of arrival. -/
abbrev Fields := List (String × Json)

namespace Fields

/-- The value of the first field with a name. -/
def get? (name : String) : Fields → Option Json
  | [] => none
  | (k, v) :: fs => if k = name then some v else get? name fs

/-- The fields with a value written under a name: in the place of the first field of that name, or
else at the end. -/
def set (name : String) (value : Json) : Fields → Fields
  | [] => [(name, value)]
  | (k, v) :: fs => if k = name then (k, value) :: fs else (k, v) :: set name value fs

/-- The names of the fields, in order. -/
def names (fs : Fields) : List String := fs.map (·.1)

theorem get?_set (name : String) (value : Json) (fs : Fields) (k : String) :
    get? k (set name value fs) = if k = name then some value else get? k fs := by
  induction fs with
  | nil => simp [set, get?, eq_comm]
  | cons f fs ih =>
    obtain ⟨n, v⟩ := f
    by_cases h : n = name
    · subst h
      by_cases hk : n = k
      · subst hk; simp [set, get?]
      · simp [set, get?, hk, Ne.symm hk]
    · simp only [set, h, if_false, get?, ih]
      by_cases hk : n = k
      · subst hk; simp [h]
      · simp [hk]

/-- Writing a present field moves nothing, writing a new one adds its name at the end. -/
theorem names_set (name : String) (value : Json) (fs : Fields) :
    names (set name value fs) = if name ∈ names fs then names fs else names fs ++ [name] := by
  induction fs with
  | nil => simp [set, names]
  | cons f fs ih =>
    obtain ⟨n, v⟩ := f
    by_cases h : n = name
    · simp [set, names, h]
    · simp only [names] at ih
      simp only [set, h, if_false, names, List.map_cons, List.mem_cons, ih, Ne.symm h, false_or]
      split <;> simp_all

/-- Of two values written under a name the later one counts. -/
theorem set_set (name : String) (v w : Json) (fs : Fields) : set name w (set name v fs) = set name w fs := by
  induction fs with
  | nil => simp [set]
  | cons f fs ih =>
    obtain ⟨n, u⟩ := f
    by_cases h : n = name
    · simp [set, h]
    · simp [set, h, ih]

/-- Writing the value that a name has already changes nothing. -/
theorem set_of_get? {name : String} {v : Json} {fs : Fields} (h : get? name fs = some v) : set name v fs = fs := by
  induction fs with
  | nil => nomatch h
  | cons f fs ih =>
    obtain ⟨n, u⟩ := f
    by_cases hn : n = name
    · simp only [get?, if_pos hn, Option.some.injEq] at h
      simp [set, hn, h]
    · simp only [get?, if_neg hn] at h
      simp [set, hn, ih h]

end Fields

namespace Json

/-- The word for a value's kind. -/
def kindName : Json → String
  | null => "null"
  | bool _ => "boolean"
  | num _ => "number"
  | str _ => "string"
  | arr _ => "array"
  | obj _ => "object"

/-! ## Equality of values -/

mutual

/-- Equal values: numbers by value and form, lists item by item, objects field by field whatever
their order. -/
def same : Json → Json → Bool
  | null, null => true
  | bool a, bool b => a == b
  | num a, num b => a.same b
  | str a, str b => a == b
  | arr xs, arr ys => sameItems xs ys
  | obj fs, obj gs => gs.all (fun g => (Fields.get? g.1 fs).isSome) && sameFields [] fs gs
  | _, _ => false

/-- Equal lists of values. -/
def sameItems : List Json → List Json → Bool
  | [], [] => true
  | x :: xs, y :: ys => same x y && sameItems xs ys
  | _, _ => false

/-- Every field of the first list whose name is not in `seen` has an equal one in the second. -/
def sameFields (seen : List String) : List (String × Json) → List (String × Json) → Bool
  | [], _ => true
  | (k, v) :: fs, gs =>
    (k ∈ seen || match Fields.get? k gs with
      | some w => same v w
      | none => false) && sameFields (k :: seen) fs gs

end

end Json

end Runbook
