import Runbook.Json.Basic
import Runbook.State.Path

/-!
# Execution state

The state is one JSON object; actions write it, conditions read it.

* `State` : the fields of the object; `State.same` : equality whatever the order of fields;
* `State.find?` : the value below a list of names; `Fields.write` : a value written below a list of
  names in one walk down, objects created on the way where names are absent;
* `State.getPath?`, `State.writePath` : the same for a path text. Reading takes the names as they
  stand, writing takes them without the blanks around them;
* `State.setPath` : the state after a write, or its error;
* `State.isCompleted` : the field `completed` is true, which ends a run.
-/

namespace Runbook

/-- Why a value is no state or a state cannot be written. -/
inductive StateError where
  | notAnObject (kind : String)
  | conflict (path segment : String)
  | emptyPath
deriving DecidableEq, Repr

/-- The wording of a state error. -/
def StateError.message : StateError → String
  | notAnObject kind => "Initial state must be a JSON object, got: " ++ kind
  | conflict path segment => "Cannot write '" ++ path ++ "': '" ++ segment ++ "' is not an object"
  | emptyPath => "Empty state path"

/-! ## Values below names -/

/-- The value below a list of names. -/
def Json.find? : List String → Json → Option Json
  | [], v => some v
  | n :: ns, .obj fs => (Fields.get? n fs).bind (find? ns)
  | _ :: _, _ => none

/-- The fields below a name, those of a new object where the name is absent; none where its value is
no object. -/
def Fields.enter? (name : String) (fs : Fields) : Option Fields :=
  match fs.get? name with
  | none => some []
  | some (.obj sub) => some sub
  | some _ => none

/-- Fields as a write below a name and further names leaves them, and the name that stops the write, if
one does. The objects that it creates on its way down stay, wherever it stops. -/
def Fields.write (value : Json) (fs : Fields) (name : String) : List String → Fields × Option String
  | [] => (fs.set name value, none)
  | n :: ns =>
    match fs.enter? name with
    | some sub =>
      let below := Fields.write value sub n ns
      (fs.set name (.obj below.1), below.2)
    | none => (fs, some name)

/-! ## States -/

/-- The data that a program reads and writes: the fields of one object. -/
structure State where
  fields : Fields
deriving Repr, Inhabited

namespace State

/-- The field that ends a run when it is true. -/
def completedName : String := "completed"

/-- The state without fields. -/
def empty : State := ⟨[]⟩

/-- The state as a value. -/
def toJson (s : State) : Json := .obj s.fields

/-- The state of a value, which must be an object. -/
def ofJson : Json → Except StateError State
  | .obj fs => .ok ⟨fs⟩
  | v => .error (.notAnObject v.kindName)

/-- Equal states; the order of fields does not matter. -/
def same (s t : State) : Bool := s.toJson.same t.toJson

/-- The value of a field. -/
def get? (s : State) (name : String) : Option Json := s.fields.get? name

/-- The state with a field written. -/
def set (s : State) (name : String) (value : Json) : State := ⟨s.fields.set name value⟩

/-- The value below a list of names. -/
def find? (s : State) (names : List String) : Option Json := s.toJson.find? names

/-- The value at a path, its names as they stand. -/
def getPath? (s : State) (path : String) : Option Json := s.find? (Path.names path)

/-- Whether there is a value at a path. -/
def hasPath (s : State) (path : String) : Bool := (s.getPath? path).isSome

/-- Writes a value at a path, its names without the blanks around them: how that ends, and the state that
it leaves. -/
def writePath (s : State) (path : String) (value : Json) : Except StateError Unit × State :=
  let names := Path.trimmedNames path
  if names.any (· == "") then (.error .emptyPath, s)
  else match names with
    | [] => (.error .emptyPath, s)
    | n :: ns =>
      let written := s.fields.write value n ns
      match written.2 with
      | none => (.ok (), ⟨written.1⟩)
      | some segment => (.error (.conflict path segment), ⟨written.1⟩)

/-- The state with a value written at a path. -/
def setPath (s : State) (path : String) (value : Json) : Except StateError State :=
  let written := s.writePath path value
  written.1.map fun _ => written.2

/-- Whether the state ends a run. -/
def isCompleted (s : State) : Bool :=
  match s.get? completedName with
  | some (.bool b) => b
  | _ => false

/-- The state that ends a run. -/
def markCompleted (s : State) : State := s.set completedName (.bool true)

/-- The number of fields. -/
def size (s : State) : Nat := s.fields.length

end State

end Runbook
