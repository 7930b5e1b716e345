import Runbook.Program.Basic
import Runbook.Json.Shape

/-!
# Programs as JSON values

* `Program.toJson` : a program as an object, names in fixed order;
* `Program.ofJson` : the program of a value; an object by its field names, others ignored, or a list
  of the fields in order. A step may leave out its actions and conditions.
-/

namespace Runbook

open Json (Mismatch asList asString)

/-- A step as an object. -/
def Step.toJson (s : Step) : Json :=
  .obj [("name", .str s.name), ("actions", .arr (s.actions.map .str)),
    ("conditions", .arr (s.conditions.map .str))]

/-- A program as an object. -/
def Program.toJson (p : Program) : Json :=
  .obj [("name", .str p.name), ("goal", .str p.goal), ("steps", .arr (p.steps.map Step.toJson))]

namespace Step

/-- The fields of a step met so far. -/
structure Draft where
  name : Option String
  actions : List String
  conditions : List String

/-- One more field of a step. -/
def Draft.read (d : Draft) : String × Json → Except Mismatch Draft
  | ("name", v) => do return { d with name := some (← asString v) }
  | ("actions", v) => do return { d with actions := ← asList asString v }
  | ("conditions", v) => do return { d with conditions := ← asList asString v }
  | _ => return d

/-- The step of a value. -/
def ofJson : Json → Except Mismatch Step
  | .obj fields => do
    let d ← fields.foldlM Draft.read ⟨none, [], []⟩
    match d.name with
    | some name => .ok ⟨name, d.actions, d.conditions⟩
    | none => .error (.missing "name")
  | .arr [] => .error (.wrongLength 0 "struct Step with 3 elements")
  | .arr (name :: rest) => do
    let name ← asString name
    let actions ← match rest with
      | [] => pure []
      | v :: _ => asList asString v
    let conditions ← match rest with
      | _ :: v :: _ => asList asString v
      | _ => pure []
    if rest.length ≤ 2 then .ok ⟨name, actions, conditions⟩
    else .error (.tooLong (rest.length + 1))
  | v => .error (.wrongKind v.found "struct Step")

end Step

namespace Program

/-- The fields of a program met so far. -/
structure Draft where
  name : Option String
  goal : Option String
  steps : Option (List Step)

/-- One more field of a program. -/
def Draft.read (d : Draft) : String × Json → Except Mismatch Draft
  | ("name", v) => do return { d with name := some (← asString v) }
  | ("goal", v) => do return { d with goal := some (← asString v) }
  | ("steps", v) => do return { d with steps := some (← asList Step.ofJson v) }
  | _ => return d

/-- A field that may not be absent. -/
def Draft.field {α : Type} (name : String) : Option α → Except Mismatch α
  | some a => .ok a
  | none => .error (.missing name)

/-- The program of a value. -/
def ofJson : Json → Except Mismatch Program
  | .obj fields => do
    let d ← fields.foldlM Draft.read ⟨none, none, none⟩
    return ⟨← Draft.field "name" d.name, ← Draft.field "goal" d.goal,
      ← Draft.field "steps" d.steps⟩
  | .arr items => do
    let item {α : Type} (i : Nat) (read : Json → Except Mismatch α) : Except Mismatch α :=
      match items[i]? with
      | some v => read v
      | none => .error (.wrongLength i "struct Program with 3 elements")
    let p : Program := ⟨← item 0 asString, ← item 1 asString, ← item 2 (asList Step.ofJson)⟩
    if items.length ≤ 3 then .ok p else .error (.tooLong items.length)
  | v => .error (.wrongKind v.found "struct Program")

end Program

end Runbook
