import Runbook.Json.Text
import Runbook.Text.Quoted

/-!
# Values of an expected shape

* `Json.Found`, `Json.Mismatch` : what was met in place of what was expected, and the ways in which a
  value misses its shape;
* `Json.asString`, `Json.asNat`, `Json.asBool`, `Json.asList`, `Json.asOption` : values of one kind;
* `Json.asVariant` : one of a list of names, also written as the only key of an object.
-/

namespace Runbook.Json

/-- A value as a message names it. -/
inductive Found where
  | null
  | bool (b : Bool)
  | num (n : Number)
  | str (s : String)
  | list
  | object
deriving DecidableEq, Repr

/-- The message form of a value. -/
def Found.text : Found → String
  | null => "null"
  | bool b => "boolean `" ++ (if b then "true" else "false") ++ "`"
  | num (.int n) => "integer `" ++ String.ofList (Number.intChars n) ++ "`"
  | num (.float x) => "floating point `" ++ String.ofList x.chars ++ "`"
  | str s => "string " ++ Runbook.Text.quoted s
  | list => "sequence"
  | object => "map"

/-- A value as it is named where it does not fit. -/
def found : Json → Found
  | .null => .null
  | .bool b => .bool b
  | .num n => .num n
  | .str s => .str s
  | .arr _ => .list
  | .obj _ => .object

/-- How a value misses the expected shape. -/
inductive Mismatch where
  | wrongKind (found : Found) (expected : String)
  | wrongValue (found : Found) (expected : String)
  | missing (field : String)
  | repeated (field : String)
  | unknownName (given : String) (known : List String)
  | wrongLength (length : Nat) (expected : String)
deriving DecidableEq, Repr

/-- A choice of names for a message: two with "or" between them, more as a list. -/
def oneOf : List String → String
  | [] => ""
  | [a] => "`" ++ a ++ "`"
  | [a, b] => "`" ++ a ++ "` or `" ++ b ++ "`"
  | names => "one of " ++ String.intercalate ", " (names.map fun n => "`" ++ n ++ "`")

/-- The wording of a mismatch. -/
def Mismatch.message : Mismatch → String
  | wrongKind f e => "invalid type: " ++ f.text ++ ", expected " ++ e
  | wrongValue f e => "invalid value: " ++ f.text ++ ", expected " ++ e
  | missing f => "missing field `" ++ f ++ "`"
  | repeated f => "duplicate field `" ++ f ++ "`"
  | unknownName g ns => "unknown variant `" ++ g ++ "`, expected " ++ oneOf ns
  | wrongLength n e => "invalid length " ++ toString n ++ ", expected " ++ e

/-- The refusal of items beyond the last field of a list. -/
def Mismatch.tooLong (length : Nat) : Mismatch := .wrongLength length "fewer elements in array"

/-! ## Values of one kind -/

/-- A string. -/
def asString : Json → Except Mismatch String
  | .str s => .ok s
  | v => .error (.wrongKind v.found "a string")

/-- An integer from zero on; `expected` names the kind of number in messages. -/
def asNat (expected : String) : Json → Except Mismatch Nat
  | .num (.int n) =>
    if 0 ≤ n then .ok n.toNat else .error (.wrongValue (.num (.int n)) expected)
  | v => .error (.wrongKind v.found expected)

/-- A truth value. -/
def asBool : Json → Except Mismatch Bool
  | .bool b => .ok b
  | v => .error (.wrongKind v.found "a boolean")

/-- A list whose items have a shape. -/
def asList {α : Type} (item : Json → Except Mismatch α) : Json → Except Mismatch (List α)
  | .arr items => items.mapM item
  | v => .error (.wrongKind v.found "a sequence")

/-- Null, or a value of a shape. -/
def asOption {α : Type} (value : Json → Except Mismatch α) : Json → Except Mismatch (Option α)
  | .null => .ok none
  | v => (value v).map some

/-- One of the known names. -/
def knownName {α : Type} (known : List (String × α)) (given : String) : Except Mismatch α :=
  match known.lookup given with
  | some a => .ok a
  | none => .error (.unknownName given (known.map (·.1)))

/-- One of the known names, as a string or as the only key of an object with the value null. -/
def asVariant {α : Type} (known : List (String × α)) : Json → Except Mismatch α
  | .str s => knownName known s
  | .obj [(k, v)] => do
    let a ← knownName known k
    match v with
    | .null => .ok a
    | v => .error (.wrongKind v.found "unit")
  | .obj _ => .error (.wrongValue .object "map with a single key")
  | v => .error (.wrongKind v.found "string or map")

end Runbook.Json
