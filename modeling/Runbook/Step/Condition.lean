import Runbook.Json.Reader
import Runbook.Step.Error
import Runbook.Text.Phrase

/-!
# Conditions

A condition is a line of text; a few shapes of it ask something about the state.

* `Condition` : what a condition asks, `Condition.ofChars` : the first shape that a text has;
* `Json.isTruthy` : whether a value counts as true;
* `Comparison.test` : two values compared; a missing value is in no order, and values of different
  kinds, or of a kind without order, cannot be ordered;
* `Condition.evaluate` : the answer of a text in a state; a text of no known shape holds.
-/

namespace Runbook

open Text (dropPhrase? isBlank isPhrase trim trimStart)

/-- The comparisons a condition can ask for. -/
inductive Comparison where
  | eq
  | ne
  | ge
  | le
  | gt
  | lt
deriving DecidableEq, Repr

/-- What a condition asks of the state. -/
inductive Condition where
  | present (path : String)
  | absent (path : String)
  | falsy (path : String)
  | compare (path : String) (op : Comparison) (operand : List Char)
  | truthy (path : String)
  | unrecognized
deriving DecidableEq, Repr

/-! ## Shapes -/

namespace Comparison

/-- The comparisons with their signs, longer signs first. -/
def signs : List (List Char × Comparison) :=
  [(['=', '='], eq), (['!', '='], ne), (['>', '='], ge), (['<', '='], le), (['>'], gt), (['<'], lt)]

/-- What follows a sign at the start of a text. -/
def dropSign? : (sign s : List Char) → Option (List Char)
  | [], s => some s
  | a :: sign, c :: s => if a == c then dropSign? sign s else none
  | _ :: _, [] => none

/-- The operand after a sign: the text up to the end, on one line. -/
def operand? (s : List Char) : Option (List Char) :=
  let rest := trimStart s
  if rest.isEmpty || rest.contains '\n' then none else some (trim rest)

/-- The first sign that starts a text and has an operand after it. -/
def ofChars? (s : List Char) : Option (Comparison × List Char) :=
  signs.findSome? fun (sign, op) =>
    ((dropSign? sign s).bind operand?).map fun operand => (op, operand)

end Comparison

namespace Condition

/-- The path at the start of a text and what follows it. -/
def path? (s : List Char) : Option (String × List Char) :=
  match Path.span s with
  | ([], _) => none
  | (path, rest) => some (String.ofList path, rest)

/-- The path before one of some phrases, with blanks between them. -/
def beforePhrase? (phrases : List String) (s : List Char) : Option String :=
  (path? s).bind fun (path, rest) =>
    if rest.head?.any isBlank && phrases.any (isPhrase · (trimStart rest)) then some path else none

/-- The path after a `not`. -/
def negated? (s : List Char) : Option String :=
  (dropPhrase? "not".toList s).bind fun rest =>
    let path := trimStart rest
    if rest.head?.any isBlank && Path.isWellFormed path then some (String.ofList path) else none

/-- A path compared with an operand. -/
def comparison? (s : List Char) : Option Condition :=
  (path? s).bind fun (path, rest) =>
    (Comparison.ofChars? (trimStart rest)).map fun (op, operand) => compare path op operand

/-- What a text without blanks around it asks: the first of its shapes. -/
def ofChars (s : List Char) : Condition :=
  let shape :=
    ((beforePhrase? ["exists", "is set", "is present"] s).map present)
      <|> ((beforePhrase? ["missing", "is missing", "is not set", "is absent"] s).map absent)
      <|> ((negated? s).map falsy)
      <|> comparison? s
      <|> (if Path.isWellFormed s then some (truthy (String.ofList s)) else none)
  shape.getD unrecognized

end Condition

/-! ## Answers -/

/-- Whether a value counts as true: neither null nor zero nor empty. -/
def Json.isTruthy : Json → Bool
  | .null => false
  | .bool b => b
  | .num n => n.toFloat.value != 0
  | .str s => s != ""
  | .arr items => !items.isEmpty
  | .obj fields => !fields.isEmpty

/-- Equal for a condition: numbers by their nearest floats, other values as values. -/
def Json.equals : Json → Json → Bool
  | .num a, .num b => a.toFloat.same b.toFloat
  | a, b => a.same b

/-- The order of two texts, by the bytes of their encoding and so by their code points. -/
def textOrder (a b : String) : Ordering :=
  if a < b then .lt else if a = b then .eq else .gt

/-- The order of two values, if both are numbers or both are strings. -/
def Json.order? : Json → Json → Option Ordering
  | .num a, .num b => some (a.toFloat.order b.toFloat)
  | .str a, .str b => some (textOrder a b)
  | _, _ => none

namespace Comparison

/-- Whether an order of two values is one that the comparison asks for. -/
def accepts : Comparison → Ordering → Bool
  | eq, o => o == .eq
  | ne, o => o != .eq
  | ge, o => o != .lt
  | le, o => o != .gt
  | gt, o => o == .gt
  | lt, o => o == .lt

/-- Two values compared; the message of the error names their kinds. -/
def test (op : Comparison) (actual expected : Json) : Except String Bool :=
  match op, actual with
  | eq, v => .ok (v.equals expected)
  | ne, v => .ok (!v.equals expected)
  | _, .null => .ok false
  | op, v => match v.order? expected with
    | some o => .ok (op.accepts o)
    | none => .error ("cannot order " ++ v.kindName ++ " against " ++ expected.kindName)

end Comparison

namespace Condition

/-- Whether the value at a path counts as true; a missing one does not. -/
def isTruthyAt (s : State) (path : String) : Bool := (s.getPath? path).any Json.isTruthy

/-- The answer of a condition in a state, or the reason why it has none. -/
def holds (s : State) : Condition → Except String Bool
  | present path => .ok (s.hasPath path)
  | absent path => .ok !s.hasPath path
  | falsy path => .ok !isTruthyAt s path
  | compare path op operand =>
    op.test ((s.getPath? path).getD .null) (Json.ofLiteral operand)
  | truthy path => .ok (isTruthyAt s path)
  | unrecognized => .ok true

/-- The answer of a condition text in a state. -/
def evaluate (text : String) (s : State) : Except StepError Bool :=
  let trimmed := trim text.toList
  match (ofChars trimmed).holds s with
  | .ok b => .ok b
  | .error message => .error (.condition (String.ofList trimmed) message)

end Condition

end Runbook
