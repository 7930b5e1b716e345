import Runbook.Json.Reader
import Runbook.Step.Error
import Runbook.Text.Phrase

/-!
# The built-in vocabulary of actions

An action is a line of text. The built-in vocabulary knows a few shapes of it, tried in order.

* `Instruction` : what an action text says, `Instruction.ofChars` : its first shape;
* `Instruction.perform` : the state after it, or the error, which leaves the state alone;
* `Instruction.apply` : the effect of an action text on a state.
-/

namespace Runbook

open Text (atBoundary dropOneOf? dropPhrase? findFrom hasWordStart isBlank trim trimStart trimString)

/-- What an action text says. -/
inductive Instruction where
  | fail (message : String)
  | assign (path : String) (operand : List Char)
  | badPath (path : String)
  | complete
  | compute
  | persist
  | nothing
deriving DecidableEq, Repr

namespace Instruction

/-! ## Shapes -/

/-- The message of a declared failure: what follows the word, one colon and blanks dropped. -/
def failure? (s : List Char) : Option String :=
  (dropPhrase? "fail".toList s).bind fun rest =>
    if !atBoundary (some 'l') rest.head? then none
    else
      let rest := match trimStart rest with
        | ':' :: r => trimStart r
        | r => r
      if rest.contains '\n' then none
      else
        let message := trim rest
        some (if message.isEmpty then "declared failure" else String.ofList message)

/-- The operand after a target: an equals sign and a text up to the end, on one line. -/
def assigned? (s : List Char) : Option (List Char) :=
  match trimStart s with
  | '=' :: r =>
    let operand := trimStart r
    if operand.isEmpty || operand.contains '\n' then none else some (trim operand)
  | _ => none

/-- The shortest target without blanks that has an operand after it; `taken` holds the characters of
the target so far, the last first. -/
def target? (taken : List Char) : List Char → Option (List Char × List Char)
  | [] => none
  | c :: s =>
    if isBlank c then none
    else match assigned? s with
      | some operand => some ((c :: taken).reverse, operand)
      | none => target? (c :: taken) s

/-- The target and the operand of an assignment. -/
def assignment? (s : List Char) : Option (List Char × List Char) :=
  (dropPhrase? "set".toList s).bind fun rest =>
    if rest.head?.any isBlank then target? [] (trimStart rest) else none

/-- The forms of the word that ends a run. -/
def completionWords : List String := ["complete", "completed", "completion"]

/-- Whether a word of completion stands at a position, as a word of its own. -/
def isCompletionWord (before : Option Char) (here : List Char) : Bool :=
  atBoundary before here.head? && completionWords.any fun w =>
    match dropOneOf? [w] here with
    | some (last, rest) => atBoundary last rest.head?
    | none => false

/-- Whether a text starts with `set` or `mark` and has a word of completion on its first line. -/
def saysComplete (s : List Char) : Bool :=
  ["set", "mark"].any fun w =>
    match dropOneOf? [w] s with
    | some (last, rest) =>
      atBoundary last rest.head? && findOnLine last rest
    | none => false
where
  /-- Whether a word of completion stands before the end of the line. -/
  findOnLine (before : Option Char) : List Char → Bool
    | [] => isCompletionWord before []
    | c :: r => isCompletionWord before (c :: r) || (c != '\n' && findOnLine (some c) r)

/-- What a text without blanks around it says: the first of its shapes. -/
def ofChars (s : List Char) : Instruction :=
  match failure? s with
  | some message => fail message
  | none => match assignment? s with
    | some (target, operand) =>
      if Path.isWellFormed target then assign (String.ofList target) operand
      else badPath (String.ofList target)
    | none =>
      if saysComplete s then complete
      else if hasWordStart ["compute", "calculate"] s then compute
      else if hasWordStart ["save", "persist", "store"] s then persist
      else nothing

/-! ## Effect -/

/-- The state after an instruction, where `text` is the action it was read from. -/
def perform (text : String) (s : State) : Instruction → Except StepError State
  | fail message => .error (.action text message)
  | badPath path => .error (.invalidAction ("'" ++ path ++ "' is not a dotted state path"))
  | assign path operand => (s.setPath path (Json.ofLiteral operand)).mapError .state
  | complete => .ok s.markCompleted
  | compute => (s.setPath "processing.result" (.str "computed")).mapError .state
  | persist => (s.setPath "output.saved" (.bool true)).mapError .state
  | nothing => .ok s

/-- The state after an action text. -/
def apply (action : String) (s : State) : Except StepError State :=
  let text := trim action.toList
  (ofChars text).perform (String.ofList text) s

end Instruction

end Runbook
