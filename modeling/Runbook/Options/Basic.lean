import Runbook.Json.Shape
import Runbook.State.Basic
import Runbook.Text.Lower
import Runbook.Time.Clock

/-!
# Options of a run

* `Mode` : what a failed step means for the run; `Mode.ofText` reads one, in any ASCII case;
* `Options` : the options of a run and their defaults; `Options.validate` refuses empty limits;
* `Rejection` : why a run is refused before it starts, with its wording.
-/

namespace Runbook

/-- What a failed step means for the run: strict runs halt, adaptive ones ask the recovery policy. -/
inductive Mode where
  | strict
  | adaptive
deriving DecidableEq, Repr, Inhabited

namespace Mode

/-- The word for a mode. -/
def word : Mode → String
  | strict => "strict"
  | adaptive => "adaptive"

/-- The modes under their words. -/
def all : List (String × Mode) := [("strict", strict), ("adaptive", adaptive)]

end Mode

/-- Why a run is refused before it starts. -/
inductive Rejection where
  | emptyLimit (option : String)
  | unknownMode (word : String)
  | state (error : StateError)
  | shape (mismatch : Json.Mismatch)
deriving DecidableEq, Repr

/-- The wording of a rejection. -/
def Rejection.message : Rejection → String
  | emptyLimit option => "Invalid options: " ++ option ++ " must be at least 1"
  | unknownMode word => "Unknown execution mode: " ++ word
  | state e => "Invalid initial state: " ++ e.message
  | shape m => "JSON error: " ++ m.message

/-- The mode that a text names; blanks around it and the case of ASCII letters do not matter. -/
def Mode.ofText (text : String) : Except Rejection Mode :=
  let word := Text.lowerAscii (Text.trimString text)
  match all.lookup word with
  | some mode => .ok mode
  | none => .error (.unknownMode word)

/-- The options of a run. -/
structure Options where
  mode : Mode := .strict
  timeout : Duration := Duration.ofMillis 30000
  checkpoint : Bool := false
  resumeFrom : Option String := none
  maxIterations : Nat := 1000
  maxCheckpoints : Nat := 10
deriving DecidableEq, Repr, Inhabited

namespace Options

/-- The options that leave every choice to its default. -/
def standard : Options := { }

/-- The options themselves, unless one of their limits is empty. -/
def validate (o : Options) : Except Rejection Options :=
  if o.maxIterations = 0 then .error (.emptyLimit "max_iterations")
  else if o.maxCheckpoints = 0 then .error (.emptyLimit "max_checkpoints")
  else .ok o

end Options

end Runbook
