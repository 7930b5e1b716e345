import Runbook.Program.Basic
import Runbook.Program.Marker

/-!
# Reading program text

Program text is read line by line and never refused: a line without a marker says nothing.

* `Outline` : what the lines so far have said;
* `Outline.read` : one more marker. Inside the state section only the heading of the steps counts; a
  step opens inside the steps section; actions and conditions belong to the step that is open;
* `Program.parse` : the program of a text.
-/

namespace Runbook

/-- The part of a program text that a line stands in. -/
inductive Part where
  | header
  | state
  | steps
deriving DecidableEq, Repr

/-- What the lines of a program text have said so far: the closed steps, the last first, and the step
that is open. -/
structure Outline where
  name : String
  goal : String
  part : Part
  closed : List Step
  current : Option Step
deriving DecidableEq, Repr

namespace Outline

/-- Before the first line. -/
def start : Outline := ⟨"", "", .header, [], none⟩

/-- The closed steps together with the open one, the last first. -/
def allClosed (o : Outline) : List Step := o.current.toList ++ o.closed

/-- No step is open from here on. -/
def close (o : Outline) (part : Part) : Outline :=
  { o with part, closed := o.allClosed, current := none }

/-- What a marker adds outside the state section. -/
def take (o : Outline) : Marker → Outline
  | .program name => { o with name }
  | .goal text => { o with goal := text }
  | .stateSection => o.close .state
  | .stepsSection => o.close .steps
  | .step name =>
    if o.part = .steps then { o with closed := o.allClosed, current := some ⟨name, [], []⟩ }
    else o
  | .action text =>
    { o with current := o.current.map fun s => { s with actions := s.actions ++ [text] } }
  | .condition text =>
    { o with current := o.current.map fun s => { s with conditions := s.conditions ++ [text] } }

/-- What a marker adds. -/
def read (o : Outline) (m : Marker) : Outline :=
  if o.part = .state then (if m = .stepsSection then { o with part := .steps } else o)
  else o.take m

/-- The program that the lines have described. -/
def program (o : Outline) : Program := ⟨o.name, o.goal, o.allClosed.reverse⟩

end Outline

namespace Program

/-- The lines of a text. A carriage return before the end of a line is a blank. -/
def lines : List Char → List (List Char)
  | [] => [[]]
  | '\n' :: s => [] :: lines s
  | c :: s => match lines s with
    | [] => [[c]]
    | l :: ls => (c :: l) :: ls

/-- The markers of a text, in order. -/
def markers (s : List Char) : List Marker :=
  (lines s).filterMap fun l => Marker.ofLine? (Text.trim l)

/-- The program of a text. -/
def parse (text : String) : Program :=
  ((markers text.toList).foldl Outline.read .start).program

end Program

end Runbook
