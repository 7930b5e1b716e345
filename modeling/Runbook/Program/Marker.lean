import Runbook.Text.Phrase

/-!
# Marker lines

A line of program text means something only if it starts with one of the engine's words, in any
letter case, followed by a colon. Blanks around the line and around the colon do not count.

* `Marker` : what a line can say;
* `afterColon?` : what follows a word and its colon;
* `Marker.ofLine?` : the marker of a trimmed line, none for any other line.
-/

namespace Runbook

open Text (dropPhrase? isBlank trim trimStart)

/-- What a line of program text can say. -/
inductive Marker where
  | program (name : String)
  | goal (text : String)
  | stateSection
  | stepsSection
  | step (name : String)
  | action (text : String)
  | condition (text : String)
deriving DecidableEq, Repr

namespace Marker

/-- What follows a word and its colon at the start of a line, leading blanks dropped. -/
def afterColon? (word : String) (line : List Char) : Option (List Char) :=
  (dropPhrase? word.toList line).bind fun rest =>
    match trimStart rest with
    | ':' :: rest => some (trimStart rest)
    | _ => none

/-- The text that follows a word and its colon. -/
def textAfter? (word : String) (line : List Char) : Option String :=
  (afterColon? word line).map fun rest => String.ofList (trim rest)

/-- Whether a line is a word and its colon alone. -/
def isHeading (word : String) (line : List Char) : Bool := afterColon? word line == some []

/-- The name on a step line: the text between the word and the first colon, which starts with a
blank and goes on after it. Text after the colon is no part of it. -/
def stepName? (line : List Char) : Option String :=
  (dropPhrase? "step".toList line).bind fun rest =>
    let label := rest.takeWhile (· != ':')
    if label.length < rest.length && 2 ≤ label.length && label.head?.any isBlank then
      some (String.ofList (trim label))
    else none

/-- The marker of a line without blanks around it. -/
def ofLine? (line : List Char) : Option Marker :=
  ((textAfter? "program" line).map program)
    <|> ((textAfter? "goal" line).map goal)
    <|> (if isHeading "state" line then some stateSection else none)
    <|> (if isHeading "steps" line then some stepsSection else none)
    <|> ((stepName? line).map step)
    <|> ((textAfter? "action" line).map action)
    <|> ((textAfter? "condition" line).map condition)

end Marker

end Runbook
