import Runbook.Text.Word

/-!
# Dotted paths

A path names a place inside nested objects: field names with dots between them.

* `Path.split`, `Path.names` : the parts of any text between its dots;
* `Path.span` : the longest well-formed path at the start of a text; such a path has word characters
  and hyphens between single dots;
* `Path.isWellFormed` : the whole text is such a path.
-/

namespace Runbook.Path

open Text (isWord trimString)

/-- The parts of a text between its dots. -/
def split : List Char → List (List Char)
  | [] => [[]]
  | '.' :: s => [] :: split s
  | c :: s => match split s with
    | [] => [[c]]
    | p :: ps => (c :: p) :: ps

/-- The parts of a path text, as they stand. -/
def names (path : String) : List String := (split path.toList).map String.ofList

/-- The parts of a path text without the blanks around them. -/
def trimmedNames (path : String) : List String := (names path).map trimString

/-- Whether a character may stand in a name of a well-formed path. -/
def isNameChar (c : Char) : Bool := isWord c || c == '-'

/-- The longest well-formed path at the start of a text, and what follows it; `started` tells that a
name character precedes the text. -/
def spanFrom (started : Bool) : List Char → List Char × List Char
  | [] => ([], [])
  | c :: s =>
    if isNameChar c then
      let (path, rest) := spanFrom true s
      (c :: path, rest)
    else if started && c == '.' && s.head?.any isNameChar then
      let (path, rest) := spanFrom false s
      (c :: path, rest)
    else ([], c :: s)

/-- The longest well-formed path at the start of a text, and what follows it. -/
def span (s : List Char) : List Char × List Char := spanFrom false s

/-- Whether a whole text is a well-formed path. -/
def isWellFormed (s : List Char) : Bool := !s.isEmpty && (span s).2.isEmpty

end Runbook.Path
