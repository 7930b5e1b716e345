import Runbook.Digest.Sha256
import Runbook.Json.Text
import Runbook.State.Basic

/-!
# Digests of states

* `Json.canonical` : the text of a value with the fields of every object in the order of their
  names, so that the order in which they were written does not show;
* `State.digest` : the digest of a state's canonical text.
-/

namespace Runbook

namespace Json

/-- A field's text among others, before the first whose name is not smaller. -/
def insertField (f : String × List Char) : List (String × List Char) → List (String × List Char)
  | [] => [f]
  | g :: gs => if f.1 ≤ g.1 then f :: g :: gs else g :: insertField f gs

/-- The texts of fields in the order of their names. -/
def orderFields (fs : List (String × List Char)) : List (String × List Char) :=
  fs.foldr insertField []

/-- The text of a field. -/
def fieldText (f : String × List Char) : List Char := stringChars f.1 ++ ':' :: f.2

mutual

/-- The characters of a value with its fields in the order of their names. -/
def canonical : Json → List Char
  | arr items => '[' :: commas (canonicalItems items) ++ [']']
  | obj fields =>
    '\x7b' :: commas ((orderFields (canonicalFields [] fields)).map fieldText) ++ ['\x7d']
  | null => chars null
  | bool b => chars (bool b)
  | num n => chars (num n)
  | str s => chars (str s)

/-- The texts of the items of a list. -/
def canonicalItems : List Json → List (List Char)
  | [] => []
  | v :: vs => canonical v :: canonicalItems vs

/-- The texts of the fields that count: the first of each name that is not in `seen`. -/
def canonicalFields (seen : List String) : List (String × Json) → List (String × List Char)
  | [] => []
  | (k, v) :: fs =>
    if k ∈ seen then canonicalFields seen fs
    else (k, canonical v) :: canonicalFields (k :: seen) fs

end

end Json

/-- The bytes of a text. -/
def Text.bytes (s : List Char) : List UInt8 := s.flatMap String.utf8EncodeChar

/-- The digest of a state's canonical text. -/
def State.digest (s : State) : String := Sha256.hex (Text.bytes s.toJson.canonical)

end Runbook
