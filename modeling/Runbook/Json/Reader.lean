import Runbook.Json.Numeral
import Runbook.Json.Quote

/-!
# Reading JSON text

* `readValue` : the value at the start of a text; 127 brackets may be open at a time;
* `skipValue` : the same where the value does not matter: neither depth nor size of numbers counts;
* `Json.read` : the value of a whole text;
* `Json.ofLiteral` : the value of an operand, JSON where it reads as such and bare text otherwise.
-/

namespace Runbook.Json

/-- Whether a character may stand between the parts of a JSON text. -/
def isGap (c : Char) : Bool := c == ' ' || c == '\n' || c == '\t' || c == '\r'

/-- A text from its first character that is no gap. -/
def skipGap (s : List Char) : List Char := s.dropWhile isGap

/-- What follows a word at the start of a text. -/
def readWord : (word s : List Char) → Except Fault (List Char)
  | [], s => .ok s
  | _ :: _, [] => .error .valueEnds
  | w :: word, c :: s => if c == w then readWord word s else .error .wordExpected

/-- The value at the start of a text that is neither a list nor an object. -/
def readScalar : List Char → Except Fault (Json × List Char)
  | [] => .error .valueEnds
  | 'n' :: s => (readWord ['u', 'l', 'l'] s).map fun s => (.null, s)
  | 't' :: s => (readWord ['r', 'u', 'e'] s).map fun s => (.bool true, s)
  | 'f' :: s => (readWord ['a', 'l', 's', 'e'] s).map fun s => (.bool false, s)
  | '"' :: s => (readString s).map fun (t, s) => (.str t, s)
  | c :: s =>
    if c == '-' || c.isDigit then (readNumber (c :: s)).map fun (n, s) => (.num n, s)
    else .error .valueExpected

/-- What follows the colon after a key. -/
def readColon (s : List Char) : Except Fault (List Char) :=
  match skipGap s with
  | ':' :: s => .ok s
  | [] => .error .objectEnds
  | _ => .error .colonExpected

/-- Where the next item of a list starts, none where the list ends; `first` tells that no item
precedes it. -/
def nextItem (first : Bool) (s : List Char) : Except Fault (Option (List Char)) :=
  match skipGap s with
  | [] => .error .listEnds
  | ']' :: _ => .ok none
  | c :: s =>
    if first then .ok (some (c :: s))
    else if c == ',' then
      match skipGap s with
      | [] => .error .valueEnds
      | ']' :: _ => .error .trailingComma
      | s => .ok (some s)
    else .error .listCommaExpected

/-- Where the text of the next key starts, none where the object ends; `first` tells that no field
precedes it. -/
def nextKey (first : Bool) (s : List Char) : Except Fault (Option (List Char)) :=
  match skipGap s with
  | [] => .error .objectEnds
  | '\x7d' :: _ => .ok none
  | c :: s =>
    if first then (if c == '"' then .ok (some s) else .error .keyNotString)
    else if c == ',' then
      match skipGap s with
      | [] => .error .valueEnds
      | '"' :: s => .ok (some s)
      | '\x7d' :: _ => .error .trailingComma
      | _ => .error .keyNotString
    else .error .objectCommaExpected

/-- What follows the bracket that closes a list or an object. -/
def afterBracket (s : List Char) : List Char := (skipGap s).drop 1

mutual

/-- The value at the start of a text and what follows it. `depth` counts the brackets that may still
open, and one of them must stay closed; `fuel` bounds the calls. -/
def readValue : (fuel depth : Nat) → List Char → Except Fault (Json × List Char)
  | 0, _, _ => .error .valueEnds
  | fuel + 1, depth, s =>
    match skipGap s with
    | '[' :: s =>
      if depth ≤ 1 then .error .tooDeep
      else (readItems fuel (depth - 1) true [] s).map fun (vs, s) => (.arr vs, s)
    | '\x7b' :: s =>
      if depth ≤ 1 then .error .tooDeep
      else (readFields fuel (depth - 1) true [] s).map fun (fs, s) => (.obj fs, s)
    | s => readScalar s

/-- The items of a list after those in `taken`, which holds the last first. -/
def readItems : (fuel depth : Nat) → (first : Bool) → (taken : List Json) → List Char →
    Except Fault (List Json × List Char)
  | 0, _, _, _, _ => .error .listEnds
  | fuel + 1, depth, first, taken, s => do
    match ← nextItem first s with
    | none => .ok (taken.reverse, afterBracket s)
    | some s =>
      let (v, s) ← readValue fuel depth s
      readItems fuel depth false (v :: taken) s

/-- The fields of an object after those in `taken`. A repeated name keeps its place and takes the
later value. -/
def readFields : (fuel depth : Nat) → (first : Bool) → (taken : Fields) → List Char →
    Except Fault (Fields × List Char)
  | 0, _, _, _, _ => .error .objectEnds
  | fuel + 1, depth, first, taken, s => do
    match ← nextKey first s with
    | none => .ok (taken, afterBracket s)
    | some s =>
      let (k, s) ← readString s
      let s ← readColon s
      let (v, s) ← readValue fuel depth s
      readFields fuel depth false (taken.set k v) s

end

/-- Calls that suffice to read a text: each bracket and each item takes one. -/
def callsFor (s : List Char) : Nat := 2 * s.length + 2

/-- Nothing but gaps follows. -/
def readEnd (s : List Char) : Except Fault Unit :=
  if (skipGap s).isEmpty then .ok () else .error .trailingCharacters

/-- The value of a whole text. -/
def readChars (s : List Char) : Except Fault Json := do
  let (v, rest) ← readValue (callsFor s) 128 s
  readEnd rest
  .ok v

/-- The value of a whole string. -/
def read (s : String) : Except Fault Json := readChars s.toList

/-- The value of an operand: JSON where it reads as such, and bare text otherwise. -/
def ofLiteral (s : List Char) : Json :=
  match readChars s with
  | .ok v => v
  | .error _ => .str (String.ofList s)

/-! ## Values that do not matter -/

/-- What follows a value that is neither a list nor an object. -/
def skipScalar : List Char → Except Fault (List Char)
  | '"' :: s => skipString s
  | c :: s =>
    if c == '-' || c.isDigit then
      match readNumeral (c :: s) with
      | .ok (_, s) => .ok s
      | .error _ => .error .badNumber
    else (readScalar (c :: s)).map (·.2)
  | [] => .error .valueEnds

mutual

/-- What follows the value at the start of a text. -/
def skipValue : (fuel : Nat) → List Char → Except Fault (List Char)
  | 0, _ => .error .valueEnds
  | fuel + 1, s =>
    match skipGap s with
    | '[' :: s => match skipGap s with
      | [] => .error .listEnds
      | ']' :: s => .ok s
      | s => skipItems fuel s
    | '\x7b' :: s => match skipGap s with
      | [] => .error .objectEnds
      | '\x7d' :: s => .ok s
      | s => skipFields fuel s
    | s => skipScalar s

/-- What follows a list whose next item starts here. -/
def skipItems : (fuel : Nat) → List Char → Except Fault (List Char)
  | 0, _ => .error .listEnds
  | fuel + 1, s => do
    let s ← skipValue fuel s
    match skipGap s with
    | [] => .error .listEnds
    | ']' :: s => .ok s
    | ',' :: s => skipItems fuel s
    | _ => .error .listCommaExpected

/-- What follows an object whose next key starts here. -/
def skipFields : (fuel : Nat) → List Char → Except Fault (List Char)
  | 0, _ => .error .objectEnds
  | fuel + 1, s =>
    match skipGap s with
    | [] => .error .objectEnds
    | '"' :: s => do
      let s ← skipString s
      let s ← readColon s
      let s ← skipValue fuel s
      match skipGap s with
      | [] => .error .objectEnds
      | '\x7d' :: s => .ok s
      | ',' :: s => skipFields fuel s
      | _ => .error .objectCommaExpected
    | _ => .error .keyNotString

end

end Runbook.Json
