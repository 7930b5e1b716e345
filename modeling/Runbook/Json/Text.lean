import Runbook.Json.Basic

/-!
# The text of a JSON value

* `Json.escape`, `Json.stringChars` : a string between quotes;
* `Json.chars`, `Json.text` : a value on one line without blanks, fields in their order;
* `Json.prettyChars`, `Json.pretty` : a value on several lines, two blanks per level.
-/

namespace Runbook.Json

/-- How a character stands in a string: quotes and backslashes are escaped, and so are the characters
below the blank, those without a letter of their own by four hexadecimal digits. -/
def escape (c : Char) : List Char :=
  match c with
  | '"' => ['\\', '"']
  | '\\' => ['\\', '\\']
  | '\x08' => ['\\', 'b']
  | '\x0c' => ['\\', 'f']
  | '\n' => ['\\', 'n']
  | '\r' => ['\\', 'r']
  | '\t' => ['\\', 't']
  | c =>
    if c.toNat < 32 then
      ['\\', 'u', '0', '0', if c.toNat < 16 then '0' else '1', Nat.digitChar (c.toNat % 16)]
    else [c]

/-- A string between quotes. -/
def stringChars (s : String) : List Char := '"' :: s.toList.flatMap escape ++ ['"']

/-- Texts with commas between them. -/
def commas : List (List Char) → List Char
  | [] => []
  | [t] => t
  | t :: ts => t ++ ',' :: commas ts

mutual

/-- The characters of a value on one line. -/
def chars : Json → List Char
  | null => ['n', 'u', 'l', 'l']
  | bool true => ['t', 'r', 'u', 'e']
  | bool false => ['f', 'a', 'l', 's', 'e']
  | num n => n.chars
  | str s => stringChars s
  | arr items => '[' :: commas (itemChars items) ++ [']']
  | obj fields => '\x7b' :: commas (fieldChars fields) ++ ['\x7d']

/-- The texts of the items of a list. -/
def itemChars : List Json → List (List Char)
  | [] => []
  | v :: vs => chars v :: itemChars vs

/-- The texts of the fields of an object. -/
def fieldChars : List (String × Json) → List (List Char)
  | [] => []
  | (k, v) :: fs => (stringChars k ++ ':' :: chars v) :: fieldChars fs

end

/-- The text of a value on one line. -/
def text (v : Json) : String := String.ofList v.chars

/-! ## Several lines -/

/-- The blanks at the start of a line. -/
def indent (level : Nat) : List Char := List.replicate (2 * level) ' '

/-- Texts on lines of their own at a level, with commas between them and a bracket after them. -/
def block (opening closing : Char) (level : Nat) : List (List Char) → List Char
  | [] => [opening, closing]
  | ts =>
    opening :: commas (ts.map fun t => '\n' :: indent (level + 1) ++ t)
      ++ '\n' :: indent level ++ [closing]

mutual

/-- The characters of a value on several lines; `level` is the depth it stands at. -/
def prettyChars (level : Nat) : Json → List Char
  | arr items => block '[' ']' level (prettyItems (level + 1) items)
  | obj fields => block '\x7b' '\x7d' level (prettyFields (level + 1) fields)
  | null => chars null
  | bool b => chars (bool b)
  | num n => chars (num n)
  | str s => chars (str s)

/-- The items of a list, each for a line of its own. -/
def prettyItems (level : Nat) : List Json → List (List Char)
  | [] => []
  | v :: vs => prettyChars level v :: prettyItems level vs

/-- The fields of an object, each for a line of its own. -/
def prettyFields (level : Nat) : List (String × Json) → List (List Char)
  | [] => []
  | (k, v) :: fs =>
    (stringChars k ++ ':' :: ' ' :: prettyChars level v) :: prettyFields level fs

end

/-- The text of a value on several lines. -/
def pretty (v : Json) : String := String.ofList (v.prettyChars 0)

end Runbook.Json
