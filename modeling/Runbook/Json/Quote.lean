import Runbook.Json.Fault

/-!
# Strings in JSON text

* `hexFour` : the code unit that four hexadecimal digits give;
* `readEscape` : the character that an escape stands for; characters beyond the first plane are
  written as two code units, and half of such a pair is no character;
* `readString` : the string after an opening quote, up to its closing quote;
* `skipString` : the same where the string does not matter; code units need not form characters.
-/

namespace Runbook.Json

/-- The value of a hexadecimal digit. -/
def hexValue? (c : Char) : Option Nat :=
  if c.isDigit then some (c.toNat - 48)
  else if 'a' ≤ c && c ≤ 'f' then some (c.toNat - 87)
  else if 'A' ≤ c && c ≤ 'F' then some (c.toNat - 55)
  else none

/-- The code unit that four hexadecimal digits give. A text with fewer than four bytes left has
ended too early. -/
def hexFour : List Char → Except Fault (Nat × List Char)
  | a :: b :: c :: d :: rest =>
    match hexValue? a, hexValue? b, hexValue? c, hexValue? d with
    | some a, some b, some c, some d => .ok (((a * 16 + b) * 16 + c) * 16 + d, rest)
    | _, _, _, _ => .error .badEscape
  | s => if 4 ≤ (String.ofList s).utf8ByteSize then .error .badEscape else .error .stringEnds

/-- Whether a code unit is the first half of a pair. -/
def isLeading (n : Nat) : Bool := 0xD800 ≤ n && n ≤ 0xDBFF

/-- Whether a code unit is the second half of a pair. -/
def isTrailing (n : Nat) : Bool := 0xDC00 ≤ n && n ≤ 0xDFFF

/-- The character of the code units after a backslash and a `u`. -/
def readUnits (s : List Char) : Except Fault (Char × List Char) := do
  let (first, s) ← hexFour s
  if isTrailing first then .error .loneSurrogate
  else if !isLeading first then .ok (Char.ofNat first, s)
  else match s with
    | [] => .error .stringEnds
    | ['\\'] => .error .stringEnds
    | '\\' :: 'u' :: s => do
      let (second, s) ← hexFour s
      if isTrailing second then
        .ok (Char.ofNat ((first - 0xD800) * 0x400 + (second - 0xDC00) + 0x10000), s)
      else .error .loneSurrogate
    | _ => .error .surrogateEnds

/-- The character that the letter after a backslash stands for. -/
def letter? : Char → Option Char
  | '"' => some '"'
  | '\\' => some '\\'
  | '/' => some '/'
  | 'b' => some '\x08'
  | 'f' => some '\x0c'
  | 'n' => some '\n'
  | 'r' => some '\r'
  | 't' => some '\t'
  | _ => none

/-- The character that the text after a backslash stands for. -/
def readEscape : List Char → Except Fault (Char × List Char)
  | [] => .error .stringEnds
  | 'u' :: s => readUnits s
  | c :: s => match letter? c with
    | some l => .ok (l, s)
    | none => .error .badEscape

/-- The escape after a backslash, its character left aside. -/
def skipEscape : List Char → Except Fault (Char × List Char)
  | [] => .error .stringEnds
  | 'u' :: s => (hexFour s).map fun (_, rest) => ('u', rest)
  | c :: s => match letter? c with
    | some l => .ok (l, s)
    | none => .error .badEscape

/-- The string up to its closing quote, where `escape` reads the text after a backslash and `taken`
holds the characters so far, the last first. At most `fuel` characters are read. -/
def readQuoted (escape : List Char → Except Fault (Char × List Char)) :
    (fuel : Nat) → (taken : List Char) → List Char → Except Fault (String × List Char)
  | 0, _, _ => .error .stringEnds
  | _ + 1, _, [] => .error .stringEnds
  | fuel + 1, taken, c :: s =>
    if c == '"' then .ok (String.ofList taken.reverse, s)
    else if c == '\\' then do
      let (l, s) ← escape s
      readQuoted escape fuel (l :: taken) s
    else if c.toNat < 32 then .error .controlCharacter
    else readQuoted escape fuel (c :: taken) s

/-- The string after an opening quote, and what follows its closing quote. -/
def readString (s : List Char) : Except Fault (String × List Char) :=
  readQuoted readEscape (s.length + 1) [] s

/-- What follows the closing quote of a string. -/
def skipString (s : List Char) : Except Fault (List Char) :=
  (readQuoted skipEscape (s.length + 1) [] s).map (·.2)

end Runbook.Json
