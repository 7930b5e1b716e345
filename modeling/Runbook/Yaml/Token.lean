import Runbook.Yaml.Scalar

/-!
# Tokens of YAML text

* `Yaml.Token` : the tokens;
* `Yaml.scanName`, `Yaml.scanTag`, `Yaml.scanDirective` : the tokens that start with `&` or `*`, with
  an exclamation mark, and with a percent sign in the first column.

A tag is a row of bytes: escapes may give bytes that are no text.
-/

namespace Runbook.Yaml

/-- The tokens of a text. Those of blocks have no characters of their own: indentation tells where
blocks start and end, and a colon that the text before it was a key. -/
inductive Token where
  | version (major minor : Nat)
  | tagHandle (handle : List Char) (start : List UInt8)
  | documentStart
  | documentEnd
  | blockListStart
  | blockMapStart
  | blockEnd
  | flowListStart
  | flowListEnd
  | flowMapStart
  | flowMapEnd
  | flowEntry
  | blockEntry
  | key
  | value
  | alias (name : List Char)
  | anchor (name : List Char)
  | tag (handle : List Char) (rest : List UInt8)
  | scalar (text : List Char) (style : Style)
  | textEnd
deriving DecidableEq, Repr

/-- The name of an anchor or an alias, at its indicator. -/
def scanName (c : Cursor) : Option (List Char × Cursor) :=
  let (name, c) := (c.skip 1).takeWhile isNameChar
  let ends := endsWord c.rest
    || c.here?.any fun ch => ['?', ':', ',', ']', '\x7d', '%', '@', '\x60'].contains ch
  if name.isEmpty || !ends then none else some (name, c)

/-! ## Tags -/

/-- The bytes of characters. -/
def bytesOf (s : List Char) : List UInt8 := (String.ofList s).toUTF8.toList

/-- Whether a character may stand in a tag as it is; `verbatim` allows commas and brackets. -/
def isTagChar (verbatim : Bool) (c : Char) : Bool :=
  isNameChar c || ";/?:@&=+$.!~*'()".toList.contains c || (verbatim && ",[]".toList.contains c)

/-- The byte that a percent sign and two hexadecimal digits give. -/
def escapedByte? : List Char → Option Nat
  | '%' :: a :: b :: _ => (hexDigit? a).bind fun a => (hexDigit? b).map fun b => a * 16 + b
  | _ => none

/-- The number of bytes that go together with a first one, itself included. -/
def groupSize? (first : Nat) : Option Nat :=
  if first < 0x80 then some 1
  else if 0xC0 ≤ first && first < 0xE0 then some 2
  else if 0xE0 ≤ first && first < 0xF0 then some 3
  else if 0xF0 ≤ first && first < 0xF8 then some 4
  else none

/-- The escaped bytes at the start of a text, `n` of them, which continue a group. -/
def trailingBytes? : (n : Nat) → List Char → Option (List Nat)
  | 0, _ => some []
  | n + 1, s => do
    let b ← escapedByte? s
    if b / 64 == 2 then (trailingBytes? n (s.drop 3)).map (b :: ·) else none

/-- The group of escaped bytes at the start of a text. A group has the outer form of a character, but
need not be one. -/
def escapedGroup? (s : List Char) : Option (List UInt8) := do
  let first ← escapedByte? s
  let n ← groupSize? first
  let more ← trailingBytes? (n - 1) (s.drop 3)
  some ((first :: more).map UInt8.ofNat)

/-- The bytes of a tag up to the first character that may not stand in it. -/
def tagRun (verbatim : Bool) : (fuel : Nat) → Cursor → Option (List UInt8 × Cursor)
  | 0, _ => none
  | fuel + 1, c =>
    match c.here? with
    | some '%' => do
      let group ← escapedGroup? c.rest
      let (bytes, c) ← tagRun verbatim fuel (c.skip (3 * group.length))
      some (group ++ bytes, c)
    | some ch =>
      if isTagChar verbatim ch then
        (tagRun verbatim fuel (c.skip 1)).map fun (bytes, c) => (bytesOf [ch] ++ bytes, c)
      else some ([], c)
    | none => some ([], c)

/-- A tag's bytes after the part that stands before it; both together are not empty. A zero byte ends
the tag, whatever follows it. -/
def scanTagText (verbatim : Bool) (before : List Char) (c : Cursor) :
    Option (List UInt8 × Cursor) := do
  let (bytes, c') ← tagRun verbatim (c.rest.length + 1) c
  if bytes.isEmpty && before.isEmpty then none
  else some ((bytesOf (before.drop 1) ++ bytes).takeWhile (· != 0), c')

/-- An exclamation mark, a name, and a second exclamation mark if there is one. A directive has the
second one or nothing but the first. -/
def scanHandle (directive : Bool) (c : Cursor) : Option (List Char × Cursor) :=
  if !c.isAt '!' then none
  else
    let (name, c) := (c.skip 1).takeWhile isNameChar
    if c.isAt '!' then some ('!' :: name ++ ['!'], c.skip 1)
    else if directive && !name.isEmpty then none
    else some ('!' :: name, c)

/-- A tag: its handle and the rest. A handle of the form `!name` is the start of a rest after the
handle `!`, and a lone `!` is a rest without a handle. -/
def scanTag (flow : Bool) (c : Cursor) : Option (Token × Cursor) := do
  let (token, c) ←
    if (c.skip 1).isAt '<' then do
      let (rest, c) ← scanTagText true [] (c.skip 2)
      if c.isAt '>' then some (Token.tag [] rest, c.skip 1) else none
    else do
      let (handle, c) ← scanHandle false c
      if 2 ≤ handle.length && handle.getLast? == some '!' then
        let (rest, c) ← scanTagText false [] c
        some (.tag handle rest, c)
      else
        let (rest, c) ← scanTagText false handle c
        some (if rest.isEmpty then .tag [] (bytesOf ['!']) else .tag ['!'] rest, c)
  if endsWord c.rest || (flow && c.isAt ',') then some (token, c) else none

/-! ## Directives -/

/-- A number of at most nine digits. -/
def scanNumber (c : Cursor) : Option (Nat × Cursor) :=
  let (digits, c) := c.takeWhile Char.isDigit
  if digits.isEmpty || 9 < digits.length then none
  else some (digits.foldl (fun n d => n * 10 + (d.toNat - 48)) 0, c)

/-- The two numbers of a version. -/
def scanVersion (c : Cursor) : Option (Token × Cursor) := do
  let (major, c) ← scanNumber (c.skipWhile isGap)
  if !c.isAt '.' then none
  let (minor, c) ← scanNumber (c.skip 1)
  some (.version major minor, c)

/-- A handle and the start of the tags that it stands for. -/
def scanTagHandle (c : Cursor) : Option (Token × Cursor) := do
  let (handle, c) ← scanHandle true (c.skipWhile isGap)
  if !c.here?.any isGap then none
  let (start, c) ← scanTagText true [] (c.skipWhile isGap)
  if endsWord c.rest then some (.tagHandle handle start, c) else none

/-- A directive, which takes a line. -/
def scanDirective (c : Cursor) : Option (Token × Cursor) := do
  let (name, c) := (c.skip 1).takeWhile isNameChar
  if !endsWord c.rest then none
  let (token, c) ←
    if name == "YAML".toList then scanVersion c
    else if name == "TAG".toList then scanTagHandle c
    else none
  let c := c.skipWhile isGap
  let c := if c.isAt '#' then c.skipWhile fun _ => true else c
  if !endsLine c.rest then none
  else some (token, if c.rest.isEmpty then c else c.skipBreak)

end Runbook.Yaml
