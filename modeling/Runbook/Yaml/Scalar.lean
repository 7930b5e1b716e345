import Runbook.Yaml.Cursor

/-!
# Scalars of YAML text

* `Yaml.Style` : the ways of writing a scalar;
* `Yaml.scanPlain` : a scalar without quotes;
* `Yaml.scanQuoted` : a scalar in single or double quotes;
* `Yaml.scanBlock` : a scalar on indented lines, literal or folded.

Each has no result where the text is malformed.
-/

namespace Runbook.Yaml

/-- The ways of writing a scalar. -/
inductive Style where
  | plain
  | quoted
  | literal
  | folded
deriving DecidableEq, Repr

/-- Whether a character is a bracket or a comma of a list or object in brackets. -/
def isFlowMark (c : Char) : Bool := c == ',' || c == '[' || c == ']' || c == '\x7b' || c == '\x7d'

/-! ## Plain scalars -/

/-- The characters of a plain scalar up to the next blank or the scalar's end; `flow` tells that it
stands in brackets, where a colon before a bracket is malformed. -/
def plainRun (flow : Bool) : List Char → Option (List Char)
  | [] => some []
  | c :: rest =>
    if isGap c || isBreak c then some []
    else if c == ':' then
      if flow && rest.head?.any (fun d => isFlowMark d || d == '?') then none
      else if endsWord rest then some []
      else (plainRun flow rest).map (c :: ·)
    else if flow && isFlowMark c then some []
    else (plainRun flow rest).map (c :: ·)

/-- A plain scalar after the part in `text`, whose characters stand last first, with the gap between
them: its text, whether a line break follows it, and the position after it. -/
def plainFrom (flow : Bool) (indent : Nat) : (fuel : Nat) → (text : List Char) → Gap → Cursor →
    Option (List Char × Bool × Cursor)
  | 0, _, _, _ => none
  | fuel + 1, text, g, c =>
    if c.atDocumentMark || c.isAt '#' then some (text.reverse, g.broken, c)
    else do
      let run ← plainRun flow c.rest
      if run.isEmpty then some (text.reverse, g.broken, c)
      else
        let text := (g.text ++ run).reverse ++ text
        let c := c.skip run.length
        if !c.here?.any (fun ch => isGap ch || isBreak ch) then some (text.reverse, false, c)
        else
          let (g, c) ← Cursor.gap indent fuel {} c
          if !flow && c.column < indent then some (text.reverse, g.broken, c)
          else plainFrom flow indent fuel text g c

/-- A plain scalar; lines after the first are indented up to column `indent` at least. -/
def scanPlain (flow : Bool) (indent : Nat) (c : Cursor) : Option (List Char × Bool × Cursor) :=
  plainFrom flow indent (c.rest.length + 1) [] {} c

/-! ## Quoted scalars -/

/-- The value of a hexadecimal digit. -/
def hexDigit? (c : Char) : Option Nat :=
  if c.isDigit then some (c.toNat - 48)
  else if 'a' ≤ c && c ≤ 'f' then some (c.toNat - 87)
  else if 'A' ≤ c && c ≤ 'F' then some (c.toNat - 55)
  else none

/-- The number that `n` hexadecimal digits give after the number so far. -/
def hexNumber? : (n : Nat) → (value : Nat) → List Char → Option Nat
  | 0, value, _ => some value
  | n + 1, value, c :: rest => (hexDigit? c).bind fun d => hexNumber? n (value * 16 + d) rest
  | _ + 1, _, [] => none

/-- The character of a code point, if it is one. -/
def charOf? (n : Nat) : Option Char := if n.isValidChar then some (Char.ofNat n) else none

/-- The character after a backslash stands for a character itself. -/
def escaped? : Char → Option Char
  | '0' => some '\x00'
  | 'a' => some '\x07'
  | 'b' => some '\x08'
  | 't' => some '\t'
  | '\t' => some '\t'
  | 'n' => some '\n'
  | 'v' => some '\x0b'
  | 'f' => some '\x0c'
  | 'r' => some '\r'
  | 'e' => some '\x1b'
  | ' ' => some ' '
  | '"' => some '"'
  | '/' => some '/'
  | '\\' => some '\\'
  | 'N' => some '\u0085'
  | '_' => some '\u00a0'
  | 'L' => some '\u2028'
  | 'P' => some '\u2029'
  | _ => none

/-- The number of hexadecimal digits after a backslash and a letter. -/
def escapeDigits : Char → Nat
  | 'x' => 2
  | 'u' => 4
  | 'U' => 8
  | _ => 0

/-- The character that a text after a backslash stands for, and the number of characters it takes. -/
def readEscape? : List Char → Option (Char × Nat)
  | [] => none
  | c :: rest =>
    match escapeDigits c with
    | 0 => (escaped? c).map fun ch => (ch, 1)
    | n => do
      let value ← hexNumber? n 0 rest
      let ch ← charOf? value
      some (ch, n + 1)

/-- A quoted scalar after the part in `text`, whose characters stand last first, up to its closing
quote. -/
def quotedFrom (quote : Char) : (fuel : Nat) → (text : List Char) → Cursor →
    Option (List Char × Cursor)
  | 0, _, _ => none
  | fuel + 1, text, c =>
    if c.atDocumentMark then none
    else match c.rest with
      | [] => none
      | ch :: rest =>
        if isGap ch || isBreak ch then do
          let (g, c) ← Cursor.gap 0 fuel {} c
          quotedFrom quote fuel (g.text.reverse ++ text) c
        else if ch == quote then
          if quote == '\'' && rest.head? == some '\'' then
            quotedFrom quote fuel ('\'' :: text) (c.skip 2)
          else some (text.reverse, c.skip 1)
        else if quote == '"' && ch == '\\' then
          if rest.head?.any isBreak then do
            let (g, c) ← Cursor.gap 0 fuel { broken := true } (c.skip 1).skipBreak
            quotedFrom quote fuel (g.text.reverse ++ text) c
          else do
            let (e, n) ← readEscape? rest
            quotedFrom quote fuel (e :: text) (c.skip (n + 1))
        else quotedFrom quote fuel (ch :: text) (c.skip 1)

/-- A quoted scalar, at its opening quote. -/
def scanQuoted (c : Cursor) : Option (List Char × Cursor) :=
  match c.here? with
  | some quote => quotedFrom quote (c.rest.length + 1) [] (c.skip 1)
  | none => none

/-! ## Scalars on indented lines -/

/-- What becomes of the line breaks after the last line: none stays, the first one stays, or all. -/
inductive Chomping where
  | strip
  | clip
  | keep
deriving DecidableEq, Repr

/-- The character that asks for a chomping. -/
def chomping? : Char → Option Chomping
  | '+' => some .keep
  | '-' => some .strip
  | _ => none

/-- The indentation that a digit asks for; zero is malformed. -/
def indentDigit? (c : Char) : Option Nat :=
  if c.isDigit then some (c.toNat - 48) else none

/-- The chomping and the indentation asked for after the indicator, in either order. -/
def blockHeader (c : Cursor) : Option (Chomping × Option Nat × Cursor) :=
  let (chomp, c) := match c.here?.bind chomping? with
    | some k => (some k, c.skip 1)
    | none => (none, c)
  let (increment, c) := match c.here?.bind indentDigit? with
    | some n => (some n, c.skip 1)
    | none => (none, c)
  let (chomp, c) := match chomp, increment, c.here?.bind chomping? with
    | none, some _, some k => (some k, c.skip 1)
    | chomp, _, _ => (chomp, c)
  if increment == some 0 then none
  else
    let c := c.skipWhile isGap
    let c := if c.isAt '#' then c.skipWhile fun _ => true else c
    if !endsLine c.rest then none
    else some (chomp.getD .clip, increment, if c.rest.isEmpty then c else c.skipBreak)

/-- The empty lines at a position, up to the indentation of the first line that is not: its column,
the line breaks and the position. Without a known indentation the widest line tells it. -/
def blockBreaks (indent : Option Nat) : (fuel widest : Nat) → (breaks : List Char) → Cursor →
    Option (Nat × List Char × Cursor)
  | 0, _, _, _ => none
  | fuel + 1, widest, breaks, c =>
    let blanks := c.rest.takeWhile (· == ' ')
    let width := match indent with
      | none => blanks.length
      | some n => min blanks.length (n - c.column)
    let c := c.skip width
    let widest := max widest c.column
    if indent.all (c.column < ·) && c.isAt '\t' then none
    else if c.here?.any isBreak then
      blockBreaks indent fuel widest (breaks ++ c.breakText) c.skipBreak
    else some (widest, breaks, c)

/-- The lines of a scalar that are indented up to column `indent`, after those in `text`. `first` and
`more` are the line breaks after the last of them, and `blank` tells that it started with a blank. -/
def blockLines (folded : Bool) (chomp : Chomping) (indent : Nat) : (fuel : Nat) →
    (text first more : List Char) → (blank : Bool) → Cursor → Option (List Char × Cursor)
  | 0, _, _, _, _, _ => none
  | fuel + 1, text, first, more, blank, c =>
    if c.column != indent || c.rest.isEmpty then
      let text := if chomp = .strip then text else text ++ first
      some (if chomp = .keep then text ++ more else text, c)
    else do
      let startsBlank := c.here?.any isGap
      let joint :=
        if folded && first == ['\n'] && !blank && !startsBlank then
          (if more.isEmpty then [' '] else more)
        else first ++ more
      let (line, c) := c.takeWhile fun _ => true
      let (first, c) := if c.rest.isEmpty then ([], c) else (c.breakText, c.skipBreak)
      let (_, more, c) ← blockBreaks (some indent) (c.rest.length + 1) 0 [] c
      blockLines folded chomp indent fuel (text ++ joint ++ line) first more startsBlank c

/-- A scalar on indented lines, at its indicator. `parent` is the indentation of what holds it. -/
def scanBlock (folded : Bool) (parent : Int) (c : Cursor) : Option (List Char × Cursor) := do
  let (chomp, increment, c) ← blockHeader (c.skip 1)
  let asked := increment.map fun n => parent.toNat + n
  let (widest, breaks, c) ← blockBreaks asked (c.rest.length + 1) 0 [] c
  let indent := asked.getD (max widest (max (parent + 1).toNat 1))
  blockLines folded chomp indent (c.rest.length + 2) [] [] breaks false c

end Runbook.Yaml
