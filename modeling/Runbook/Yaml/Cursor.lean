/-!
# Positions in YAML text

* `Yaml.isBreak`, `Yaml.isGap`, `Yaml.isAllowed` : line breaks, blanks, and the characters that may
  stand in a YAML text at all;
* `Yaml.Cursor` : the text from a position on, with the line and the column of the position;
* `Cursor.gap` : the blanks and line breaks at a position, and how they fold into a scalar.
-/

namespace Runbook.Yaml

/-- Whether a character ends a line. -/
def isBreak (c : Char) : Bool :=
  c == '\n' || c == '\r' || c == '\u0085' || c == '\u2028' || c == '\u2029'

/-- Whether a character is a blank within a line. -/
def isGap (c : Char) : Bool := c == ' ' || c == '\t'

/-- Whether a character may stand in a text. -/
def isAllowed (c : Char) : Bool :=
  let n := c.toNat
  n == 0x09 || n == 0x0A || n == 0x0D || (0x20 ≤ n && n ≤ 0x7E) || n == 0x85
    || (0xA0 ≤ n && n ≤ 0xD7FF) || (0xE000 ≤ n && n ≤ 0xFFFD) || 0x10000 ≤ n

/-- Whether a character may stand in a name. -/
def isNameChar (c : Char) : Bool := c.isAlphanum || c == '_' || c == '-'

/-- Whether a text ends here, or a blank or a line break stands here. -/
def endsWord : List Char → Bool
  | [] => true
  | c :: _ => isGap c || isBreak c

/-- Whether a text ends here, or a line break stands here. -/
def endsLine : List Char → Bool
  | [] => true
  | c :: _ => isBreak c

/-- The number of bytes that characters take. -/
def byteCount (s : List Char) : Nat := s.foldl (fun n c => n + c.utf8Size) 0

/-- The text from a position on, and where the position is: `index` counts the bytes before it, and
`column` the characters of its line before it. -/
structure Cursor where
  rest : List Char
  index : Nat
  line : Nat
  column : Nat

namespace Cursor

/-- The start of a text. -/
def start (text : List Char) : Cursor := ⟨text, 0, 0, 0⟩

/-- The character at a position. -/
def here? (c : Cursor) : Option Char := c.rest.head?

/-- Whether a character stands at a position. -/
def isAt (c : Cursor) (ch : Char) : Bool := c.here? == some ch

/-- The position some characters of the line further on. -/
def skip (c : Cursor) (n : Nat) : Cursor :=
  ⟨c.rest.drop n, c.index + byteCount (c.rest.take n), c.line, c.column + n⟩

/-- The start of the next line, where a line break stands. -/
def skipBreak (c : Cursor) : Cursor :=
  match c.rest with
  | '\r' :: '\n' :: rest => ⟨rest, c.index + 2, c.line + 1, 0⟩
  | rest => ⟨rest.drop 1, c.index + byteCount (rest.take 1), c.line + 1, 0⟩

/-- The characters of the line that satisfy a test, and the position after them. -/
def takeWhile (c : Cursor) (test : Char → Bool) : List Char × Cursor :=
  let taken := c.rest.takeWhile fun ch => !isBreak ch && test ch
  (taken, c.skip taken.length)

/-- The position after the characters of the line that satisfy a test. -/
def skipWhile (c : Cursor) (test : Char → Bool) : Cursor := (c.takeWhile test).2

/-- The line break at a position as it counts in a scalar. -/
def breakText (c : Cursor) : List Char :=
  match c.here? with
  | some '\u2028' => ['\u2028']
  | some '\u2029' => ['\u2029']
  | _ => ['\n']

/-- Whether a line of three hyphens or three dots starts here, by which documents are marked off. -/
def atDocumentMark (c : Cursor) : Bool :=
  c.column == 0 && match c.rest with
    | '-' :: '-' :: '-' :: rest => endsWord rest
    | '.' :: '.' :: '.' :: rest => endsWord rest
    | _ => false

end Cursor

/-! ## Folding -/

/-- Blanks and line breaks between the words of a scalar. -/
structure Gap where
  /-- Blanks before the first line break. -/
  blanks : List Char := []
  /-- Whether there is a line break. -/
  broken : Bool := false
  /-- The first line break. -/
  first : List Char := []
  /-- The line breaks after the first. -/
  more : List Char := []

namespace Gap

/-- What a gap is in the scalar: one line break is a blank, of several the first is dropped. -/
def text (g : Gap) : List Char :=
  if !g.broken then g.blanks
  else if g.first == ['\n'] then (if g.more.isEmpty then [' '] else g.more)
  else g.first ++ g.more

end Gap

/-- The gap at a position, after what is known of it, and the position after it; none if a tab stands
where a line must be indented up to column `indent`. `fuel` bounds its length. -/
def Cursor.gap (indent : Nat) : (fuel : Nat) → Gap → Cursor → Option (Gap × Cursor)
  | 0, g, c => some (g, c)
  | fuel + 1, g, c =>
    match c.here? with
    | none => some (g, c)
    | some ch =>
      if isGap ch then
        if g.broken then
          if ch == '\t' && c.column < indent then none else gap indent fuel g (c.skip 1)
        else gap indent fuel { g with blanks := g.blanks ++ [ch] } (c.skip 1)
      else if isBreak ch then
        let g := if g.broken then { g with more := g.more ++ c.breakText }
          else { g with broken := true, first := c.breakText }
        gap indent fuel g c.skipBreak
      else some (g, c)

end Runbook.Yaml
