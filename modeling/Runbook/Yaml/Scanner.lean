import Runbook.Yaml.Token

/-!
# From YAML text to tokens

The scanner keeps the indentation of the open blocks, and for every open bracket the position of a
token that a colon may turn into a key.

* `Yaml.SimpleKey` : such a position;
* `Yaml.Scan` : what is known after the text so far;
* `Yaml.Scan.fetch` : the next token; `Yaml.tokens` : all tokens of a text.

There is no result where the text is malformed.
-/

namespace Runbook.Yaml

/-- The position of a token that may turn out to be a key. A key ends within 1024 bytes and on its
line. -/
structure SimpleKey where
  /-- Whether nothing but a key can stand there. -/
  required : Bool
  /-- The number of tokens before it. -/
  number : Nat
  index : Nat
  line : Nat
  column : Nat

/-- What is known after the text so far. -/
structure Scan where
  cursor : Cursor
  /-- The tokens, the last first. -/
  tokens : List Token
  /-- The indentation of the innermost block, -1 outside all blocks. -/
  indent : Int
  /-- The indentations of the blocks around it. -/
  outer : List Int
  /-- Whether a key may start here. -/
  keyAllowed : Bool
  /-- The possible key outside the open brackets, or inside the innermost of them. -/
  key : Option SimpleKey
  /-- The possible keys outside the innermost bracket. -/
  outerKeys : List (Option SimpleKey)

namespace Scan

/-- Before the start of a text. -/
def start (text : List Char) : Scan := ⟨.start text, [], -1, [], true, none, []⟩

/-- Whether a bracket is open. -/
def inFlow (s : Scan) : Bool := !s.outerKeys.isEmpty

/-- One more token. -/
def push (s : Scan) (t : Token) : Scan := { s with tokens := t :: s.tokens }

/-- A token put in after the first `number` of them. -/
def insert (s : Scan) (number : Nat) (t : Token) : Scan :=
  let later := s.tokens.length - number
  { s with tokens := s.tokens.take later ++ t :: s.tokens.drop later }

/-- The scan at a later position. -/
def moveTo (s : Scan) (cursor : Cursor) : Scan := { s with cursor }

/-! ## Keys -/

/-- A possible key, unless it is too far back by now; a required one must not be. -/
def freshKey (c : Cursor) : Option SimpleKey → Option (Option SimpleKey)
  | none => some none
  | some k =>
    if k.line < c.line || k.index + 1024 < c.index then
      if k.required then none else some none
    else some (some k)

/-- The scan without the keys that are too far back by now. -/
def dropStale (s : Scan) : Option Scan := do
  let key ← freshKey s.cursor s.key
  let outerKeys ← s.outerKeys.mapM (freshKey s.cursor)
  some { s with key, outerKeys }

/-- The scan with the possible key given up. -/
def dropKey (s : Scan) : Option Scan :=
  if s.key.any (·.required) then none else some { s with key := none }

/-- The scan with the next token as a possible key, where keys are allowed. -/
def saveKey (s : Scan) : Option Scan :=
  if !s.keyAllowed then some s
  else do
    let s ← s.dropKey
    let c := s.cursor
    let required := !s.inFlow && s.indent == (c.column : Int)
    some { s with key := some ⟨required, s.tokens.length, c.index, c.line, c.column⟩ }

/-! ## Indentation -/

/-- The scan with a block opened at a column, if the column is deeper; its token goes after the first
`number` tokens. -/
def openBlock (s : Scan) (column number : Nat) (t : Token) : Scan :=
  if !s.inFlow && s.indent < (column : Int) then
    { (s.insert number t) with indent := column, outer := s.indent :: s.outer }
  else s

/-- The scan with the blocks closed that are deeper than a column, of those given. -/
def closeFrom (column : Int) : (blocks : List Int) → Scan → Scan
  | [], s => s
  | i :: outer, s =>
    if column < s.indent then closeFrom column outer { (s.push .blockEnd) with indent := i, outer }
    else s

/-- The scan with the blocks closed that are deeper than a column. -/
def closeBlocks (s : Scan) (column : Int) : Scan :=
  if s.inFlow then s else closeFrom column s.outer s

/-! ## Between tokens -/

/-- The scan at its next token. A byte order mark may stand at the start of each line; tabs count as
blanks only where no key may start; a comment goes up to the end of its line; after a line break
outside brackets a key may start. -/
def skipToToken : (fuel : Nat) → Scan → Scan
  | 0, s => s
  | fuel + 1, s =>
    let c := s.cursor
    let c := if c.column == 0 && c.isAt '\ufeff' then c.skip 1 else c
    let tabs := s.inFlow || !s.keyAllowed
    let c := c.skipWhile fun ch => ch == ' ' || (tabs && ch == '\t')
    let c := if c.isAt '#' then c.skipWhile fun _ => true else c
    if c.here?.any isBreak then
      skipToToken fuel { s with cursor := c.skipBreak, keyAllowed := s.keyAllowed || !s.inFlow }
    else s.moveTo c

/-! ## Tokens -/

/-- An indicator of `n` characters. -/
def take (s : Scan) (n : Nat) (t : Token) : Scan := (s.push t).moveTo (s.cursor.skip n)

/-- A token that ends all blocks. -/
def atTop (s : Scan) : Option Scan := do
  let s ← (s.closeBlocks (-1)).dropKey
  some { s with keyAllowed := false }

/-- The end of the text. -/
def fetchEnd (s : Scan) : Option Scan := do
  let c := s.cursor
  let c := if c.column == 0 then c else { c with line := c.line + 1, column := 0 }
  let s ← (s.moveTo c).atTop
  some (s.push .textEnd)

/-- A directive. -/
def fetchDirective (s : Scan) : Option Scan := do
  let s ← s.atTop
  let (t, c) ← scanDirective s.cursor
  some ((s.push t).moveTo c)

/-- A mark between documents. -/
def fetchMark (s : Scan) (t : Token) : Option Scan := do
  let s ← s.atTop
  some (s.take 3 t)

/-- An opening bracket. -/
def fetchOpening (s : Scan) (t : Token) : Option Scan := do
  let s ← s.saveKey
  let s := { s with key := none, outerKeys := s.key :: s.outerKeys, keyAllowed := true }
  some (s.take 1 t)

/-- A closing bracket. -/
def fetchClosing (s : Scan) (t : Token) : Option Scan := do
  let s ← s.dropKey
  let s := match s.outerKeys with
    | [] => s
    | k :: ks => { s with key := k, outerKeys := ks }
  some ({ s with keyAllowed := false }.take 1 t)

/-- A comma in brackets. -/
def fetchComma (s : Scan) : Option Scan := do
  let s ← s.dropKey
  some ({ s with keyAllowed := true }.take 1 .flowEntry)

/-- The scan with a block opened here, where a key may start; in brackets as it is. -/
def openHere (s : Scan) (t : Token) : Option Scan :=
  if s.inFlow then some s
  else if !s.keyAllowed then none
  else some (s.openBlock s.cursor.column s.tokens.length t)

/-- A hyphen before an item. -/
def fetchHyphen (s : Scan) : Option Scan := do
  let s ← s.openHere .blockListStart
  let s ← s.dropKey
  some ({ s with keyAllowed := true }.take 1 .blockEntry)

/-- A question mark before a key. -/
def fetchQuestion (s : Scan) : Option Scan := do
  let s ← s.openHere .blockMapStart
  let s ← s.dropKey
  some ({ s with keyAllowed := !s.inFlow }.take 1 .key)

/-- A colon before a value. A possible key before it becomes a key. -/
def fetchColon (s : Scan) : Option Scan := do
  match s.key with
  | some k =>
    let s := (s.insert k.number .key).openBlock k.column k.number .blockMapStart
    some ({ s with key := none, keyAllowed := false }.take 1 .value)
  | none =>
    let s ← s.openHere .blockMapStart
    some ({ s with keyAllowed := !s.inFlow }.take 1 .value)

/-- A token that may be a key or the start of one. -/
def fetchPart (s : Scan) (scan : Cursor → Option (Token × Cursor)) : Option Scan := do
  let s ← s.saveKey
  let (t, c) ← scan s.cursor
  some ({ s with keyAllowed := false, cursor := c }.push t)

/-- A plain scalar. Where a line break follows it, a key may start. -/
def fetchPlain (s : Scan) : Option Scan := do
  let s ← s.saveKey
  let (text, broken, c) ← scanPlain s.inFlow (s.indent + 1).toNat s.cursor
  some ({ s with keyAllowed := broken, cursor := c }.push (.scalar text .plain))

/-- A scalar on indented lines. -/
def fetchBlock (s : Scan) (folded : Bool) : Option Scan := do
  let s ← s.dropKey
  let (text, c) ← scanBlock folded s.indent s.cursor
  some ({ s with keyAllowed := true, cursor := c }.push
    (.scalar text (if folded then .folded else .literal)))

/-- Whether a plain scalar may start with a character, as far as no other token does. -/
def startsPlain (s : Scan) (ch : Char) (rest : List Char) : Bool :=
  !("-?:,[]\x7b\x7d#&*!|>'\"%@\x60".toList.contains ch || isGap ch)
    || (ch == '-' && !rest.head?.any isGap)
    || (!s.inFlow && (ch == '?' || ch == ':') && !endsWord rest)

/-- The token at a position between tokens. -/
def fetchHere (s : Scan) : Option Scan :=
  let c := s.cursor
  match c.rest with
  | [] => s.fetchEnd
  | ch :: rest =>
    if c.column == 0 && ch == '%' then s.fetchDirective
    else if c.atDocumentMark then
      s.fetchMark (if ch == '-' then .documentStart else .documentEnd)
    else match ch with
      | '[' => s.fetchOpening .flowListStart
      | '\x7b' => s.fetchOpening .flowMapStart
      | ']' => s.fetchClosing .flowListEnd
      | '\x7d' => s.fetchClosing .flowMapEnd
      | ',' => s.fetchComma
      | '*' => s.fetchPart fun c => (scanName c).map fun (n, c) => (.alias n, c)
      | '&' => s.fetchPart fun c => (scanName c).map fun (n, c) => (.anchor n, c)
      | '!' => s.fetchPart (scanTag s.inFlow)
      | '\'' => s.fetchPart fun c => (scanQuoted c).map fun (t, c) => (.scalar t .quoted, c)
      | '"' => s.fetchPart fun c => (scanQuoted c).map fun (t, c) => (.scalar t .quoted, c)
      | ch =>
        if ch == '-' && endsWord rest then s.fetchHyphen
        else if ch == '?' && (s.inFlow || endsWord rest) then s.fetchQuestion
        else if ch == ':' && (s.inFlow || endsWord rest) then s.fetchColon
        else if ch == '|' && !s.inFlow then s.fetchBlock false
        else if ch == '>' && !s.inFlow then s.fetchBlock true
        else if s.startsPlain ch rest then s.fetchPlain
        else none

/-- The scan after its next token. -/
def fetch (s : Scan) : Option Scan := do
  let s ← (skipToToken (s.cursor.rest.length + 1) s).dropStale
  (s.closeBlocks s.cursor.column).fetchHere

/-- The scan after the end of the text. -/
def run : (fuel : Nat) → Scan → Option Scan
  | 0, _ => none
  | fuel + 1, s => do
    let s ← s.fetch
    if s.tokens.head? == some .textEnd then some s else run fuel s

end Scan

/-- The tokens of a text. -/
def tokens (text : List Char) : Option (List Token) :=
  if text.all isAllowed then
    ((Scan.start text).run (text.length + 2)).map fun s => s.tokens.reverse
  else none

end Runbook.Yaml
