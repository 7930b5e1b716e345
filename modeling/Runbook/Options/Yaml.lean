import Runbook.Options.Settings
import Runbook.Yaml.Document

/-!
# Settings in YAML text

* `Yaml.Scalar.asText`, `asNat`, `asBool`, `asOption` : the values of scalars. Any scalar is a text;
  numbers and truth values are plain scalars, or literal ones tagged as such;
* `Settings.ofYaml` : the settings of a text. An empty document leaves every choice to its default.
-/

namespace Runbook

namespace Yaml

/-- A tag of the standard types. -/
def typeTag (name : String) : List UInt8 := bytesOf ("tag:yaml.org,2002:" ++ name).toList

/-- Whether a scalar's text may stand for a value of a standard type. -/
def Scalar.mayBe (s : Scalar) (type : String) : Bool :=
  s.style == .plain || (s.style == .literal && s.tag == some (typeTag type))

/-- The value of a digit in any base up to sixteen. -/
def digitIn? (base : Nat) (c : Char) : Option Nat :=
  (hexDigit? c).bind fun d => if d < base then some d else none

/-- The number that digits give in a base; no number without digits or of more than 64 bits. -/
def natIn? (base : Nat) (digits : List Char) : Option Nat := do
  if digits.isEmpty then none
  let n ← digits.foldlM (fun n d => (digitIn? base d).map fun d => n * base + d) 0
  if n < Nat.pow 2 64 then some n else none

/-- Whether a text is digits with a zero in front, which is no number. -/
def isZeroPadded (s : List Char) : Bool :=
  2 ≤ s.length && s.head? == some '0' && s.all Char.isDigit

/-- The number of a text: decimal, or in base 16, 8 or 2 after `0x`, `0o` and `0b`. -/
def nat? (s : List Char) : Option Nat :=
  let unsigned := match s with
    | '+' :: rest => rest
    | s => s
  match unsigned with
  | '0' :: 'x' :: rest => natIn? 16 rest
  | '0' :: 'o' :: rest => natIn? 8 rest
  | '0' :: 'b' :: rest => natIn? 2 rest
  | unsigned => if isZeroPadded unsigned then none else natIn? 10 unsigned

/-- The truth value of a text. -/
def bool? (s : List Char) : Option Bool :=
  if ["true", "True", "TRUE"].any (·.toList == s) then some true
  else if ["false", "False", "FALSE"].any (·.toList == s) then some false
  else none

/-- Whether a text is a word for no value. -/
def isNull (s : List Char) : Bool := ["null", "Null", "NULL", "~"].any (·.toList == s)

namespace Scalar

/-- The text of a scalar. -/
def asText (s : Scalar) : String := String.ofList s.text

/-- The number of a scalar. -/
def asNat (s : Scalar) : Option Nat := if s.mayBe "int" then nat? s.text else none

/-- The truth value of a scalar. -/
def asBool (s : Scalar) : Option Bool := if s.mayBe "bool" then bool? s.text else none

/-- Whether a scalar has a value; a scalar tagged as null must not have one. -/
def hasValue (s : Scalar) : Option Bool :=
  if s.style != .plain then some true
  else match s.tag with
    | none => some (!s.text.isEmpty && !isNull s.text)
    | some tag =>
      if tag == typeTag "null" then (if isNull s.text then some false else none) else some true

/-- The text of a scalar, if it has a value. -/
def asOption (s : Scalar) : Option (Option String) :=
  s.hasValue.map fun valued => if valued then some s.asText else none

end Scalar

end Yaml

/-- The setting of a name with the value that a scalar gives. -/
def SettingName.ofYaml (v : Yaml.Scalar) : SettingName → Option Setting
  | mode => some (.mode v.asText)
  | timeout => v.asNat.map .timeout
  | checkpoint => v.asBool.map .checkpoint
  | resumeFrom => v.asOption.map .resumeFrom
  | maxIterations => v.asNat.map .maxIterations
  | maxCheckpoints => v.asNat.map .maxCheckpoints

namespace Settings

/-- One more entry of a document's map. Keys are scalars; the value of an unknown key can be
anything. -/
def Draft.readYaml (doc : Yaml.Document) (d : Draft) (entry : Yaml.Node × Yaml.Node) :
    Option Draft := do
  let key ← doc.scalar? entry.1
  match SettingName.ofKey? key.asText with
  | none => some d
  | some name =>
    let _ ← (d.check name).toOption
    let s ← name.ofYaml (← doc.scalar? entry.2)
    some (d.write name s)

/-- The settings of a document. -/
def ofDocument (doc : Yaml.Document) : Option Settings :=
  match doc.root with
  | .map entries => (entries.foldlM (Draft.readYaml doc) Draft.start).map (·.settings)
  | .scalar s => if s.style == .plain && s.text.isEmpty then some standard else none
  | _ => none

/-- The settings of a text. -/
def ofYaml (text : String) : Option Settings := do
  match ← Yaml.read text with
  | none => some standard
  | some doc => ofDocument doc

end Settings

end Runbook
