import Runbook.Options.Basic
import Runbook.Json.Reader

/-!
# Settings

Settings are options as a file or a tool call gives them: the mode is any text, limits may be zero.

* `Settings`, `Settings.options` : settings, and the options they stand for if they are valid;
* `SettingName`, `Setting` : one setting by name, also under its other names, and its value;
* `Settings.Draft` : the settings met so far, each may be given once;
* `Settings.ofJson` : the settings of a value; an object by names, unknown ones ignored, or a list of
  the values in order. Settings that are left out have their defaults.
-/

namespace Runbook

open Json (Fault Mismatch asBool asNat asOption asString)

/-- Options as they are given from outside. -/
structure Settings where
  mode : String := Mode.strict.word
  timeoutMs : Nat := 30000
  checkpoint : Bool := false
  resumeFrom : Option String := none
  maxIterations : Nat := 1000
  maxCheckpoints : Nat := 10
deriving DecidableEq, Repr, Inhabited

/-- The names of settings. -/
inductive SettingName where
  | mode
  | timeout
  | checkpoint
  | resumeFrom
  | maxIterations
  | maxCheckpoints
deriving DecidableEq, Repr

/-- One setting with its value. -/
inductive Setting where
  | mode (text : String)
  | timeout (ms : Nat)
  | checkpoint (on : Bool)
  | resumeFrom (step : Option String)
  | maxIterations (n : Nat)
  | maxCheckpoints (n : Nat)
deriving DecidableEq, Repr

namespace SettingName

/-- The names in the order in which a list gives their values. -/
def all : List SettingName :=
  [mode, timeout, checkpoint, resumeFrom, maxIterations, maxCheckpoints]

/-- The text of a name. -/
def text : SettingName → String
  | mode => "mode"
  | timeout => "timeout_ms"
  | checkpoint => "checkpoint"
  | resumeFrom => "resume_from"
  | maxIterations => "max_iterations"
  | maxCheckpoints => "max_checkpoints"

/-- The setting that a key gives. -/
def ofKey? : String → Option SettingName
  | "mode" => some mode
  | "timeout_ms" => some timeout
  | "timeout" => some timeout
  | "checkpoint" => some checkpoint
  | "resume_from" => some resumeFrom
  | "continue_from" => some resumeFrom
  | "resume_from_step" => some resumeFrom
  | "max_iterations" => some maxIterations
  | "max_checkpoints" => some maxCheckpoints
  | _ => none

/-- The setting of a name with the value that a JSON value gives. -/
def ofJson (v : Json) : SettingName → Except Mismatch Setting
  | mode => (asString v).map .mode
  | timeout => (asNat "u64" v).map .timeout
  | checkpoint => (asBool v).map .checkpoint
  | resumeFrom => (asOption asString v).map .resumeFrom
  | maxIterations => (asNat "usize" v).map .maxIterations
  | maxCheckpoints => (asNat "usize" v).map .maxCheckpoints

end SettingName

namespace Settings

/-- The settings that leave every choice to its default. -/
def standard : Settings := { }

/-- The settings with one more. -/
def write (s : Settings) : Setting → Settings
  | .mode mode => { s with mode }
  | .timeout timeoutMs => { s with timeoutMs }
  | .checkpoint checkpoint => { s with checkpoint }
  | .resumeFrom resumeFrom => { s with resumeFrom }
  | .maxIterations maxIterations => { s with maxIterations }
  | .maxCheckpoints maxCheckpoints => { s with maxCheckpoints }

/-- The options that settings stand for. -/
def options (s : Settings) : Except Rejection Options := do
  let mode ← Mode.ofText s.mode
  Options.validate
    { mode, timeout := Duration.ofMillis s.timeoutMs, checkpoint := s.checkpoint,
      resumeFrom := s.resumeFrom, maxIterations := s.maxIterations,
      maxCheckpoints := s.maxCheckpoints }

/-- Settings as an object. -/
def toJson (s : Settings) : Json :=
  .obj [("mode", .str s.mode), ("timeout_ms", .num (.int s.timeoutMs)),
    ("checkpoint", .bool s.checkpoint),
    ("resume_from", match s.resumeFrom with
      | some step => .str step
      | none => .null),
    ("max_iterations", .num (.int s.maxIterations)),
    ("max_checkpoints", .num (.int s.maxCheckpoints))]

/-! ## Settings one by one -/

/-- The settings met so far, with the names of those that were given. -/
structure Draft where
  settings : Settings
  given : List SettingName

namespace Draft

/-- Before the first setting. -/
def start : Draft := ⟨standard, []⟩

/-- Refuses a setting that was given before. -/
def check (d : Draft) (name : SettingName) : Except Mismatch Unit :=
  if name ∈ d.given then .error (.repeated name.text) else .ok ()

/-- One more setting. -/
def write (d : Draft) (name : SettingName) (s : Setting) : Draft :=
  ⟨d.settings.write s, name :: d.given⟩

/-- One more field of an object. -/
def read (d : Draft) (field : String × Json) : Except Mismatch Draft :=
  match SettingName.ofKey? field.1 with
  | none => .ok d
  | some name => do
    d.check name
    let s ← name.ofJson field.2
    .ok (d.write name s)

end Draft

/-- The settings whose values a list gives in order. -/
def ofItems (items : List Json) : Except Mismatch Settings :=
  (SettingName.all.zip items).foldlM
    (fun s (name, v) => (name.ofJson v).map s.write) standard

/-- The settings of a value. -/
def ofJson : Json → Except Mismatch Settings
  | .obj fields => (fields.foldlM Draft.read Draft.start).map (·.settings)
  | .arr items => do
    let s ← ofItems items
    if items.length ≤ SettingName.all.length then .ok s else .error (.tooLong items.length)
  | v => .error (.wrongKind v.found "struct RawOptions")

end Settings

/-- The options that a value stands for; null leaves every choice to its default. -/
def Options.ofJson : Json → Except Rejection Options
  | .null => Settings.standard.options
  | v => do (← (Settings.ofJson v).mapError .shape).options

/-! ## Settings in JSON text -/

/-- Why a text gives no settings: it is no JSON text, or its values do not fit. The first that
reading from left to right meets counts. -/
inductive Json.Misfit where
  | fault (f : Fault)
  | mismatch (m : Mismatch)
deriving DecidableEq, Repr

/-- The wording of a misfit. -/
def Json.Misfit.message : Misfit → String
  | fault f => f.message
  | mismatch m => m.message

namespace Settings

open Json (Misfit afterBracket callsFor nextItem nextKey readColon readEnd readScalar readString
  skipGap skipValue)

/-- The value at the start of a text, as far as a setting needs it: no setting is a list or an
object, so these count as empty and are not entered. -/
def readShallow (s : List Char) : Except Fault (Json × List Char) :=
  match skipGap s with
  | '[' :: s => .ok (.arr [], s)
  | '\x7b' :: s => .ok (.obj [], s)
  | s => readScalar s

/-- The setting of a name, whose value stands at the start of a text. -/
def readSetting (name : SettingName) (s : List Char) : Except Misfit (Setting × List Char) := do
  let (v, s) ← (readShallow s).mapError .fault
  let setting ← (name.ofJson v).mapError .mismatch
  .ok (setting, s)

/-- The settings of an object after those in a draft, and what follows the object. At most `fuel`
fields are read. -/
def readFields : (fuel : Nat) → (first : Bool) → Draft → List Char →
    Except Misfit (Settings × List Char)
  | 0, _, _, _ => .error (.fault .objectEnds)
  | fuel + 1, first, d, s => do
    match ← (nextKey first s).mapError .fault with
    | none => .ok (d.settings, afterBracket s)
    | some s =>
      let (key, s) ← (readString s).mapError .fault
      match SettingName.ofKey? key with
      | none =>
        let s ← (readColon s).mapError .fault
        let s ← (skipValue (callsFor s) s).mapError .fault
        readFields fuel false d s
      | some name =>
        (d.check name).mapError .mismatch
        let s ← (readColon s).mapError .fault
        let (setting, s) ← readSetting name s
        readFields fuel false (d.write name setting) s

/-- The settings whose values a list gives, for the names still to come, and what follows the list.
A list that goes on after the last value is a fault of the text. -/
def readItems (settings : Settings) (first : Bool) :
    List SettingName → List Char → Except Misfit (Settings × List Char)
  | [], s =>
    match skipGap s with
    | [] => .error (.fault .listEnds)
    | ']' :: s => .ok (settings, s)
    | ',' :: s => match skipGap s with
      | ']' :: _ => .error (.fault .trailingComma)
      | _ => .error (.fault .trailingCharacters)
    | _ => .error (.fault .trailingCharacters)
  | name :: names, s => do
    match ← (nextItem first s).mapError .fault with
    | none => .ok (settings, afterBracket s)
    | some s =>
      let (setting, s) ← readSetting name s
      readItems (settings.write setting) false names s

/-- The settings that a JSON text gives. -/
def ofJsonText (text : String) : Except Misfit Settings := do
  let s := text.toList
  let (settings, rest) ← match skipGap s with
    | '[' :: s => readItems standard true SettingName.all s
    | '\x7b' :: s => readFields (s.length + 1) true Draft.start s
    | s => do
      let (v, s) ← (readScalar s).mapError .fault
      (ofJson v).mapError .mismatch |>.map fun settings => (settings, s)
  (readEnd rest).mapError .fault
  .ok settings

end Settings

end Runbook
