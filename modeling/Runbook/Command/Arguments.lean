/-!
# Command lines

* `Command` : what a command line asks for;
* `Usage` : the arguments that a command takes, `Usage.read` : reads them in order. Flags may stand
  anywhere, as words or letters, with their values attached or behind them; after `--` no argument
  is a flag; no flag and no place is given twice;
* `Command.read` : the command of a whole line.
-/

namespace Runbook

/-- The flags without a value. -/
inductive Switch where
  | verbose
  | checkpoint
  | stateConditions
  | json
deriving DecidableEq, Repr

/-- The flags with a value. -/
inductive Valued where
  | state
  | config
  | mode
  | timeoutMs
  | resumeFrom
  | maxIterations
deriving DecidableEq, Repr

/-- The flags. -/
inductive Flag where
  | switch (s : Switch)
  | valued (v : Valued)
  | help
  | version
deriving DecidableEq, Repr

/-- Why a command line asks for no command. -/
inductive Stop where
  | misuse
  | help
  | version
deriving DecidableEq, Repr

/-- The number of a text: decimal digits, a plus sign before them or not, of 64 bits at most. -/
def argumentNumber? (s : String) : Option Nat :=
  let digits := match s.toList with
    | '+' :: rest => rest
    | rest => rest
  if digits.isEmpty || !digits.all Char.isDigit then none
  else
    let n := digits.foldl (fun n d => n * 10 + (d.toNat - 48)) 0
    if n < Nat.pow 2 64 then some n else none

/-- Whether a flag can have a value: paths are not empty, numbers are numbers. -/
def Valued.admits (v : Valued) (value : String) : Bool :=
  match v with
  | state => !value.isEmpty
  | config => !value.isEmpty
  | timeoutMs => (argumentNumber? value).isSome
  | maxIterations => (argumentNumber? value).isSome
  | _ => true

/-! ## Arguments one by one -/

/-- The arguments so far. -/
structure Given where
  switches : List Switch
  values : List (Valued × String)
  place : Option String
deriving Repr

namespace Given

/-- Before the first argument. -/
def none : Given := ⟨[], [], .none⟩

/-- One more switch. -/
def addSwitch (g : Given) (s : Switch) : Except Stop Given :=
  if s ∈ g.switches then .error .misuse else .ok { g with switches := s :: g.switches }

/-- One more value. -/
def addValue (g : Given) (v : Valued) (value : String) : Except Stop Given :=
  if (g.values.lookup v).isSome || !v.admits value then .error .misuse
  else .ok { g with values := (v, value) :: g.values }

/-- The path that a command works on. -/
def addPlace (g : Given) (path : String) : Except Stop Given :=
  if g.place.isSome || path.isEmpty then .error .misuse else .ok { g with place := some path }

/-- Whether a switch was given. -/
def has (g : Given) (s : Switch) : Bool := g.switches.contains s

/-- The value of a flag, if it was given. -/
def value? (g : Given) (v : Valued) : Option String := g.values.lookup v

/-- The number of a flag, if it was given. -/
def number? (g : Given) (v : Valued) : Option Nat := (g.value? v).bind argumentNumber?

end Given

/-- The arguments that a command takes. -/
structure Usage where
  words : List (String × Flag)
  letters : List (Char × Flag)

namespace Usage

/-- A flag that stands alone, and the flag whose value is still to come, if it needs one. -/
def addFlag (g : Given) : Flag → Except Stop (Given × Option Valued)
  | .switch s => (g.addSwitch s).map fun g => (g, none)
  | .valued v => .ok (g, some v)
  | .help => .error .help
  | .version => .error .version

/-- A flag with the value attached to it, which only flags with values have. -/
def addAttached (g : Given) (value : String) : Flag → Except Stop (Given × Option Valued)
  | .valued v => (g.addValue v value).map fun g => (g, none)
  | _ => .error .misuse

/-- A flag given as a word, with or without its value. -/
def readWord (u : Usage) (g : Given) (text : List Char) : Except Stop (Given × Option Valued) :=
  let word := text.takeWhile (· != '=')
  match u.words.lookup (String.ofList word) with
  | none => .error .misuse
  | some flag => match text.drop word.length with
    | [] => addFlag g flag
    | _ :: value => addAttached g (String.ofList value) flag

/-- Flags given as letters; the value of a flag takes the rest. -/
def readLetters (u : Usage) (g : Given) : List Char → Except Stop (Given × Option Valued)
  | [] => .ok (g, none)
  | c :: rest => do
    let flag ← match u.letters.lookup c with
      | some flag => Except.ok flag
      | none => .error .misuse
    match ← addFlag g flag, rest with
    | (g, none), rest => readLetters u g rest
    | (g, some v), [] => .ok (g, some v)
    | (g, some _), '=' :: value => addAttached g (String.ofList value) flag
    | (g, some _), value => addAttached g (String.ofList value) flag

/-- Whether an argument is a flag or the mark after which there are none. -/
def looksLikeFlag (a : String) : Bool := a.startsWith "-" && a != "-"

/-- One argument, and the flag whose value is still to come, if there is one. -/
def readOne (u : Usage) (g : Given) (a : String) : Except Stop (Given × Option Valued) :=
  match a.toList with
  | '-' :: '-' :: word => u.readWord g word
  | '-' :: c :: letters => u.readLetters g (c :: letters)
  | _ => (g.addPlace a).map fun g => (g, none)

/-- The arguments of a command. -/
def read (u : Usage) (g : Given) : List String → Except Stop Given
  | [] => .ok g
  | a :: rest =>
    if a == "--" then rest.foldlM Given.addPlace g
    else
      match u.readOne g a with
      | .error e => .error e
      | .ok (g, none) => read u g rest
      | .ok (g, some v) =>
        match rest with
        | [] => .error .misuse
        | value :: rest =>
          if looksLikeFlag value then .error .misuse
          else match g.addValue v value with
            | .error e => .error e
            | .ok g => read u g rest

/-- What every command takes. -/
def common : Usage :=
  ⟨[("verbose", .switch .verbose), ("help", .help)], [('v', .switch .verbose), ('h', .help)]⟩

/-- What stands before the command. -/
def top : Usage :=
  ⟨("version", .version) :: common.words, ('V', .version) :: common.letters⟩

/-- What the command to run a program takes. -/
def run : Usage :=
  ⟨[("state", .valued .state), ("config", .valued .config), ("mode", .valued .mode),
    ("timeout-ms", .valued .timeoutMs), ("checkpoint", .switch .checkpoint),
    ("resume-from", .valued .resumeFrom), ("max-iterations", .valued .maxIterations),
    ("state-conditions", .switch .stateConditions), ("json", .switch .json)] ++ common.words,
   [('s', .valued .state), ('c', .valued .config), ('m', .valued .mode)] ++ common.letters⟩

end Usage

/-! ## Commands -/

/-- What can be said about a run. -/
structure RunFlags where
  state : Option String := none
  config : Option String := none
  mode : Option String := none
  timeoutMs : Option Nat := none
  checkpoint : Bool := false
  resumeFrom : Option String := none
  maxIterations : Option Nat := none
  stateConditions : Bool := false
  json : Bool := false
deriving DecidableEq, Repr

/-- What a command line asks for. -/
inductive Command where
  | run (program : String) (flags : RunFlags)
  | validate (path : String)
  | inspect (program : String)
deriving DecidableEq, Repr

namespace Command

/-- The place among the arguments, which a command cannot do without. -/
def place (g : Given) : Except Stop String :=
  match g.place with
  | some path => .ok path
  | none => .error .misuse

/-- The flags of a run. -/
def runFlags (g : Given) : RunFlags where
  state := g.value? .state
  config := g.value? .config
  mode := g.value? .mode
  timeoutMs := g.number? .timeoutMs
  checkpoint := g.has .checkpoint
  resumeFrom := g.value? .resumeFrom
  maxIterations := g.number? .maxIterations
  stateConditions := g.has .stateConditions
  json := g.has .json

/-- The names of the commands. -/
def names : List String := ["run", "validate", "inspect", "help"]

/-- Whether the arguments of `help` are in order: none, or the name of one command. -/
def asksForHelp : (arguments : List String) → Bool
  | [] => true
  | [name] => names.contains name
  | _ => false

/-- The command of a name with its arguments. -/
def ofName (name : String) (arguments : List String) : Except Stop Command :=
  match name with
  | "run" => do
    let g ← Usage.run.read .none arguments
    return .run (← place g) (runFlags g)
  | "validate" => do return .validate (← place (← Usage.common.read .none arguments))
  | "inspect" => do return .inspect (← place (← Usage.common.read .none arguments))
  | "help" => .error (if asksForHelp arguments then .help else .misuse)
  | _ => .error .misuse

/-- The command of a line, after the arguments so far. -/
def readFrom (g : Given) : List String → Except Stop Command
  | [] => .error .misuse
  | a :: rest =>
    if a == "--" then .error .misuse
    else if Usage.looksLikeFlag a then
      match Usage.top.readOne g a with
      | .ok (g, _) => readFrom g rest
      | .error e => .error e
    else ofName a rest

/-- The command of a line. -/
def read (arguments : List String) : Except Stop Command := readFrom .none arguments

end Command

end Runbook
