import Runbook.Command.Arguments
import Runbook.Files.Load
import Runbook.Program.Shape
import Runbook.Run.World

/-!
# What a command answers

* `RunFlags.override`, `RunFlags.options` : the options of a run, those of the command line before those of the file;
* `RunFlags.executor` : the executor of a run;
* `Report.text` : a report for people;
* `Command.report` : the report of a run, or why it is refused;
* `Command.answer` : whether a command succeeds and what it prints, or why it is refused;
* `Command.Exit`, `Command.exitBy` : the end of a whole command line; `Command.exit` : while the clock stands still.
-/

namespace Runbook

/-! ## Reports for people -/

/-- A text as a line of its own. -/
def line (s : String) : String := s ++ "\n"

/-- The sign of a status. -/
def Status.sign : Status → String
  | .success => "✓"
  | .failed => "✗"
  | .skipped => "-"
  | _ => "?"

/-- The lines of a record. -/
def Record.text (r : Record) : String :=
  line ("  " ++ r.status.sign ++ " " ++ r.step)
    ++ (r.error.elim "" fun e => line ("      Error: " ++ e))
    ++ (r.reason.elim "" fun e => line ("      Reason: " ++ e))

/-- The lines of an error; those of steps stand with their records. -/
def ErrorRecord.text (e : ErrorRecord) : String :=
  if e.kind = .step then "" else line ("\n" ++ e.kind.name ++ ": " ++ e.message)

/-- The last line of a report. -/
def Statistics.text (s : Statistics) : String :=
  line ("\n" ++ toString s.executedSteps ++ " of " ++ toString s.totalSteps ++ " steps executed: "
    ++ toString s.successSteps ++ " succeeded, " ++ toString s.failedSteps ++ " failed, "
    ++ toString s.skippedSteps ++ " skipped (" ++ toString s.durationMs ++ "ms)")

/-- A report for people. -/
def Report.text (r : Report) : String :=
  line "=== Program Result ===\n"
    ++ line ("Success: " ++ if r.success then "YES" else "NO")
    ++ line ("Run ID: " ++ r.runId)
    ++ (r.outcome.elim "" fun o => line ("Outcome: " ++ o.name)) ++ line ""
    ++ String.join (r.trace.map Record.text) ++ String.join (r.errors.map ErrorRecord.text)
    ++ r.statistics.text

/-! ## Running -/

namespace RunFlags

/-- Settings with those of the command line in place of others. -/
def override (f : RunFlags) (s : Settings) : Settings where
  mode := f.mode.getD s.mode
  timeoutMs := f.timeoutMs.getD s.timeoutMs
  checkpoint := f.checkpoint || s.checkpoint
  resumeFrom := f.resumeFrom <|> s.resumeFrom
  maxIterations := f.maxIterations.getD s.maxIterations
  maxCheckpoints := s.maxCheckpoints

/-- The settings of the file that the flags name. -/
def fileSettings (f : RunFlags) (files : Files) : Except LoadFault Settings :=
  match f.config with
  | none => .ok .standard
  | some path => files.settings path

/-- The options of a run. -/
def options (f : RunFlags) (files : Files) : Except String Options := do
  let s ← (f.fileSettings files).mapError LoadFault.account
  (f.override s).options.mapError Rejection.message

/-- The state that a run starts in. -/
def initialState (f : RunFlags) (files : Files) : Except String State :=
  match f.state with
  | none => .ok .empty
  | some path => do
    let text ← (files.text path).mapError fun e =>
      "Failed to read state: " ++ path ++ ": " ++ e.message
    let v ← (Json.read text).mapError fun e =>
      "Invalid JSON in state file: " ++ path ++ ": " ++ e.message
    (State.ofJson v).mapError StateError.message

/-- The executor of a run, on a clock that shows the time and takes no part in the run otherwise. -/
def executor {ω : Type} (now : ω → Instant × ω) (f : RunFlags) : Executor ω where
  evaluate := if f.stateConditions then .ofState else .permissive
  dispatch := .vocabulary
  recover := Policy.proceed.recovery
  now
  stepFinished? := some
  isCancelled _ := false

end RunFlags

/-- What a command that is not refused answers: whether it succeeded, and what it prints. -/
structure Answer where
  success : Bool
  printed : String
deriving DecidableEq, Repr

namespace Command

section Runs
variable {ω : Type} (executor : RunFlags → Executor ω) (w : ω)

/-- The report of a run, which the executor for its flags makes. Program, state and options are read in
this order, and the first that cannot be read is the reason of a refusal. -/
def report (files : Files) (o : Origin) (path : String) (f : RunFlags) : Except String Report := do
  let text ← (files.text path).mapError fun e =>
    "Failed to read program: " ++ path ++ ": " ++ e.message
  let state ← f.initialState files
  let options ← f.options files
  match (executor f).execute o text state options w with
  | none => .error "the clock has come to its end"
  | some (r, _) => .ok r

/-- The answer of a run: it succeeds if its report tells so. -/
def answerRun (files : Files) (o : Origin) (path : String) (f : RunFlags) : Except String Answer :=
  (report executor w files o path f).map fun r =>
    ⟨r.success, if f.json then line r.toJson.pretty
      else line ("Running program: " ++ path ++ "\n") ++ r.text⟩

end Runs

/-- Whether a program is valid, and what is said about it: it has steps, and their names are apart. -/
def judge (path : String) (p : Program) : Bool × String :=
  if p.steps.isEmpty then (false, line ("✗ " ++ path ++ ": no steps"))
  else if !p.repeatedNames.isEmpty then
    (false, line ("✗ " ++ path ++ ": duplicate step names: "
      ++ String.intercalate ", " p.repeatedNames))
  else (true, line ("✓ " ++ path ++ " is valid (" ++ toString p.steps.length ++ " steps)"))

/-- The answer on the validity of a program file, or of the program files of a folder. -/
def answerValidate (files : Files) (path : String) : Except String Answer :=
  match files path with
  | .error _ => .error ("Path not found: " ++ path)
  | .ok (.folder _) => do
    let programs ← (files.programs path).mapError LoadFault.account
    if programs.isEmpty then return ⟨true, line ("No programs found in: " ++ path)⟩
    let judged := programs.map fun (name, p) => judge (FilePath.join path name) p
    return ⟨judged.all (·.1), String.join (judged.map (·.2))⟩
  | .ok (.file _) => do
    let p ← (files.program path).mapError LoadFault.account
    let (valid, said) := judge path p
    return ⟨valid, said⟩

/-- The answer of a program as data. -/
def answerInspect (files : Files) (path : String) : Except String Answer := do
  let p ← (files.program path).mapError LoadFault.account
  return ⟨true, line p.toJson.pretty⟩

/-- The answer of a command, whose run an executor makes, or the reason why it is refused. -/
def answer {ω : Type} (executor : RunFlags → Executor ω) (w : ω) (files : Files) (o : Origin) :
    Command → Except String Answer
  | run program flags => answerRun executor w files o program flags
  | validate path => answerValidate files path
  | inspect program => answerInspect files program

/-! ## Whole command lines -/

/-- The end of a command line: its code, what is printed, and the reason of a refusal. -/
structure Exit where
  code : Nat
  printed : String
  error : Option String
deriving DecidableEq, Repr

/-- The text that asking for the version prints. -/
def versionText : String := line "step-engine 0.1.0"

/-- The text that asking for help prints. -/
def helpText : String :=
  line "Run and check step programs\n\nCommands:\n  run <PROGRAM>\n  validate <PATH>\n  inspect <PROGRAM>"

/-- The end of a command line, whose run an executor makes. Code 0 tells success and code 1 failure, and
code 2 that nothing was done: the line was misused, or the command was refused for the reason given. -/
def exitBy {ω : Type} (executor : RunFlags → Executor ω) (w : ω) (files : Files) (o : Origin)
    (arguments : List String) : Exit :=
  match read arguments with
  | .error .version => ⟨0, versionText, none⟩
  | .error .help => ⟨0, helpText, none⟩
  | .error .misuse => ⟨2, "", none⟩
  | .ok command => match command.answer executor w files o with
    | .ok a => ⟨if a.success then 0 else 1, a.printed, none⟩
    | .error reason => ⟨2, "", some reason⟩

/-- The end of a command line while the clock stands still. -/
def exit (files : Files) (o : Origin) (arguments : List String) : Exit :=
  exitBy (RunFlags.executor World.now) (.frozen o.now ()) files o arguments

end Command

end Runbook
