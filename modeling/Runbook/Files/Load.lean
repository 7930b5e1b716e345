import Runbook.Files.Basic
import Runbook.Options.Yaml
import Runbook.Program.Parse

/-!
# Programs and options in files

* `LoadFault` : why a file gives no program or no options, with its wording;
* `Files.program`, `Files.programs` : the program of a file, the programs of a folder in the order of
  their names;
* `Files.settings` : the settings of a file, JSON or YAML as its name tells.
-/

namespace Runbook

/-- Why a file gives no program or no settings. -/
inductive LoadFault where
  | file (fault : FileFault)
  | yaml (path : String)
  | json (path : String) (misfit : Json.Misfit)
deriving DecidableEq, Repr

/-- The wording of a fault. -/
def LoadFault.message : LoadFault → String
  | file f => "IO error: " ++ f.message
  | yaml path => "YAML parse error in " ++ path
  | json path m => "JSON parse error in " ++ path ++ ": " ++ m.message

/-- The wording of a fault, followed by its cause where a file is the cause. -/
def LoadFault.account : LoadFault → String
  | file f => (file f).message ++ ": " ++ f.message
  | e => e.message

/-- The endings of program files. -/
def Program.fileEndings : List String := ["prog", "program"]

/-- Whether the name at the end of a path is that of a program file. -/
def Program.isFileName (path : String) : Bool :=
  (FilePath.ending? path).any fileEndings.contains

namespace Files

/-- The program of a file. -/
def program (files : Files) (path : String) : Except LoadFault Program :=
  match files.text path with
  | .ok text => .ok (Program.parse text)
  | .error f => .error (.file f)

/-- A file among others, before the first whose name is not smaller. -/
def insertByName {α : Type} (f : String × α) : List (String × α) → List (String × α)
  | [] => [f]
  | g :: gs => if f.1 ≤ g.1 then f :: g :: gs else g :: insertByName f gs

/-- A file's name with the program of its content. -/
def named (f : String × Except FileFault ByteArray) : Except FileFault (String × Program) := do
  let text ← f.2.bind textOf
  return (f.1, Program.parse text)

/-- The program files of a folder with their programs, in the order of their names. -/
def programs (files : Files) (folder : String) : Except LoadFault (List (String × Program)) := do
  let found ← (files.folder folder).mapError .file
  let chosen := (found.filter fun f => Program.isFileName f.1).foldr insertByName []
  (chosen.mapM named).mapError .file

/-- The settings of a file: in JSON if its name ends so, and otherwise in YAML. -/
def settings (files : Files) (path : String) : Except LoadFault Settings := do
  let text ← (files.text path).mapError .file
  if FilePath.ending? path == some "json" then
    (Settings.ofJsonText text).mapError (.json path)
  else match Settings.ofYaml text with
    | some s => .ok s
    | none => .error (.yaml path)

end Files

end Runbook
