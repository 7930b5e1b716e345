import Runbook.Command.Answer
import Std.Time

/-!
# The program

Reads what the command line names, answers it, and prints the answer. The clock stands still while a
command is answered: the built-in actions take no time.
-/

namespace Runbook

/-- A failure of the operating system as a fault of a file. -/
def faultOf : IO.Error → FileFault
  | .noFileOrDirectory .. => .missing
  | .noSuchThing .. => .missing
  | .inappropriateType .. => .notFolder
  | e => .other (toString e)

/-- The bytes of a file. -/
def readBytes (path : String) : IO (Except FileFault ByteArray) := do
  try return .ok (← IO.FS.readBinFile path)
  catch e => return .error (faultOf e)

/-- The program files of a folder. -/
def readFolder (path : String) : IO Found := do
  let mut files := []
  for entry in ← ((← IO.currentDir) / path).readDir do
    if Program.isFileName entry.fileName && !(← entry.path.isDir) then
      files := (entry.fileName, ← readBytes (FilePath.join path entry.fileName)) :: files
  return .folder files

/-- What is found at a path. -/
def look (path : String) : IO (Except FileFault Found) := do
  try
    if ← ((← IO.currentDir) / path).isDir then return .ok (← readFolder path)
    else return (← readBytes path).map .file
  catch e => return .error (faultOf e)

/-- The paths that a command names. -/
def Command.paths : Command → List String
  | run program flags => program :: flags.state.toList ++ flags.config.toList
  | validate path => [path]
  | inspect program => [program]

/-- What is found at the paths that a command line names. -/
def gather (arguments : List String) : IO Files := do
  let paths := match Command.read arguments with
    | .ok command => command.paths
    | .error _ => []
  let found ← paths.mapM fun path => return (path, ← look path)
  return fun path => (found.lookup path).getD (.error .missing)

/-- An identifier of 16 random bytes in the usual five groups. -/
def freshId : IO String := do
  let bytes := (← IO.getRandomBytes 16).toList
  let bytes := bytes.mapIdx fun i b =>
    if i == 6 then b &&& 0x0f ||| 0x40 else if i == 8 then b &&& 0x3f ||| 0x80 else b
  let digits := bytes.flatMap fun b =>
    [Nat.digitChar (b.toNat / 16), Nat.digitChar (b.toNat % 16)]
  let group (start n : Nat) : String := String.ofList ((digits.drop start).take n)
  return String.intercalate "-" [group 0 8, group 8 4, group 12 4, group 16 4, group 20 12]

end Runbook

open Runbook in
/-- Answers a command line. -/
def main (arguments : List String) : IO UInt32 := do
  let now ← Std.Time.Timestamp.now
  let origin : Origin := ⟨← freshId, .ofNanos now.toNanosecondsSinceUnixEpoch.val⟩
  let files ← gather arguments
  let e := Command.exit files origin arguments
  IO.print e.printed
  match e.error with
  | some reason => IO.eprintln ("Error: " ++ reason)
  | none => pure ()
  return e.code.toUInt32
