/-!
# Files

Programs see files through one question: what is found at a path?

* `FileFault` : why a path gives no text, in the words of the operating system;
* `Found`, `Files` : what is found at a path, and the answers for all paths;
* `Files.text` : the text of a file;
* `FilePath.name?`, `FilePath.ending?`, `FilePath.join` : names of files.
-/

namespace Runbook

/-- Why a path gives no file, or a file no text. -/
inductive FileFault where
  | missing
  | notFolder
  | isFolder
  | nameTooLong
  | zeroByte
  | notText
  | other (message : String)
deriving DecidableEq, Repr

/-- The wording of a fault. -/
def FileFault.message : FileFault → String
  | missing => "No such file or directory (os error 2)"
  | notFolder => "Not a directory (os error 20)"
  | isFolder => "Is a directory (os error 21)"
  | nameTooLong => "File name too long (os error 36)"
  | zeroByte => "file name contained an unexpected NUL byte"
  | notText => "stream did not contain valid UTF-8"
  | other message => message

/-- What is found at a path: the bytes of a file, or the files of a folder by their names. -/
inductive Found where
  | file (bytes : ByteArray)
  | folder (files : List (String × Except FileFault ByteArray))

/-- What is found at each path. -/
abbrev Files := String → Except FileFault Found

/-- The text of bytes. -/
def textOf (bytes : ByteArray) : Except FileFault String :=
  match String.fromUTF8? bytes with
  | some text => .ok text
  | none => .error .notText

namespace Files

/-- The text of the file at a path. -/
def text (files : Files) (path : String) : Except FileFault String := do
  match ← files path with
  | .file bytes => textOf bytes
  | .folder _ => .error .isFolder

/-- The files of the folder at a path. -/
def folder (files : Files) (path : String) :
    Except FileFault (List (String × Except FileFault ByteArray)) := do
  match ← files path with
  | .file _ => .error .notFolder
  | .folder fs => .ok fs

end Files

/-! ## Names -/

namespace FilePath

/-- The parts of a path between its slashes. -/
def parts : List Char → List (List Char)
  | [] => [[]]
  | '/' :: s => [] :: parts s
  | c :: s => match parts s with
    | [] => [[c]]
    | p :: ps => (c :: p) :: ps

/-- The name of what a path leads to: its last part that names something. -/
def name? (path : String) : Option (List Char) :=
  match ((parts path.toList).filter fun p => p != [] && p != ['.']).getLast? with
  | some ['.', '.'] => none
  | name => name

/-- The part of a name after its last dot, if something stands before that dot. -/
def endingOf? (name : List Char) : Option (List Char) :=
  let ending := (name.reverse.takeWhile (· != '.')).reverse
  if ending.length + 1 < name.length then some ending else none

/-- The ending of the name that a path leads to. -/
def ending? (path : String) : Option String :=
  ((name? path).bind endingOf?).map String.ofList

/-- The path of a file in a folder. -/
def join (folder name : String) : String :=
  if folder.isEmpty || folder.endsWith "/" then folder ++ name else folder ++ "/" ++ name

end FilePath

end Runbook
