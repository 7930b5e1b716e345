import Runbook.Files.Basic

/-!
# File trees

* `FileTree` : files and folders inside a folder; `FileTree.write` : one more of them at a path;
* `FileTree.files` : what is found at paths, most of which start at the tree's top.
-/

namespace Runbook

/-- A file, or a folder with what it holds. -/
inductive FileTree where
  | file (bytes : ByteArray)
  | folder (entries : List (String × FileTree))

namespace FileTree

/-- A folder that holds nothing. -/
def empty : FileTree := folder []

/-- What a folder holds under a name. -/
def child? (name : String) : FileTree → Option FileTree
  | folder entries => entries.lookup name
  | file _ => none

/-- The entries of a folder, none for a file. -/
def entries : FileTree → List (String × FileTree)
  | folder es => es
  | file _ => []

/-- The tree with a file or a folder written below some names; absent folders are made. -/
def write (item : FileTree) : (names : List String) → FileTree → FileTree
  | [], _ => item
  | n :: names, t =>
    folder (t.entries.filter (·.1 != n) ++ [(n, write item names ((t.child? n).getD empty))])

/-- The longest name that a file can have, in bytes. -/
def maxName : Nat := 255

/-- The longest path that can be looked up, in bytes. -/
def maxPath : Nat := 4095

/-- What stands at a path below a folder, whose own folders are `above`, the nearest first. Above the
top of the tree there are only empty folders. -/
def walk (above : List FileTree) (here : FileTree) : List String → Except FileFault FileTree
  | [] => .ok here
  | part :: parts =>
    match here with
    | file _ => .error .notFolder
    | folder entries =>
      if part == "" || part == "." then walk above here parts
      else if part == ".." then
        match above with
        | [] => walk [] empty parts
        | t :: above => walk above t parts
      else if maxName < part.utf8ByteSize then .error .nameTooLong
      else match entries.lookup part with
        | none => .error .missing
        | some t => walk (here :: above) t parts

/-- What is found at a place of the tree, whose path has a length in bytes with a slash at its end.
Files with paths that are too long are not found. -/
def found (size : Nat) : FileTree → Found
  | file bytes => .file bytes
  | folder entries => .folder (entries.filterMap fun e => match e.2 with
    | file bytes => if maxPath < size + e.1.utf8ByteSize then none else some (e.1, .ok bytes)
    | folder _ => none)

/-- What is found at paths. Those that start with a slash lead into an empty folder, and all others
start at the tree's top, to which `base` bytes of a path lead. -/
def files (t : FileTree) (base : Nat) : Files := fun path =>
  let top := path.startsWith "/"
  let size := path.utf8ByteSize + if top then 0 else base
  if path.toList.contains '\x00' then .error .zeroByte
  else if path.isEmpty then .error .missing
  else if maxPath < size then .error .nameTooLong
  else
    let parts := (FilePath.parts path.toList).map String.ofList
    (walk [] (if top then empty else t) parts).map
      (found (if path.endsWith "/" then size else size + 1))

end FileTree

end Runbook
