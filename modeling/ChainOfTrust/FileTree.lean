import ChainOfTrust.Bytes
import ChainOfTrust.FileFault

/-!
# Files and directories

A `FileSystem` is a tree of directories and files with a working directory in it.

- `FileSystem.find`: what a path leads to. Every name on the way is looked up in a directory; `.` and
  `..` are the directory itself and the one above it, and a slash at the end asks for a directory;
- `isFile`, `readFile`, `readText`, `listDirectory`: what is there.
-/

namespace ChainOfTrust

set_option autoImplicit false

inductive FileTree where
  | file (content : Bytes)
  | directory (entries : List (String × FileTree))

namespace FileTree

def isFile : FileTree → Bool
  | file _ => true
  | directory _ => false

def entries : FileTree → List (String × FileTree)
  | file _ => []
  | directory es => es

/-- The tree with `leaf` at a path of names; directories on the way are made. -/
def insert (leaf : FileTree) : List String → FileTree → FileTree
  | [], _ => leaf
  | name :: rest, t =>
    let below := (t.entries.lookup name).getD (directory [])
    directory (t.entries.filter (·.1 ≠ name) ++ [(name, insert leaf rest below)])

end FileTree

/-! ## Paths -/

namespace FilePath

/-- The names in a path; a slash at its end stands for one more, the directory itself. -/
def names (path : String) : List String :=
  let parts := (path.toList.splitOnP (· == '/')).map String.ofList
  parts.filter (fun n => !n.isEmpty) ++ if path.toList.getLast? = some '/' then ["."] else []

def join (dir name : String) : String :=
  if dir.isEmpty || dir.toList.getLast? = some '/' then dir ++ name else dir ++ "/" ++ name

/-- What follows the last point of a name that has something in front of it. -/
def extension? (name : String) : Option String :=
  match name.toList.reverse.span (· != '.') with
  | (_, []) => none
  | (after, _ :: before) =>
    if before.isEmpty || name = ".." then none else some (String.ofList after.reverse)

end FilePath

/-! ## Looking up -/

structure FileSystem where
  root : FileTree
  /-- The names that lead from the root to the working directory. -/
  working : List String := []

namespace FileSystem

def maxName : Nat := 255

def maxPath : Nat := 4095

/-- Follows names from the tree `here`, below the directories `above`, the nearest first. Gives the
tree reached and the directories above it. -/
def follow (above : List FileTree) (here : FileTree) :
    List String → Except FileFault (List FileTree × FileTree)
  | [] => .ok (above, here)
  | name :: rest =>
    match here with
    | .file _ => .error .notADirectory
    | .directory entries =>
      if name = "." then follow above here rest
      else if name = ".." then
        match above with
        | [] => follow [] here rest
        | up :: further => follow further up rest
      else if maxName < name.utf8ByteSize then .error .nameTooLong
      else match entries.lookup name with
        | none => .error .notFound
        | some t => follow (here :: above) t rest

variable (fs : FileSystem)

def find (path : String) : Except FileFault FileTree :=
  if path.toList.contains '\x00' then .error .invalidPath
  else if path.isEmpty then .error .notFound
  else if maxPath < path.utf8ByteSize then .error .nameTooLong
  else do
    let (above, start) ←
      if path.toList.head? = some '/' then .ok ([], fs.root) else follow [] fs.root fs.working
    return (← follow above start (FilePath.names path)).2

/-- A path that cannot be followed leads to no file. -/
def isFile (path : String) : Bool :=
  match fs.find path with
  | .ok t => t.isFile
  | .error _ => false

def readFile (path : String) : Except FileFault Bytes := do
  match ← fs.find path with
  | .file content => .ok content
  | .directory _ => .error .isADirectory

def readText (path : String) : Except FileFault String := do
  match (← fs.readFile path).utf8? with
  | some s => .ok s
  | none => .error .notUtf8

def listDirectory (path : String) : Except FileFault (List (String × FileTree)) := do
  match ← fs.find path with
  | .file _ => .error .notADirectory
  | .directory entries => .ok entries

end FileSystem

end ChainOfTrust
