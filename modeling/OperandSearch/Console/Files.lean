import OperandSearch.Failure

/-!
# Files and paths

The files of the working directory, which has no other directories in it, and what paths name.

A path is walked from the working directory or from the root, one name after the other.
A period stays where it is and two periods lead to the directory above.  Every other name
but the last would have to be a directory, and of a known name there is only the directory of
devices, so the walk ends there: at a file that is no directory, or at nothing.  Directories
outside the working directory are known to exist, and all that is known in them is the null
device, which takes what is written to it and holds nothing.
-/

namespace OperandSearch

/-- The files of the working directory, by name. -/
abbrev Files := List (String × ByteArray)

namespace Files

/-- The directories a walk can be in. -/
inductive Directory where
  | working
  /-- One above the working directory. -/
  | above
  | root
  | devices
  deriving DecidableEq, Repr

/-- The directory above a directory. -/
def Directory.parent : Directory → Directory
  | working | above => above
  | root | devices => root

/-- The directory of a name in a directory, where one is known. -/
def Directory.child? (home : Directory) (name : String) : Option Directory :=
  if home = root ∧ name = "dev" then some devices else none

/-- What a path names. -/
inductive Place where
  | directory
  /-- A name in a directory, perhaps of nothing that exists. -/
  | entry (home : Directory) (name : String)
  deriving DecidableEq, Repr

/-- How many bytes a name may have. -/
def nameLimit : Nat := 255

/-- How many bytes a path may have. -/
def pathLimit : Nat := 4095

/-- What a name in a directory holds. -/
def heldAt? (files : Files) (home : Directory) (name : String) :
    Except FileFault (Option ByteArray) :=
  if nameLimit < name.utf8ByteSize then .error .nameTooLong
  else match home with
    | .working => .ok (files.lookup name)
    | .devices => .ok (if name = "null" then some .empty else none)
    | .above | .root => .ok none

/-- Walks the names of a path, from a directory on. -/
def walk (files : Files) (home : Directory) : List String → Except FileFault Place
  | [] => .ok .directory
  | name :: rest =>
    if name = "." then files.walk home rest
    else if name = ".." then files.walk home.parent rest
    else match home.child? name with
      | some child => files.walk child rest
      | none =>
        if rest.isEmpty then .ok (.entry home name)
        else match files.heldAt? home name with
          | .error fault => .error fault
          | .ok (some _) => .error .notDirectory
          | .ok none => .error .notFound

/-- What a path names.  Slashes separate names, several like one. -/
def place (files : Files) (path : String) : Except FileFault Place :=
  if path.toList.contains '\x00' then .error .zeroByte
  else if path = "" then .error .notFound
  else if pathLimit < path.utf8ByteSize then .error .nameTooLong
  else
    files.walk (if path.startsWith "/" then .root else .working)
      (((path.toList.splitOn '/').map String.ofList).filter (· ≠ ""))

/-- Reads the file a path names.  A slash at the end asks for a directory. -/
def readFile (files : Files) (path : String) : Except FileFault ByteArray := do
  match ← files.place path with
  | .directory => throw .isDirectory
  | .entry home name =>
    match ← files.heldAt? home name with
    | some content => if path.endsWith "/" then throw .notDirectory else return content
    | none => throw .notFound

/-- Maps the file a path names into memory, which neither directories nor devices allow. -/
def mapFile (files : Files) (path : String) : Except FileFault ByteArray := do
  match ← files.place path with
  | .directory => throw .noDevice
  | .entry home _ =>
    let content ← files.readFile path
    if home = .devices then throw .noDevice else return content

/-- The files after one was given a content. -/
def put (files : Files) (name : String) (content : ByteArray) : Files :=
  match files with
  | [] => [(name, content)]
  | file :: rest => if file.1 = name then (name, content) :: rest else file :: put rest name content

/-- The files after a text was written to the file a path names. -/
def writeFile (files : Files) (path content : String) : Except FileFault Files := do
  match ← files.place path with
  | .directory => throw .isDirectory
  | .entry home name =>
    if path.endsWith "/" then throw .isDirectory
    else match home, ← files.heldAt? home name with
      | .working, _ => return files.put name content.toUTF8
      | .devices, some _ => return files
      | _, _ => throw .notFound

end Files
end OperandSearch
