import SpriteStage.Keyed
import SpriteStage.Text.Pieces

/-!
# Disks

The files a program can read and write, by path.

* a path is cut at slashes; all names but the last are walked through, from the root, and each has
  to be a directory at the moment it is passed: `.` stays there, `..` goes back;
* the last name is read or written in the directory reached; a slash after it asks for a directory,
  and a directory can be neither read nor written;
* a name has at most 255 bytes and a path at most 4095.
-/

namespace SpriteStage

/-- Directories and files by the names on the way to them. -/
structure Disk where
  directories : List (List String)
  files : List (List String × ByteArray)

namespace Disk

/-- Why a file cannot be read or written. -/
inductive Fault
  | notFound
  | notADirectory
  | isDirectory
  | nameTooLong
  | nameWithNul
  | invalidText
  deriving DecidableEq, Repr

/-- The wording of a fault. -/
def Fault.message : Fault → String
  | .notFound => "No such file or directory (os error 2)"
  | .notADirectory => "Not a directory (os error 20)"
  | .isDirectory => "Is a directory (os error 21)"
  | .nameTooLong => "File name too long (os error 36)"
  | .nameWithNul => "file name contained an unexpected NUL byte"
  | .invalidText => "stream did not contain valid UTF-8"

/-- A disk with nothing on it but its root. -/
def empty : Disk := ⟨[], []⟩

/-- The names on a path. -/
def names (path : String) : List String :=
  ((Text.pieces '/' path.toList).filter (· != [])).map String.ofList

/-- Whether a slash ends a path. -/
def endsInSlash (path : String) : Bool := path.toList.getLast? == some '/'

/-- Whether a place is a directory. -/
def isDirectory (d : Disk) (place : List String) : Bool :=
  place.isEmpty || d.directories.contains place

/-- The contents of the file at a place. -/
def contents? (d : Disk) (place : List String) : Option ByteArray := d.files.lookup place

/-! ### Walking -/

/-- The most bytes of a name. -/
def greatestName : Nat := 255

/-- The most bytes of a path. -/
def greatestPath : Nat := 4095

/-- Go from a directory into the one a name stands for. -/
def enter (d : Disk) (place : List String) (name : String) : Except Fault (List String) :=
  if name = "." then .ok place
  else if name = ".." then .ok place.dropLast
  else if name.utf8ByteSize > greatestName then .error .nameTooLong
  else if d.isDirectory (place ++ [name]) then .ok (place ++ [name])
  else if (d.contents? (place ++ [name])).isSome then .error .notADirectory
  else .error .notFound

/-- Go from a directory through the ones that names stand for. -/
def walk (d : Disk) (place : List String) : List String → Except Fault (List String)
  | [] => .ok place
  | name :: rest => do d.walk (← d.enter place name) rest

@[simp] theorem walk_nil (d : Disk) (place : List String) : d.walk place [] = .ok place := rfl

/-- Where a path leads. -/
inductive Target
  /-- To a directory by its very form. -/
  | directory
  /-- To a name in a directory, with a slash after it or not. -/
  | entry (place : List String) (name : String) (slash : Bool)
  deriving DecidableEq, Repr

/-- Follow a path up to its last name. -/
def target (d : Disk) (path : String) : Except Fault Target :=
  if path.toList.contains '\x00' then .error .nameWithNul
  else if path = "" then .error .notFound
  else if path.utf8ByteSize > greatestPath then .error .nameTooLong
  else match (names path).getLast? with
    | none => .ok .directory
    | some name => do
        let place ← d.walk [] (names path).dropLast
        if name = "." || name = ".." then return .directory
        else return .entry place name (endsInSlash path)

/-! ### Reading and writing -/

/-- Read the bytes of a file. -/
def read (d : Disk) (path : String) : Except Fault ByteArray := do
  match ← d.target path with
  | .directory => .error .isDirectory
  | .entry place name slash =>
      if name.utf8ByteSize > greatestName then .error .nameTooLong
      else if d.isDirectory (place ++ [name]) then .error .isDirectory
      else match d.contents? (place ++ [name]) with
        | none => .error .notFound
        | some bytes => if slash then .error .notADirectory else .ok bytes

/-- Read the text of a file. -/
def readText (d : Disk) (path : String) : Except Fault String := do
  match String.fromUTF8? (← d.read path) with
  | none => .error .invalidText
  | some text => .ok text

/-- Write a file, in place of an earlier one. -/
def write (d : Disk) (path : String) (bytes : ByteArray) : Except Fault Disk := do
  match ← d.target path with
  | .directory => .error .isDirectory
  | .entry place name slash =>
      if slash then .error .isDirectory
      else if name.utf8ByteSize > greatestName then .error .nameTooLong
      else if d.isDirectory (place ++ [name]) then .error .isDirectory
      else return { d with files := Keyed.put (place ++ [name]) bytes d.files }

/-- Make a directory of the names on a path. -/
def addDirectory (d : Disk) (path : String) : Disk :=
  { d with directories := names path :: d.directories }

end Disk

end SpriteStage
