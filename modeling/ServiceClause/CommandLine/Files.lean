/-!
# Files

A command may name files that it reads. A file may turn out not to be readable, for a cause that is
shown to people.

## Main definitions

* `ServiceClause.CommandLine.Unreadable` — why a file cannot be read.
* `ServiceClause.CommandLine.Files` — what the files hold.
* `ServiceClause.CommandLine.Files.ofList` — files that are listed, and no others.
-/

set_option autoImplicit false

namespace ServiceClause.CommandLine

/-- Why a file cannot be read. -/
inductive Unreadable where
  /-- There is no such file. -/
  | missing
  /-- There is a directory instead. -/
  | directory
  /-- The path leads through a file as if it were a directory. -/
  | notDirectory
  /-- A name in the path, or the whole path, is too long. -/
  | nameTooLong
  /-- There is the character `U+0000` in the path, which ends a name. -/
  | brokenName
  /-- Reading it is not allowed. -/
  | forbidden
  /-- It does not hold text. -/
  | notText
  /-- Something else is wrong. -/
  | other (detail : String)
deriving DecidableEq, Repr

/-- The text shown to people. -/
def Unreadable.message : Unreadable → String
  | missing => "No such file or directory (os error 2)"
  | directory => "Is a directory (os error 21)"
  | notDirectory => "Not a directory (os error 20)"
  | nameTooLong => "File name too long (os error 36)"
  | brokenName => "file name contained an unexpected NUL byte"
  | forbidden => "Permission denied (os error 13)"
  | notText => "stream did not contain valid UTF-8"
  | other detail => detail

/-- What files hold, or why they cannot be read. -/
abbrev Files := String → Except Unreadable String

namespace Files

/-- The most bytes of a name in a path. -/
def nameLimit : Nat := 255

/-- The most bytes of a path. -/
def pathLimit : Nat := 4095

/-- Whether a name in a path leads to a directory that always exists: to the same one, or to the one
around it. -/
def isStep (name : String) : Bool := name = "" || name = "." || name = ".."

/-- Why a path does not lead to a file where there are no files. The first name that does not exist
decides. -/
def whyNone (path : String) : Unreadable :=
  if pathLimit < path.utf8ByteSize then .nameTooLong
  else match (path.splitOn "/").find? (!isStep ·) with
    | none => .directory
    | some name => if nameLimit < name.utf8ByteSize then .nameTooLong else .missing

/-- The files with the given paths and texts. -/
def ofList (files : List (String × String)) : Files := fun path =>
  if path.contains '\x00' then .error .brokenName
  else match files.lookup path with
    | some text => .ok text
    | none => .error (whyNone path)

end Files

end ServiceClause.CommandLine
