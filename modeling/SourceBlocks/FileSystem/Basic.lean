import SourceBlocks.Text.Quoted
import SourceBlocks.Text.Utf8

/-!
# File systems

A finite file system is a tree of directories with named entries: files, links and further
directories.  One of the directories is the current one.  This module has the entries and the
reasons for which an operation on a path may fail.
-/

namespace SourceBlocks

/-- Why a path cannot be used. -/
inductive FileFault where
  | notFound
  | alreadyExists
  | notDirectory
  | isDirectory
  | nameTooLong
  | tooManyLinks
  /-- A fault that lies in the file and not on the way to it, such as a missing permission. -/
  | other (number : Nat) (description : Text)
  deriving DecidableEq, Repr

namespace FileFault

/-- The number of a fault. -/
def number : FileFault → Nat
  | notFound => 2
  | alreadyExists => 17
  | notDirectory => 20
  | isDirectory => 21
  | nameTooLong => 36
  | tooManyLinks => 40
  | other number _ => number

/-- The description of a fault. -/
def description : FileFault → Text
  | notFound => "No such file or directory".toList
  | alreadyExists => "File exists".toList
  | notDirectory => "Not a directory".toList
  | isDirectory => "Is a directory".toList
  | nameTooLong => "File name too long".toList
  | tooManyLinks => "Too many levels of symbolic links".toList
  | other _ description => description

/-- The sentence that reports a fault by its number and its description. -/
def report (number : Nat) (description : Text) : Text :=
  "[Errno ".toList ++ Text.ofNat number ++ "] ".toList ++ description

/-- The sentence that reports a fault of a path. -/
def message (fault : FileFault) (path : Text) : Text :=
  report fault.number fault.description ++ ": ".toList ++ Text.quoted path

end FileFault

/-- What comes of reading a file. -/
inductive Reading where
  | octets (content : Octets)
  /-- The file cannot be opened. -/
  | unopened (fault : FileFault)
  /-- The file was opened, and its device failed. -/
  | failed (number : Nat) (description : Text)
  /-- The reading ended in a failure that is none of files, such as a lack of memory. -/
  | escaped (message : Text)
  deriving DecidableEq, Repr

/-- A file: the number of octets that it is said to have, and what comes of reading it. -/
structure StoredFile where
  size : Nat
  reading : Reading
  deriving DecidableEq, Repr

/-- The file with a given content. -/
def StoredFile.holding (content : Octets) : StoredFile :=
  ⟨content.length, .octets content⟩

/-- Something that has a name in a directory. -/
inductive Entry where
  | file (file : StoredFile)
  | link (target : Text)
  | directory (entries : List (Text × Entry))

/-- The entries of a directory by name. -/
abbrev Directory := List (Text × Entry)

/-- A file system: its root directory, and the names that lead from there to the current
directory. -/
structure FileSystem where
  root : Directory
  current : List Text

end SourceBlocks
