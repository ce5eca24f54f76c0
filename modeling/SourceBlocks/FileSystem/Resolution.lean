import SourceBlocks.FileSystem.Basic
import SourceBlocks.Path

/-!
# Resolution of paths

Where a path leads: from the root directory if it is absolute, else from the current directory.
Resolution takes one component after the other and follows links, a bounded number of them; names
and paths have a greatest length.
-/

namespace SourceBlocks

/-- A way down from the root directory: the directories on it from the innermost to the outermost,
each with its name.  Without any it ends in the root directory. -/
structure Trail where
  below : List (Text × Directory)
  root : Directory

namespace Trail

/-- The entries of the directory in which a trail ends. -/
def here (trail : Trail) : Directory :=
  match trail.below with
  | [] => trail.root
  | (_, entries) :: _ => entries

/-- The names that lead from the root directory to where a trail ends. -/
def address (trail : Trail) : List Text :=
  (trail.below.map Prod.fst).reverse

/-- The trail one directory further in. -/
def enter (trail : Trail) (name : Text) (entries : Directory) : Trail :=
  { trail with below := (name, entries) :: trail.below }

/-- The trail one directory further out.  The root directory is its own parent. -/
def up (trail : Trail) : Trail :=
  { trail with below := trail.below.tail }

/-- The trail that ends in the root directory. -/
def top (trail : Trail) : Trail :=
  { trail with below := [] }

/-- The trail into the directory of a name, which is empty if there is no such directory. -/
def descend (trail : Trail) (name : Text) : Trail :=
  match trail.here.lookup name with
  | some (.directory entries) => trail.enter name entries
  | _ => trail.enter name []

/-- The trail from which a link's target is followed. -/
def linkStart (trail : Trail) (target : Text) : Trail :=
  if target.head? = some '/' then trail.top else trail

end Trail

/-- What a path leads to: a file at its own address, a directory, or an address in a directory
where there is nothing yet. -/
inductive Target where
  | file (address : List Text) (file : StoredFile)
  | directory (trail : Trail)
  | vacant (address : List Text)

/-- What a path is resolved for. -/
inductive Purpose where
  | looking
  | writing
  deriving DecidableEq, Repr

namespace FileSystem

/-- How many links the resolution of one path may follow. -/
def linkLimit : Nat := 40

/-- The greatest length of a name in octets. -/
def nameLimit : Nat := 255

/-- The greatest length of a path in octets. -/
def pathLimit : Nat := 4095

/-- The components of a link's target.  A slash at its end is kept as an empty component, which
asks for a directory. -/
def linkComponents (target : Text) : List Text :=
  (Path.pieces target).filter (fun piece => !piece.isEmpty)
    ++ (if target.getLast? = some '/' then [[]] else [])

/-- Follows components from where a trail ends, up to the first link, from which `follow` goes on.
What is to be written must not end in a slash, whether or not there is a directory. -/
def resolveUpTo (purpose : Purpose) (follow : Trail → List Text → Except FileFault Target)
    (trail : Trail) : List Text → Except FileFault Target
  | [] => .ok (.directory trail)
  | name :: rest =>
    if name.isEmpty || name = ['.'] then resolveUpTo purpose follow trail rest
    else if name = ['.', '.'] then resolveUpTo purpose follow trail.up rest
    else if purpose = .writing && rest = [[]] then .error .isDirectory
    else if nameLimit < Utf8.size name then .error .nameTooLong
    else
      match trail.here.lookup name with
      | none => if rest.isEmpty then .ok (.vacant (trail.address ++ [name])) else .error .notFound
      | some (.file file) =>
        if rest.isEmpty then .ok (.file (trail.address ++ [name]) file) else .error .notDirectory
      | some (.directory entries) => resolveUpTo purpose follow (trail.enter name entries) rest
      | some (.link target) => follow (trail.linkStart target) (linkComponents target ++ rest)

/-- Follows components from where a trail ends, and up to so many links. -/
def resolveFrom (purpose : Purpose) : Nat → Trail → List Text → Except FileFault Target
  | 0 => resolveUpTo purpose fun _ _ => .error .tooManyLinks
  | links + 1 => resolveUpTo purpose (resolveFrom purpose links)

/-- The trail to the directory at an address. -/
def trailAt (fs : FileSystem) (address : List Text) : Trail :=
  address.foldl Trail.descend ⟨[], fs.root⟩

/-- The address of the directory from which a path is followed. -/
def startOf (fs : FileSystem) (path : Text) : List Text :=
  if path.head? = some '/' then [] else fs.current

/-- What a path leads to. -/
def resolve (fs : FileSystem) (path : Text) : Except FileFault Target :=
  if pathLimit < Utf8.size path then .error .nameTooLong
  else resolveFrom .looking linkLimit (fs.trailAt (fs.startOf path)) (Path.components path)

/-- What comes of reading the file at a path. -/
def read (fs : FileSystem) (path : Text) : Reading :=
  if !Path.isProper path then .escaped Path.improperMessage
  else
    match fs.resolve path with
    | .error fault => .unopened fault
    | .ok (.file _ file) => file.reading
    | .ok (.directory _) => .unopened .isDirectory
    | .ok (.vacant _) => .unopened .notFound

end FileSystem

/-- Why there is no text of a file. -/
inductive ReadFault where
  | file (fault : FileFault)
  | device (number : Nat) (description : Text)
  | malformed (report : Utf8.Malformed)
  deriving DecidableEq, Repr

namespace ReadFault

/-- The reason of an ill-formed sequence. -/
def reason : Utf8.Fault → Text
  | .invalidStart => "invalid start byte".toList
  | .invalidContinuation => "invalid continuation byte".toList
  | .unexpectedEnd => "unexpected end of data".toList

/-- The sentence that reports why there is no text of the file at a path. -/
def message (path : Text) : ReadFault → Text
  | file fault => fault.message path
  | device number description => FileFault.report number description
  | malformed report =>
    let place :=
      if report.length = 1 then
        "byte 0x".toList ++ Text.hexDigits 2 report.octet.toNat ++ " in position ".toList
          ++ Text.ofNat report.position
      else
        "bytes in position ".toList ++ Text.ofNat report.position ++ '-' ::
          Text.ofNat (report.position + report.length - 1)
    "'utf-8' codec can't decode ".toList ++ place ++ ": ".toList ++ reason report.reason

end ReadFault

/-- What comes of reading a file as a text. -/
inductive TextReading where
  | text (content : Text)
  | fault (fault : ReadFault)
  | escaped (message : Text)
  deriving DecidableEq, Repr

/-- What comes of reading the file at a path as a text. -/
def FileSystem.readText (fs : FileSystem) (path : Text) : TextReading :=
  match fs.read path with
  | .unopened fault => .fault (.file fault)
  | .failed number description => .fault (.device number description)
  | .escaped message => .escaped message
  | .octets content =>
    match Utf8.decode content with
    | .error report => .fault (.malformed report)
    | .ok text => .text text

end SourceBlocks
