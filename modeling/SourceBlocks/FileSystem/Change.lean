import SourceBlocks.FileSystem.Resolution

/-!
# Changes to a file system

Making directories and links, and writing files.  Like every use of a path, a change follows the
links on its way, and writing also the link at its end.
-/

namespace SourceBlocks.FileSystem

/-- The directory with one entry replaced, or added at the end. -/
def put (name : Text) (entry : Entry) : Directory → Directory
  | [] => [(name, entry)]
  | (other, old) :: rest =>
    if other = name then (name, entry) :: rest else (other, old) :: put name entry rest

/-- Puts an entry at an address below a directory, and directories on the way where there are
none. -/
def putBelow (entry : Entry) : List Text → Directory → Directory
  | [], directory => directory
  | [name], directory => put name entry directory
  | name :: next :: rest, directory =>
    match directory.lookup name with
    | some (.directory entries) =>
      put name (.directory (putBelow entry (next :: rest) entries)) directory
    | _ => put name (.directory (putBelow entry (next :: rest) [])) directory

/-- Puts an entry at an address. -/
def putAt (fs : FileSystem) (address : List Text) (entry : Entry) : FileSystem :=
  { fs with root := putBelow entry address fs.root }

/-- Creates the directories that components name, one after the other, below the directory at an
address; `fresh` tells that this one was just created.  What was created before a fault stays.  A
fault on the way to directories that exist is that of the way; at the last of them, and below a
fresh directory, something else is in the way. -/
def makeDirectories (fs : FileSystem) (address : List Text) (fresh : Bool) :
    List Text → FileSystem × Option FileFault
  | [] => (fs, none)
  | name :: rest =>
    let trail := fs.trailAt address
    let obstructed (fault : FileFault) : FileFault :=
      if fault ≠ .nameTooLong && (rest.isEmpty || fresh || fault = .notFound) then .alreadyExists
      else fault
    match resolveFrom .looking linkLimit trail [name] with
    | .ok (.directory inner) => makeDirectories fs inner.address fresh rest
    | .ok (.file ..) => (fs, some (obstructed .notDirectory))
    | .ok (.vacant _) =>
      -- A link that leads to a free place is in the way itself.
      if (trail.here.lookup name).isSome then (fs, some .alreadyExists)
      else
        makeDirectories (fs.putAt (address ++ [name]) (.directory [])) (address ++ [name]) true rest
    | .error fault => (fs, some (obstructed fault))

/-- Writes a file that components name below the directory at an address.  The result is the file
system and the address of the file. -/
def write (fs : FileSystem) (address components : List Text) (content : Octets) :
    Except FileFault (FileSystem × List Text) :=
  match resolveFrom .writing linkLimit (fs.trailAt address) components with
  | .ok (.file place _) | .ok (.vacant place) =>
    .ok (fs.putAt place (.file (.holding content)), place)
  | .ok (.directory _) => .error .isDirectory
  | .error fault => .error fault

/-- Creates a link in the directory that components name below the directory at an address. -/
def addLink (fs : FileSystem) (address parent : List Text) (name target : Text) :
    Except FileFault FileSystem :=
  match resolveFrom .looking linkLimit (fs.trailAt address) parent with
  | .ok (.directory trail) =>
    if (trail.here.lookup name).isSome then .error .alreadyExists
    else .ok (fs.putAt (trail.address ++ [name]) (.link target))
  | .ok (.file ..) => .error .notDirectory
  | .ok (.vacant _) => .error .notFound
  | .error fault => .error fault

end SourceBlocks.FileSystem
