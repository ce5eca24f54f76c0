import SourceBlocks.Event
import SourceBlocks.Extension
import SourceBlocks.FileSystem.Resolution
import SourceBlocks.Wildcard

/-!
# Discovery of source files

A walk below a root directory that leaves out ignored names and keeps the files whose suffix is
scanned and which are not empty.  Links to files count as files; links to directories are not
entered.
-/

namespace SourceBlocks.Discovery

/-- The patterns of names that are always ignored. -/
def defaultPatterns : List Text :=
  [".*", ".git", ".hg", ".svn", ".idea", ".vscode", ".DS_Store", "__pycache__", ".mypy_cache",
   ".pytest_cache", ".ruff_cache", ".venv", "venv", "node_modules", "build", "dist", "*.log",
   "*.lock"].map String.toList

/-- Whether one of the patterns stands for a name. -/
def isIgnored (patterns : List Text) (name : Text) : Bool :=
  patterns.any fun pattern => (Wildcard.ofText pattern).isMatch name

/-- The default patterns together with extra ones.  Extra patterns are trimmed, and blank ones
left out. -/
def patternsWith (extra : List Text) : List Text :=
  defaultPatterns ++ (extra.map Text.trim).filter fun pattern => !pattern.isEmpty

/-- Which names a walk keeps. -/
structure Filter where
  patterns : List Text
  suffixes : List Text

/-- Something that a walk came upon. -/
inductive Finding where
  | file (relative : Text)
  | statFailed (relative : Text) (fault : FileFault)
  deriving DecidableEq, Repr

/-- What comes of an entry that is not a directory, given where its own path leads. -/
def judge (filter : Filter) (name relative : Text) (target : Except FileFault Target) :
    List Finding :=
  if isIgnored filter.patterns name || !filter.suffixes.contains (Text.lower (Path.suffix name))
  then []
  else
    match target with
    | .error fault => [.statFailed relative fault]
    | .ok (.file _ file) => if file.size = 0 then [] else [.file relative]
    | .ok (.directory _) => []
    | .ok (.vacant _) => [.statFailed relative .notFound]

/-- The path of a name in the directory with the given path below the root. -/
def below (relative name : Text) : Text :=
  if relative.isEmpty then name else relative ++ '/' :: name

mutual

/-- What a walk comes upon at an entry of the directory whose path below the root is `relative`.
Where a path below the root leads is told by `locate`. -/
def walkEntry (filter : Filter) (locate : Text → Except FileFault Target) (relative name : Text) :
    Entry → List Finding
  | .directory entries =>
    if isIgnored filter.patterns name then [] else walk filter locate (below relative name) entries
  | _ => judge filter name (below relative name) (locate (below relative name))

/-- What a walk comes upon among the entries of a directory. -/
def walk (filter : Filter) (locate : Text → Except FileFault Target) (relative : Text) :
    List (Text × Entry) → List Finding
  | [] => []
  | (name, entry) :: rest =>
    walkEntry filter locate relative name entry ++ walk filter locate relative rest

end

/-- Why discovery cannot start: the root is no directory, or its path is too long to tell. -/
inductive Refusal where
  | notDirectory (root : Text)
  | nameTooLong (root : Text)
  deriving DecidableEq, Repr

/-- The sentence that reports why discovery cannot start. -/
def Refusal.message : Refusal → Text
  | notDirectory root => "Source root is not a directory: ".toList ++ root
  | nameTooLong root => FileFault.nameTooLong.message root

/-- The path of a finding below the root, if it is a file. -/
def Finding.file? : Finding → Option Text
  | file relative => some relative
  | statFailed .. => none

/-- What a finding reports. -/
def Finding.event? (root : Text) : Finding → Option Event
  | file _ => none
  | statFailed relative fault =>
    let path := Path.join root relative
    some (.fileStatFailed path (fault.message path))

/-- The paths below `root` of the files to index, sorted, and what is reported.  The root is given
in normal form. -/
def discover (fs : FileSystem) (root : Text) (extra extensions : List Text) :
    Except Refusal (List Text × List Event) :=
  match fs.resolve root with
  | .ok (.directory trail) =>
    let filter : Filter := ⟨patternsWith extra, extensions.map Text.lower⟩
    let locate (relative : Text) := fs.resolve (Path.join root relative)
    let findings := walk filter locate [] trail.here
    let found := (findings.filterMap Finding.file?).mergeSort Text.le
    .ok (found,
      findings.filterMap (Finding.event? root) ++ [.sourceFilesDiscovered root found.length])
  | .error .nameTooLong => .error (.nameTooLong root)
  | _ => .error (.notDirectory root)

end SourceBlocks.Discovery
