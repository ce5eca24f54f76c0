import SourceBlocks.Discovery
import SourceBlocks.Extractor

/-!
# Batches of files

Extraction from many files, or from all files below a directory.  The result lists each file once,
and a file whose extraction is interrupted by an unexpected failure has no blocks.  The files below
a directory are read before their extraction begins; an unexpected failure there ends the batch.
-/

namespace SourceBlocks

/-- The blocks of each file in order, how many files were worked on at once at most, and what was
reported. -/
structure BatchReport where
  files : List (Text × List Block)
  peak : Nat
  events : List Event

namespace Batch

/-- The message of the unexpected failure that interrupts the work on a file, if one does. -/
abbrev Interruptions := Text → Option Text

/-- A result list with the result of one more file, which takes the place of an earlier one. -/
def record (path : Text) (blocks : List Block) :
    List (Text × List Block) → List (Text × List Block)
  | [] => [(path, blocks)]
  | (other, old) :: rest =>
    if other = path then (path, blocks) :: rest else (other, old) :: record path blocks rest

/-- The results of several files as one list without repetitions. -/
def collect (results : List (Text × List Block)) : List (Text × List Block) :=
  results.foldl (fun files (path, blocks) => record path blocks files) []

/-- The work on each file in order, with the extractor handed on from file to file.  The first
failure that leaves the work on a file ends it all. -/
def workThrough (work : Extractor → Text → Except Text FileReport) (x : Extractor) :
    List Text → Except Text (List (Text × List Block) × List Event)
  | [] => .ok ([], [])
  | path :: later => do
    let report ← work x path
    let (files, events) ← workThrough work report.extractor later
    return ((path, report.blocks) :: files, report.events ++ events)

/-- The work on one file, which is left without blocks if the work is interrupted or fails. -/
def guarded (interruptions : Interruptions) (path : Text) (x : Extractor)
    (work : Except Text FileReport) : FileReport :=
  match interruptions path, work with
  | some message, _ => ⟨[], [.fileExtractionFailed path message], x⟩
  | none, .error message => ⟨[], [.fileExtractionFailed path message], x⟩
  | none, .ok report => report

/-- How many of `files` files are worked on at once at most, with room for `limit`. -/
def peak (files limit : Nat) : Nat := min files limit

/-- The work on a file that was asked for by its path. -/
def workAt (fs : FileSystem) (interruptions : Interruptions) (x : Extractor) (path : Text) :
    Except Text FileReport :=
  .ok (guarded interruptions path x (x.parseFile fs path))

/-- The blocks of several files, or the message of the failure that ends the batch. -/
def extractMany (x : Extractor) (fs : FileSystem) (interruptions : Interruptions)
    (paths : List Text) (maxConcurrency : Option Int) : Except Text BatchReport := do
  let (results, events) ← workThrough (workAt fs interruptions) x paths
  return {
    files := collect results
    peak := peak paths.length (Extractor.concurrency maxConcurrency x.maxConcurrency)
    events := events }

/-- The work on a file that was discovered below `root`.  Its reading is not guarded. -/
def workBelow (fs : FileSystem) (interruptions : Interruptions) (root : Text) (x : Extractor)
    (relative : Text) : Except Text FileReport :=
  if !x.registry.supports (Extension.ofPath relative) then .ok ⟨[], [], x⟩
  else
    match Extractor.readReporting fs (Path.join root relative) with
    | .error (.reported event) => .ok ⟨[], [event], x⟩
    | .error (.escaped message) => .error message
    | .ok content => .ok (guarded interruptions relative x (.ok (x.parseContent relative content)))

/-- Why a directory has no result. -/
inductive Failure where
  | refused (refusal : Discovery.Refusal)
  /-- The work on a file failed in a way that nothing caught. -/
  | escaped (message : Text)
  deriving DecidableEq, Repr

/-- The blocks of all files below a directory, which is given in normal form. -/
def extractDirectory (x : Extractor) (fs : FileSystem) (interruptions : Interruptions)
    (root : Text) (extraPatterns : List Text) (maxConcurrency : Option Int) :
    Except Failure BatchReport := do
  let (found, discovering) ←
    (Discovery.discover fs root extraPatterns Extension.scanned).mapError .refused
  let (results, events) ←
    (workThrough (workBelow fs interruptions root) x found).mapError .escaped
  let files := collect results
  let blocks := (files.flatMap Prod.snd).length
  let readable := found.filter fun path => x.registry.supports (Extension.ofPath path)
  return {
    files := files
    peak := peak readable.length (Extractor.concurrency maxConcurrency x.maxConcurrency)
    events := discovering ++ events ++ [.directoryExtracted root files.length blocks] }

end Batch

end SourceBlocks
