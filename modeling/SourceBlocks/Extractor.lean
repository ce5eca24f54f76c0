import SourceBlocks.Extraction
import SourceBlocks.FileSystem.Resolution
import SourceBlocks.Grammar.Registry

/-!
# The extractor

Extraction for files of any language: the grammar is found by the file's extension, the content is
parsed and queried, and the captures become blocks.  A failure is contained: it is reported,
and the file has no blocks.  Only a reading that fails in an unexpected way is the caller's error.
-/

namespace SourceBlocks

/-- An extractor: its size limits, the prefix that module paths lose, the number of files it works
on at once, and its grammars. -/
structure Extractor where
  limits : Limits
  rootPrefix : Text
  maxConcurrency : Nat
  registry : Registry Grammar

/-- The blocks of a file, what was reported, and the extractor afterwards. -/
structure FileReport where
  blocks : List Block
  events : List Event
  extractor : Extractor

namespace Extractor

/-- A requested number of files to work on at once: none or zero asks for the usual number, and at
least one file is worked on. -/
def concurrency (requested : Option Int) (usual : Int) : Nat :=
  (max 1 ((requested.filter (· ≠ 0)).getD usual)).toNat

/-- Whether a path has an extension with a grammar. -/
def supports (x : Extractor) (path : Text) : Bool :=
  let extension := Extension.ofPath path
  !extension.isEmpty && x.registry.supports extension

/-- The report of a path without a grammar. -/
def unsupported (x : Extractor) (path : Text) : FileReport :=
  ⟨[], [.unsupportedLanguage path (Extension.ofPath path)], x⟩

/-- What a grammar captures in a text, or why it fails. -/
def analyse (grammar : Grammar) (content : Text) : Except Text (List Capture) := do
  let tree ← grammar.parse content
  grammar.query tree

/-- The blocks of a content whose captures are known, and what is reported. -/
def blocksOf (x : Extractor) (path content : Text) (captures : List Capture) :
    List Block × List Event :=
  let extraction := extractBlocks x.limits x.rootPrefix path content captures .empty
  match extraction.outcome with
  | .error failure =>
    ([], extraction.events ++ [.blockExtractionFailed path failure.message])
  | .ok blocks =>
    (blocks, extraction.events ++ [.blocksExtracted path captures.length blocks.length])

/-- The blocks of a file with the given content. -/
def parseContent (x : Extractor) (path content : Text) : FileReport :=
  if !x.supports path then x.unsupported path
  else
    let (grammar, registry, loading) := x.registry.obtain (Extension.ofPath path)
    let x := { x with registry := registry }
    match grammar with
    | none => ⟨[], loading ++ [.grammarUnavailable path], x⟩
    | some grammar =>
      match analyse grammar content with
      | .error message => ⟨[], loading ++ [.parseFailed path message], x⟩
      | .ok captures =>
        let (blocks, events) := x.blocksOf path content captures
        ⟨blocks, loading ++ events, x⟩

/-- Why an extractor has no text of a file. -/
inductive Unread where
  /-- The file cannot be read or decoded, and this is all that is reported of it. -/
  | reported (event : Event)
  /-- The reading fails in another way, which the extractor does not expect. -/
  | escaped (message : Text)
  deriving DecidableEq, Repr

/-- The text of the file at a path. -/
def readReporting (fs : FileSystem) (path : Text) : Except Unread Text :=
  let path := Path.normalize path
  match fs.readText path with
  | .text content => .ok content
  | .fault fault => .error (.reported (.fileReadFailed path (fault.message path)))
  | .escaped message => .error (.escaped message)

/-- The blocks of the file at a path, which is read unless its extension has no grammar.  A reading
that fails in an unexpected way ends the call, with a message. -/
def parseFile (x : Extractor) (fs : FileSystem) (path : Text) : Except Text FileReport :=
  if !x.supports path then .ok (x.unsupported path)
  else
    match readReporting fs path with
    | .error (.reported event) => .ok ⟨[], [event], x⟩
    | .error (.escaped message) => .error message
    | .ok content => .ok (x.parseContent path content)

end Extractor

end SourceBlocks
