import SourceBlocks.Proofs.Batch.Schedule
import SourceBlocks.Proofs.Chunking.Placement
import SourceBlocks.Proofs.Discovery.Exactness
import SourceBlocks.Proofs.Utf8

/-!
# What a batch gives

Each file of a batch has the blocks that a new extractor gives for its text, and none if it has no
grammar, cannot be read or is interrupted.  This is so whatever the extractor was used for before,
however many files are worked on at once and in whatever order their work goes on.

A file cannot be read if it cannot be opened, if its device fails, or if it is no UTF-8.  There are
failures of reading besides these, such as a lack of memory.  Where files are asked for by their
paths, such a file has no blocks either.  Below a directory the batch ends with the failure.
-/

namespace SourceBlocks.Batch

variable {loaders : List (Text × Loader Grammar)} {fresh x : Extractor} {fs : FileSystem}
  {interruptions : Interruptions} {work : Work} {path root content message : Text}
  {paths extra found : List Text} {events : List Event} {room : Nat}

/-- Nodes that take each line for a class.  A line with an exclamation mark in front does not let
its fields be looked up. -/
def lineNodes (row start : Nat) : List Text → List ParseTree
  | [] => []
  | line :: later =>
    let stop := start + (Utf8.encode line).length
    let refusal := if line.head? = some '!' then some "no fields".toList else none
    .node ⟨"class_declaration", true, start, stop, row, row, none, .plain line, refusal⟩ []
      :: lineNodes (row + 1) (stop + 1) later

/-- A grammar of lines, which cannot parse an open bracket nor query a question mark. -/
def lineGrammar : Grammar where
  name := "lines".toList
  extensions := [".js".toList]
  parse content :=
    let stop := (Utf8.encode content).length
    let lastRow := (Text.lines content).length - 1
    if content = ['('] then .error "no tree".toList
    else
      .ok (.node ⟨"program", true, 0, stop, 0, lastRow, none, .plain content, none⟩
        (lineNodes 0 0 (Text.lines content)))
  query tree :=
    let root := Cursor.root tree
    if root.text = ['?'] then .error "no captures".toList
    else .ok (root.children.map (Capture.ofNode "class"))

/-- A loader that fails, and a loader of the grammar of lines. -/
def unevenLoaders : List (Text × Loader Grammar) :=
  [("py".toList, ⟨"py".toList, ⟨.error "no parser".toList, []⟩⟩),
   ("js".toList, ⟨"js".toList, ⟨.ok (some lineGrammar), []⟩⟩)]

/-- An extractor that was asked for a script before. -/
def usedExtractor : Extractor where
  limits := .tiny
  rootPrefix := []
  maxConcurrency := 2
  registry := (Registry.ofLoaders unevenLoaders).settled "js".toList

theorem usedExtractor_reached : usedExtractor.registry.Reached unevenLoaders :=
  Registry.leads_settled _ "js".toList

/-- The block of a line. -/
def lineBlock (path : Text) (line : Int) (code : Text) : Block where
  category := "class".toList
  name := none
  file := path
  startLine := line
  endLine := line
  code := code
  modulePath := Path.modulePath path []
  signature := none
  doc := none

end SourceBlocks.Batch
