import SourceBlocks.Block
import SourceBlocks.Event
import SourceBlocks.Packing

/-!
# Chunks of a span

Turning the pieces of a packed span into blocks.  A run becomes one block, numbered among the
blocks of the span; a line that is too long becomes blocks of the largest size, cut at fixed
distances.  Only then are the fingerprints already admitted taken into account, so they never
change where a span is cut.
-/

namespace SourceBlocks

/-- The lines to be packed: where they stand, and what their blocks are called. -/
structure Span where
  file : Text
  modulePath : Text
  baseType : Text
  startLine : Int
  name : Option Text
  doc : Option Text
  signature : Option Text

/-- What packing hands on to be admitted. -/
inductive Draft where
  /-- A run of lines, not numbered yet. -/
  | chunk (startLine endLine : Int) (code : Text)
  /-- The segment with this number, counted from zero, of a line that is too long. -/
  | segment (line : Int) (number : Nat) (code : Text)
  /-- Something to report at this point. -/
  | note (event : Event)
  deriving DecidableEq, Repr

/-- Blocks that were emitted, the fingerprints admitted after them, and what was reported. -/
structure Emission where
  blocks : List Block
  admitted : Admitted
  events : List Event

namespace Emission

/-- Nothing emitted. -/
def none (admitted : Admitted) : Emission := ⟨[], admitted, []⟩

/-- An emission that one more block precedes. -/
def withBlock (b : Block) (e : Emission) : Emission := { e with blocks := b :: e.blocks }

/-- An emission that one more event precedes. -/
def withEvent (event : Event) (e : Emission) : Emission := { e with events := event :: e.events }

end Emission

namespace Chunking

/-- The kind of block that a whole file is packed into. -/
def fallbackType : Text := "fallback_chunk".toList

/-- A line cut into segments of `size` characters, the last of which may be shorter. -/
def segments (size : Nat) (line : Text) : List Text :=
  if size = 0 ∨ line = [] then []
  else line.take size :: segments size (line.drop size)
  termination_by line.length
  decreasing_by
    have hsize : size ≠ 0 ∧ line ≠ [] := by simp_all
    have hline : 0 < line.length := List.length_pos_iff.mpr hsize.2
    rw [List.length_drop]
    omega

/-- What a piece of a span hands on.  A run without text is dropped; a run below the smallest size
is dropped and reported, unless it ends the span. -/
def drafts (limits : Limits) (span : Span) : Packing.Piece → List Draft
  | .run start lines final =>
    let code := Text.joinLines lines
    let startLine := span.startLine + start
    let endLine := startLine + lines.length - 1
    if code.isEmpty then []
    else if code.length < limits.minChars && !final then
      [.note (.chunkBelowMinimumSkipped span.file startLine endLine)]
    else [.chunk startLine endLine code]
  | .longLine index line =>
    ((segments limits.maxChars line).zipIdx).map fun (code, number) =>
      .segment (span.startLine + index) number code
  | .moved count index => [.note (.chunkRebalanced span.file count (span.startLine + index))]

/-- The name of a span, if it has one that is not empty. -/
def givenName (span : Span) : Option Text :=
  span.name.filter fun name => !name.isEmpty

/-- The name of the block of a span's run with number `part`, counted from one. -/
def partName (span : Span) (part : Nat) : Option Text :=
  (givenName span).map fun name => name ++ " (part ".toList ++ Text.ofNat part ++ [')']

/-- The name of a segment with this number, counted from zero, of a line. -/
def segmentName (span : Span) (line : Int) (number : Nat) : Text :=
  let label := "(line ".toList ++ Text.ofInt line ++ " segment ".toList
    ++ Text.ofNat (number + 1) ++ [')']
  match givenName span with
  | some name => name ++ ' ' :: label
  | none => label

/-- The block of a run, after `parts` runs of the span were emitted.  The first one carries the
documentation and the signature. -/
def chunkBlock (span : Span) (parts : Nat) (startLine endLine : Int) (code : Text) : Block :=
  { category := span.baseType
    name := partName span (parts + 1)
    file := span.file
    startLine := startLine
    endLine := endLine
    code := code
    modulePath := span.modulePath
    signature := if parts = 0 then span.signature else none
    doc := if parts = 0 then span.doc else none }

/-- The block of a segment. -/
def segmentBlock (span : Span) (line : Int) (number : Nat) (code : Text) : Block :=
  { category := span.baseType ++ "_line_segment".toList
    name := some (segmentName span line number)
    file := span.file
    startLine := line
    endLine := line
    code := code
    modulePath := span.modulePath
    signature := none
    doc := none }

/-- The fingerprint of a segment.  All segments of a line stand on the same line, so their numbers
tell equal ones apart. -/
def segmentKey (span : Span) (line : Int) (number : Nat) (code : Text) : Text :=
  Fingerprint.compute span.file line line (Text.ofNat number ++ '-' :: code)

/-- Admits drafts one after the other; `parts` runs of the span have been emitted before. -/
def settle (span : Span) : Nat → Admitted → List Draft → Emission
  | _, admitted, [] => .none admitted
  | parts, admitted, .note event :: later => (settle span parts admitted later).withEvent event
  | parts, admitted, .chunk startLine endLine code :: later =>
    let block := chunkBlock span parts startLine endLine code
    match admitted.accept block with
    | (true, admitted) => (settle span (parts + 1) admitted later).withBlock block
    | (false, admitted) => settle span parts admitted later
  | parts, admitted, .segment line number code :: later =>
    match admitted.admitKey (segmentKey span line number code) with
    | (true, admitted) =>
      (settle span parts admitted later).withBlock (segmentBlock span line number code)
    | (false, admitted) => settle span parts admitted later

/-- The blocks of a span of lines, when the limits have a threshold. -/
def chunkLines (s : Sizing) (span : Span) (lines : List Text) (admitted : Admitted) : Emission :=
  let emission := settle span 0 admitted
    ((Packing.pieces s lines).flatMap (drafts s.limits span))
  { emission with
    events := emission.events
      ++ [.spanChunked span.file span.baseType lines.length emission.blocks.length] }

/-- Whether a text has to be split, when the limits have a threshold. -/
def isOversized (limits : Limits) (text : Text) : Option Bool :=
  (Sizing.ofLimits? limits).map fun s => s.exceeds text.length

theorem isOversized_eq {limits : Limits} {s : Sizing} (hs : Sizing.ofLimits? limits = some s)
    (text : Text) : isOversized limits text = some (s.exceeds text.length) := by
  rw [isOversized, hs, Option.map_some]

/-- The blocks of a whole file in which no structure was found.  A file below the smallest size
has none, and no threshold is needed to say so. -/
def chunkFallback (limits : Limits) (file modulePath content : Text) (admitted : Admitted) :
    Option Emission :=
  if content.length < limits.minChars then some (.none admitted)
  else
    (Sizing.ofLimits? limits).map fun s =>
      chunkLines s ⟨file, modulePath, fallbackType, 1, none, none, none⟩ (Text.lines content)
        admitted

end Chunking

end SourceBlocks
