import SourceBlocks.Chunking

/-!
# Packing in one loop

A span can also be packed in a single loop that looks fingerprints up while it gathers lines: the
pending run, the number of emitted runs, the fingerprints, the blocks and the events are one state,
and closing a run or cutting a line changes all of it at once.  This file states that loop and
proves that it is the same function as packing first and admitting later, with the blocks, the
fingerprints and the events in the same order.  The reason is that no operation on the pending run
reads what was emitted, and that a closed run leaves nothing behind, whether or not it became a
block.
-/

namespace SourceBlocks.Chunking

open Packing

/-- What a loop over a span has emitted: the number of runs among the blocks, the fingerprints, and
the blocks and events from the oldest to the newest. -/
structure Emitted where
  parts : Nat
  seen : Admitted
  blocks : List Block
  events : List Event

namespace Emitted

/-- Reports an event. -/
def report (e : Emitted) (event : Event) : Emitted :=
  { e with events := e.events ++ [event] }

/-- Emits the block of a run, unless its fingerprint was seen. -/
def addRun (span : Span) (e : Emitted) (startLine endLine : Int) (code : Text) : Emitted :=
  let block := chunkBlock span e.parts startLine endLine code
  match e.seen.accept block with
  | (true, seen) => { e with parts := e.parts + 1, seen := seen, blocks := e.blocks ++ [block] }
  | (false, seen) => { e with seen := seen }

/-- Emits the block of a segment, unless its fingerprint was seen. -/
def addSegment (span : Span) (e : Emitted) (line : Int) (number : Nat) (code : Text) : Emitted :=
  match e.seen.admitKey (segmentKey span line number code) with
  | (true, seen) =>
    { e with seen := seen, blocks := e.blocks ++ [segmentBlock span line number code] }
  | (false, seen) => { e with seen := seen }

/-- The emission that the loop ends with. -/
def emission (e : Emitted) : Emission :=
  ⟨e.blocks, e.seen, e.events⟩

end Emitted

/-- The state of the loop: the run that is being gathered, and what was emitted. -/
structure ChunkRun where
  pending : Pending
  emitted : Emitted

namespace ChunkRun

/-- Nothing gathered and nothing emitted. -/
def start (admitted : Admitted) : ChunkRun :=
  ⟨.empty, ⟨0, admitted, [], []⟩⟩

/-- Gathers one more line. -/
def append (r : ChunkRun) (index : Nat) (line : Text) : ChunkRun :=
  { r with pending := r.pending.push index line }

/-- Closes the pending run, of which only the number of its first line stays behind. -/
def finalize (limits : Limits) (span : Span) (forced : Bool) (r : ChunkRun) : ChunkRun :=
  if r.pending.newestFirst.isEmpty then r
  else
    let lines := r.pending.newestFirst.reverse
    let code := Text.joinLines lines
    let startLine := span.startLine + r.pending.start
    let endLine := startLine + lines.length - 1
    let cleared : Pending := { r.pending with newestFirst := [], length := 0 }
    if code.isEmpty then ⟨cleared, r.emitted⟩
    else if code.length < limits.minChars && !forced then
      ⟨cleared, r.emitted.report (.chunkBelowMinimumSkipped span.file startLine endLine)⟩
    else ⟨cleared, r.emitted.addRun span startLine endLine code⟩

/-- Emits the segments of a line that is too long. -/
def emitLineSegments (limits : Limits) (span : Span) (r : ChunkRun) (index : Nat) (line : Text) :
    ChunkRun :=
  let lineNumber := span.startLine + index
  let emitted := ((segments limits.maxChars line).zipIdx).foldl
    (fun e (code, number) => e.addSegment span lineNumber number code) r.emitted
  ⟨r.pending, emitted⟩

/-- Takes lines off the pending run for the next one, and reports how many if there are any.
`remainder` is the joined length of the span from `line` on. -/
def rebalance (s : Sizing) (span : Span) (r : ChunkRun) (index : Nat) (line : Text)
    (remainder : Nat) : ChunkRun × List Text :=
  let (kept, carried) := Packing.rebalance s r.pending line remainder
  let emitted :=
    if carried.isEmpty then r.emitted
    else r.emitted.report (.chunkRebalanced span.file carried.length (span.startLine + index))
  (⟨kept, emitted⟩, carried)

/-- One turn of the loop, for the line with number `index`. -/
def turn (s : Sizing) (span : Span) (r : ChunkRun) (index : Nat) (line : Text)
    (remainder : Nat) : ChunkRun :=
  if s.exceeds line.length then
    (r.finalize s.limits span false).emitLineSegments s.limits span index line
  else if !r.pending.newestFirst.isEmpty && s.exceeds (r.pending.lengthWith line) then
    let (r, carried) := r.rebalance s span index line remainder
    let r := r.finalize s.limits span false
    (carried.foldl (fun r moved => r.append (index - carried.length) moved) r).append index line
  else r.append index line

/-- The loop over the lines from number `index` on and the joined lengths of what follows. -/
def loop (s : Sizing) (span : Span) : ChunkRun → Nat → List Text → List Nat → ChunkRun
  | r, index, line :: later, remainder :: suffix =>
    loop s span (r.turn s span index line remainder) (index + 1) later suffix
  | r, _, _, _ => r.finalize s.limits span true

end ChunkRun

/-- The blocks of a span of lines, packed and admitted in one loop. -/
def chunkLinesInOneLoop (s : Sizing) (span : Span) (lines : List Text) (admitted : Admitted) :
    Emission :=
  let e := (ChunkRun.loop s span (.start admitted) 0 lines (suffixLengths lines)).emitted.emission
  { e with events := e.events ++ [.spanChunked span.file span.baseType lines.length
      e.blocks.length] }

variable {s : Sizing} {span : Span}

/-! ## Drafts that are admitted as they come -/

/-- Puts one draft among what was emitted. -/
def Emitted.put (span : Span) (e : Emitted) : Draft → Emitted
  | .chunk startLine endLine code => e.addRun span startLine endLine code
  | .segment line number code => e.addSegment span line number code
  | .note event => e.report event

/-- Puts drafts among what was emitted, one after the other. -/
def Emitted.putAll (span : Span) (e : Emitted) (drafts : List Draft) : Emitted :=
  drafts.foldl (Emitted.put span) e

theorem Emitted.putAll_append (span : Span) (e : Emitted) (drafts more : List Draft) :
    e.putAll span (drafts ++ more) = (e.putAll span drafts).putAll span more :=
  List.foldl_append

/-- What was emitted, with a later emission after it. -/
def Emitted.followedBy (e : Emitted) (later : Emission) : Emission :=
  ⟨e.blocks ++ later.blocks, later.admitted, e.events ++ later.events⟩

theorem Emitted.followedBy_settle_cons (e : Emitted) (d : Draft) (later : List Draft) :
    e.followedBy (settle span e.parts e.seen (d :: later)) =
      (e.put span d).followedBy (settle span (e.put span d).parts (e.put span d).seen later) := by
  cases d with
  | note event => simp [settle, put, report, followedBy, Emission.withEvent]
  | chunk startLine endLine code =>
    rcases hseen : e.seen.accept (chunkBlock span e.parts startLine endLine code) with
      ⟨_ | _, seen⟩ <;>
      simp [settle, put, addRun, hseen, followedBy, Emission.withBlock]
  | segment line number code =>
    rcases hseen : e.seen.admitKey (segmentKey span line number code) with ⟨_ | _, seen⟩ <;>
      simp [settle, put, addSegment, hseen, followedBy, Emission.withBlock]

/-- Admitting drafts from the first on adds to what was emitted what settling them emits. -/
theorem Emitted.emission_putAll (e : Emitted) (drafts : List Draft) :
    (e.putAll span drafts).emission = e.followedBy (settle span e.parts e.seen drafts) := by
  induction drafts generalizing e with
  | nil => simp [putAll, settle, followedBy, emission, Emission.none]
  | cons d later ih =>
    rw [e.followedBy_settle_cons, ← ih]
    rfl

/-! ## What each operation of the loop emits -/

theorem ChunkRun.finalize_emitted (limits : Limits) (span : Span) (forced : Bool) (r : ChunkRun) :
    (r.finalize limits span forced).emitted =
      r.emitted.putAll span ((r.pending.close forced).flatMap (drafts limits span)) := by
  rw [finalize, Pending.close]
  split
  · rfl
  · rw [List.flatMap_singleton, drafts]
    dsimp only
    split
    · rfl
    · split <;> rfl

theorem ChunkRun.finalize_pending (limits : Limits) (span : Span) (forced : Bool) (r : ChunkRun) :
    (r.finalize limits span forced).pending.newestFirst = [] := by
  rw [finalize]
  split
  next hempty => exact List.isEmpty_iff.mp hempty
  next =>
    dsimp only
    split
    · rfl
    · split <;> rfl

theorem ChunkRun.emitLineSegments_emitted (limits : Limits) (span : Span) (r : ChunkRun)
    (index : Nat) (line : Text) :
    (r.emitLineSegments limits span index line).emitted =
      r.emitted.putAll span (drafts limits span (.longLine index line)) := by
  rw [Emitted.putAll, drafts, List.foldl_map]
  rfl

theorem ChunkRun.rebalance_eq (s : Sizing) (span : Span) (r : ChunkRun) (index : Nat) (line : Text)
    (remainder : Nat) {kept : Pending} {carried : List Text}
    (h : Packing.rebalance s r.pending line remainder = (kept, carried)) :
    r.rebalance s span index line remainder =
      (⟨kept, r.emitted.putAll span ((moveRecord carried index).flatMap (drafts s.limits span))⟩,
        carried) := by
  rw [rebalance, h, moveRecord]
  dsimp only
  split <;> rfl

/-! ## Runs that hold no line -/

/-- The first line of a run says all about it. -/
theorem push_of_empty {p : Pending} (hp : p.newestFirst = []) (index : Nat) (line : Text) :
    p.push index line = Pending.empty.push index line := by
  simp [Pending.push, Pending.lengthWith, Pending.empty, hp]

theorem scan_of_empty {p : Pending} (hp : p.newestFirst = []) (index : Nat) (lines : List Text) :
    scan s p index lines = scan s .empty index lines := by
  cases lines with
  | nil => simp [scan, Pending.close, Pending.empty, hp]
  | cons line later =>
    rw [scan, scan, push_of_empty hp]
    simp [Pending.close, Pending.empty, hp]

/-- Carried lines and the line after them make the same run, whatever run they come after. -/
theorem ChunkRun.foldl_append_pending {r : ChunkRun} (hr : r.pending.newestFirst = [])
    (carried : List Text) (start index : Nat) (line : Text) :
    (carried.foldl (fun r moved => r.append start moved) r).append index line =
      ⟨(Pending.ofCarried carried start).push index line, r.emitted⟩ := by
  have hfold : ∀ (carried : List Text) (r : ChunkRun),
      carried.foldl (fun r moved => r.append start moved) r =
        ⟨carried.foldl (fun p moved => p.push start moved) r.pending, r.emitted⟩ := by
    intro carried
    induction carried with
    | nil => exact fun _ => rfl
    | cons moved later ih => exact fun r => ih (r.append start moved)
  rw [hfold, append, Pending.ofCarried]
  cases carried with
  | nil => rw [List.foldl_nil, List.foldl_nil, push_of_empty hr]
  | cons moved later => rw [List.foldl_cons, List.foldl_cons, push_of_empty hr]

/-! ## The loop -/

/-- What will have been emitted in the end, if the pieces that the scan settles from here on are
admitted one after the other. -/
def ChunkRun.outlook (s : Sizing) (span : Span) (r : ChunkRun) (index : Nat) (lines : List Text) :
    Emitted :=
  r.emitted.putAll span ((scan s r.pending index lines).flatMap (drafts s.limits span))

/-- A turn of the loop does not change what will have been emitted in the end. -/
theorem ChunkRun.turn_outlook (s : Sizing) (span : Span) (r : ChunkRun) (index : Nat) (line : Text)
    (later : List Text) :
    (r.turn s span index line (joinedLength (line :: later))).outlook s span (index + 1) later =
      r.outlook s span index (line :: later) := by
  rw [outlook, outlook, scan, turn]
  split
  · have hnone : ((r.finalize s.limits span false).emitLineSegments s.limits span index
        line).pending.newestFirst = [] := r.finalize_pending s.limits span false
    rw [scan_of_empty hnone, emitLineSegments_emitted, finalize_emitted, ← Emitted.putAll_append,
      ← Emitted.putAll_append, List.flatMap_append, List.flatMap_cons]
  · split
    · obtain ⟨⟨kept, carried⟩, hmoved⟩ :
          ∃ moved, Packing.rebalance s r.pending line (joinedLength (line :: later)) = moved :=
        ⟨_, rfl⟩
      rw [hmoved, r.rebalance_eq s span index line _ hmoved]
      dsimp only
      rw [foldl_append_pending (finalize_pending s.limits span false _), finalize_emitted,
        ← Emitted.putAll_append, ← Emitted.putAll_append, List.flatMap_append,
        List.flatMap_append, List.append_assoc]
    · rfl

/-- From any state on, the loop emits what its outlook says. -/
theorem ChunkRun.loop_emitted (s : Sizing) (span : Span) (r : ChunkRun) (index : Nat)
    (lines : List Text) :
    (loop s span r index lines (suffixLengths lines)).emitted = r.outlook s span index lines := by
  induction lines generalizing r index with
  | nil => exact r.finalize_emitted s.limits span true
  | cons line later ih => rw [suffixLengths, loop, ih, turn_outlook]

/-- Packing first and admitting later gives what the one loop gives: the same blocks, fingerprints
and events, in the same order. -/
theorem chunkLines_eq_one_loop (s : Sizing) (span : Span) (lines : List Text)
    (admitted : Admitted) :
    chunkLines s span lines admitted = chunkLinesInOneLoop s span lines admitted := by
  have hloop : (ChunkRun.loop s span (.start admitted) 0 lines
      (suffixLengths lines)).emitted.emission =
        settle span 0 admitted ((pieces s lines).flatMap (drafts s.limits span)) := by
    rw [ChunkRun.loop_emitted, ChunkRun.outlook, Emitted.emission_putAll]
    rfl
  rw [chunkLines, chunkLinesInOneLoop, hloop]

end SourceBlocks.Chunking
