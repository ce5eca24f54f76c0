import SourceBlocks.Limits

/-!
# Packing lines into runs

A span of lines is cut in one pass from its first line to its last.  Lines gather in a pending run
for as long as their joined text stays within the threshold.  A line that is too long by itself
closes the pending run and stands alone.  When the next line does not fit and the rest of the span
would be short, the newest pending lines move over to the next run, as long as the run they leave
keeps the smallest size and the run they join stays within the threshold.

Where the cuts fall depends on the lengths of the lines alone.
-/

namespace SourceBlocks.Packing

/-- The length of lines joined with line feeds. -/
def joinedLength : List Text → Nat
  | [] => 0
  | [line] => line.length
  | line :: next :: later => line.length + 1 + joinedLength (next :: later)

/-- The joined lengths of a list of lines and of everything it ends in, the empty end included. -/
def suffixLengths : List Text → List Nat
  | [] => [0]
  | line :: later => joinedLength (line :: later) :: suffixLengths later

/-- A part of a span, in the order in which packing settles them. -/
inductive Piece where
  /-- Lines that were gathered, from the line numbered `start` in the span on.  The last run of a
  span is `final`. -/
  | run (start : Nat) (lines : List Text) (final : Bool)
  /-- A line that is too long by itself. -/
  | longLine (index : Nat) (line : Text)
  /-- A record that `count` lines moved to the run of the line numbered `index`. -/
  | moved (count : Nat) (index : Nat)
  deriving DecidableEq, Repr

/-- The run that is being gathered: the number of its first line, its lines from the newest to the
oldest, and the length of their joined text. -/
structure Pending where
  start : Nat
  newestFirst : List Text
  length : Nat

namespace Pending

/-- A run without lines. -/
def empty : Pending := ⟨0, [], 0⟩

/-- The joined length of a run together with one more line. -/
def lengthWith (p : Pending) (line : Text) : Nat :=
  if p.newestFirst.isEmpty then line.length else p.length + 1 + line.length

/-- A run with one more line, which has number `index` if it is the first. -/
def push (p : Pending) (index : Nat) (line : Text) : Pending :=
  { start := if p.newestFirst.isEmpty then index else p.start
    newestFirst := line :: p.newestFirst
    length := p.lengthWith line }

/-- The pieces that closing a run settles: one, or none if the run has no lines. -/
def close (p : Pending) (final : Bool) : List Piece :=
  if p.newestFirst.isEmpty then [] else [.run p.start p.newestFirst.reverse final]

end Pending

/-- Moves lines off the newest end of a run of joined length `length`, while `remainder`, the
joined length of what comes after the run, is too short.  The lines moved so far, in order, have
the joined length `carriedLength`; `line` is the line that did not fit.  The result is what stays,
its length, and the lines moved. -/
def carry (s : Sizing) (line : Text) :
    List Text → Nat → Nat → List Text → Nat → List Text × Nat × List Text
  | candidate :: next :: older, length, remainder, carried, carriedLength =>
    let shrunk := length - candidate.length - 1
    let head := candidate.length + (if carried.isEmpty then 0 else carriedLength + 1)
    if s.limits.minRemainder ≤ remainder || shrunk < s.limits.minChars
        || s.exceeds (head + 1 + line.length) then
      (candidate :: next :: older, length, carried)
    else
      carry s line (next :: older) shrunk (remainder + (candidate.length + 1))
        (candidate :: carried) head
  | kept, length, _, carried, _ => (kept, length, carried)

/-- A run without the lines that move over to the next one, and these lines in order.  `remainder`
is the joined length of the span from `line` on. -/
def rebalance (s : Sizing) (p : Pending) (line : Text) (remainder : Nat) : Pending × List Text :=
  if p.length < s.limits.minChars then (p, [])
  else
    let (kept, length, carried) := carry s line p.newestFirst p.length remainder [] 0
    (⟨p.start, kept, length⟩, carried)

/-- The record of a move, if any line was moved. -/
def moveRecord (carried : List Text) (index : Nat) : List Piece :=
  if carried.isEmpty then [] else [.moved carried.length index]

/-- The run that begins with carried lines, the first of which has number `start`. -/
def Pending.ofCarried (carried : List Text) (start : Nat) : Pending :=
  carried.foldl (fun p line => p.push start line) .empty

/-- The pieces of the lines from number `index` on, after the lines in the pending run. -/
def scan (s : Sizing) (p : Pending) (index : Nat) : List Text → List Piece
  | [] => p.close true
  | line :: later =>
    if s.exceeds line.length then
      p.close false ++ .longLine index line :: scan s .empty (index + 1) later
    else if !p.newestFirst.isEmpty && s.exceeds (p.lengthWith line) then
      let (kept, carried) := rebalance s p line (joinedLength (line :: later))
      let next := Pending.ofCarried carried (index - carried.length)
      moveRecord carried index ++ kept.close false
        ++ scan s (next.push index line) (index + 1) later
    else scan s (p.push index line) (index + 1) later

/-- The pieces of a span. -/
def pieces (s : Sizing) (lines : List Text) : List Piece :=
  scan s .empty 0 lines

theorem joinedLength_eq_length (lines : List Text) :
    joinedLength lines = (Text.joinLines lines).length := by
  induction lines with
  | nil => rfl
  | cons line later ih =>
    cases later with
    | nil => rfl
    | cons next later =>
      simp only [joinedLength, Text.joinLines, List.length_append, List.length_cons] at ih ⊢
      omega

end SourceBlocks.Packing
