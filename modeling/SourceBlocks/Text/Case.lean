import SourceBlocks.Text.Basic
import SourceBlocks.Text.CaseTable

/-!
# Letter case

Lower and upper case of whole texts.  A letter may grow (`ß` becomes `SS`), and a capital sigma
becomes a final sigma when a letter stands before it and none after it.
-/

namespace SourceBlocks.Text

/-- The image of a code point under the first run that holds it. -/
def shiftBy? (runs : List CaseRun) (n : Nat) : Option Nat :=
  (runs.find? fun run =>
      decide (run.first ≤ n ∧ n ≤ run.last ∧ (n - run.first) % run.step = 0)).map
    fun run => ((n : Int) + run.shift).toNat

/-- A character's image: its expansion if it has one, else its one-to-one mapping, else itself. -/
def mapCase (expansions : List (Nat × List Nat)) (runs : List CaseRun) (c : Char) : Text :=
  match expansions.lookup c.toNat with
  | some image => image.map Char.ofNat
  | none => [((shiftBy? runs c.toNat).map Char.ofNat).getD c]

/-- The lower-case form of a character out of context. -/
def lowerChar (c : Char) : Text :=
  if c.toNat < 128 then [c.toLower] else mapCase lowerExpansions lowerRuns c

/-- The upper-case form of a character. -/
def upperChar (c : Char) : Text :=
  if c.toNat < 128 then [c.toUpper] else mapCase upperExpansions upperRuns c

/-- Letters that have a case. -/
def isCased (c : Char) : Bool :=
  if c.toNat < 128 then c.isAlpha else inRanges casedRanges c

/-- Marks and punctuation that do not separate a letter from its neighbour. -/
def isCaseIgnorable (c : Char) : Bool :=
  inRanges caseIgnorableRanges c

/-- Whether the next character that counts is a letter. -/
def startsWithLetter (t : Text) : Bool :=
  ((t.dropWhile isCaseIgnorable).head?.map isCased).getD false

/-- Lower case of a text, given whether a letter precedes it. -/
def lowerFrom (afterLetter : Bool) : Text → Text
  | [] => []
  | c :: rest =>
    let image :=
      if c = 'Σ' then (if afterLetter && !startsWithLetter rest then ['ς'] else ['σ'])
      else lowerChar c
    image ++ lowerFrom (if isCaseIgnorable c then afterLetter else isCased c) rest

/-- Lower case. -/
def lower (t : Text) : Text :=
  lowerFrom false t

/-- Upper case. -/
def upper (t : Text) : Text :=
  t.flatMap upperChar

end SourceBlocks.Text
