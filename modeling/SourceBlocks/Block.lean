import SourceBlocks.Text.Basic
import SourceBlocks.Sha256

/-!
# Blocks and their fingerprints

A block is a named stretch of a source file.  Its fingerprint identifies where it stands and how
its code begins; the blocks that an extraction has emitted are remembered by their fingerprints.
-/

namespace SourceBlocks

/-- A stretch of a source file, with what is known about it. -/
structure Block where
  category : Text
  name : Option Text
  file : Text
  startLine : Int
  endLine : Int
  code : Text
  modulePath : Text
  signature : Option Text
  doc : Option Text
  deriving DecidableEq, Repr

namespace Fingerprint

/-- How much of the code a fingerprint covers. -/
def coveredChars : Nat := 50

/-- The text that a fingerprint digests: the file, the first and last line, and the beginning of
the code. -/
def identifier (file : Text) (startLine endLine : Int) (code : Text) : Text :=
  file ++ '-' :: (Text.ofInt startLine ++ '-' :: (Text.ofInt endLine ++ '-' ::
    code.take coveredChars))

/-- The fingerprint of a stretch of a file. -/
def compute (file : Text) (startLine endLine : Int) (code : Text) : Text :=
  Sha256.hex (Utf8.encode (identifier file startLine endLine code))

end Fingerprint

/-- The fingerprint of a block. -/
def Block.fingerprint (b : Block) : Text :=
  Fingerprint.compute b.file b.startLine b.endLine b.code

/-- The fingerprints that have been admitted. -/
structure Admitted where
  keys : List Text
  deriving DecidableEq, Repr

namespace Admitted

/-- No fingerprint yet. -/
def empty : Admitted := ⟨[]⟩

/-- How many fingerprints have been admitted. -/
def size (a : Admitted) : Nat := a.keys.length

/-- Whether a fingerprint has been admitted. -/
def hasKey (a : Admitted) (key : Text) : Bool := a.keys.contains key

/-- The fingerprints with one more, and whether it is a new one. -/
def admitKey (a : Admitted) (key : Text) : Bool × Admitted :=
  if a.hasKey key then (false, a) else (true, ⟨key :: a.keys⟩)

/-- Admits a block by its fingerprint. -/
def accept (a : Admitted) (b : Block) : Bool × Admitted :=
  a.admitKey b.fingerprint

/-- Whether a block with this fingerprint has been admitted. -/
def contains (a : Admitted) (b : Block) : Bool :=
  a.hasKey b.fingerprint

theorem hasKey_iff {a : Admitted} {key : Text} : a.hasKey key = true ↔ key ∈ a.keys := by
  simp [hasKey]

theorem admitKey_fst {a : Admitted} {key : Text} :
    (a.admitKey key).1 = true ↔ key ∉ a.keys := by
  unfold admitKey
  split
  · next h => simpa using hasKey_iff.mp h
  · next h => simpa [hasKey_iff] using h

end Admitted

end SourceBlocks
