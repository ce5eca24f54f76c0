import SourceBlocks.Block

/-!
# Embedding records

The text by which a block is indexed: its name, its signature, its documentation and the beginning
of its code, each on its own line.  A part that is absent leaves its line empty.
-/

namespace SourceBlocks

/-- The text to embed for a block, and the block. -/
structure EmbeddingRecord where
  text : Text
  block : Block

namespace EmbeddingRecord

/-- How much of the code is embedded by default. -/
def defaultCodeChars : Int := 500

/-- The text to embed for a block, with `codeChars` characters of its code. -/
def summary (b : Block) (codeChars : Int) : Text :=
  Text.joinLines
    [b.name.getD [], b.signature.getD [], b.doc.getD [], Text.truncate b.code codeChars]

/-- The record of a block. -/
def ofBlock (codeChars : Int) (b : Block) : EmbeddingRecord :=
  ⟨summary b codeChars, b⟩

end EmbeddingRecord

end SourceBlocks
