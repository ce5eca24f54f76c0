import SourceBlocks.Batch
import SourceBlocks.Block
import SourceBlocks.Capture
import SourceBlocks.Category
import SourceBlocks.Chunking
import SourceBlocks.Config.Field
import SourceBlocks.Config.Sections
import SourceBlocks.Config.Settings
import SourceBlocks.Config.Value
import SourceBlocks.Description
import SourceBlocks.Discovery
import SourceBlocks.Embedding
import SourceBlocks.Event
import SourceBlocks.Extension
import SourceBlocks.Extraction
import SourceBlocks.Extractor
import SourceBlocks.FileSystem.Basic
import SourceBlocks.FileSystem.Change
import SourceBlocks.FileSystem.Resolution
import SourceBlocks.Grammar.Basic
import SourceBlocks.Grammar.Query
import SourceBlocks.Grammar.Registry
import SourceBlocks.Limits
import SourceBlocks.LogOutput
import SourceBlocks.Number.Binary64
import SourceBlocks.Number.Numeral
import SourceBlocks.Number.Shortest
import SourceBlocks.Packing
import SourceBlocks.ParseTree.Basic
import SourceBlocks.ParseTree.Cursor
import SourceBlocks.Path
import SourceBlocks.Sha256
import SourceBlocks.Text.Basic
import SourceBlocks.Text.Case
import SourceBlocks.Text.CaseTable
import SourceBlocks.Text.Digit
import SourceBlocks.Text.Printable
import SourceBlocks.Text.Quoted
import SourceBlocks.Text.Utf8
import SourceBlocks.Wildcard
import SourceBlocks.Proofs.Lines
import SourceBlocks.Proofs.TextOrder
import SourceBlocks.Proofs.Path
import SourceBlocks.Proofs.Binary64
import SourceBlocks.Proofs.Limits
import SourceBlocks.Proofs.Capture
import SourceBlocks.Proofs.Trimming
import SourceBlocks.Proofs.Packing.Plan
import SourceBlocks.Proofs.Packing.Scan
import SourceBlocks.Proofs.Packing.Tiling
import SourceBlocks.Proofs.Fingerprint
import SourceBlocks.Proofs.Chunking.Admission
import SourceBlocks.Proofs.Chunking.Placement
import SourceBlocks.Proofs.Chunking.Coverage
import SourceBlocks.Proofs.Chunking.Reconstruction
import SourceBlocks.Proofs.Chunking.Sizes
import SourceBlocks.Proofs.Chunking.Filtering
import SourceBlocks.Proofs.Chunking.Loop
import SourceBlocks.Proofs.Extraction.Grounding
import SourceBlocks.Proofs.Grammar.Interleaving
import SourceBlocks.Proofs.Grammar.SingleFlight
import SourceBlocks.Proofs.Extraction.History
import SourceBlocks.Proofs.Extraction.Recall
import SourceBlocks.Proofs.Extraction.Recording
import SourceBlocks.Proofs.FileSystem.Tree
import SourceBlocks.Proofs.Discovery.Walk
import SourceBlocks.Proofs.Discovery.Exactness
import SourceBlocks.Proofs.Grammar.Obtaining
import SourceBlocks.Proofs.Extractor.Conclusion
import SourceBlocks.Proofs.Batch.Pointwise
import SourceBlocks.Proofs.Batch.Schedule
import SourceBlocks.Proofs.Batch.Outcome
import SourceBlocks.Proofs.Extractor.Containment
import SourceBlocks.Proofs.Packing.Greedy
import SourceBlocks.Proofs.Chunking.Tail
import SourceBlocks.Proofs.Chunking.Unsplit
import SourceBlocks.Proofs.Extraction.Survival
import SourceBlocks.Proofs.Description.Signature
import SourceBlocks.Proofs.ParseTree.Order
import SourceBlocks.Proofs.Description.Documentation
import SourceBlocks.Proofs.ParseTree.Traversal
import SourceBlocks.Proofs.Identification
import SourceBlocks.Proofs.Extraction.Membership
import SourceBlocks.Proofs.Config.Sections
import SourceBlocks.Proofs.Config.Loading
import SourceBlocks.Proofs.Extension
import SourceBlocks.Proofs.Extraction.Rows
