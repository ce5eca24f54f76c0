import SourceBlocks.Text.Basic

/-!
# Events

What the program reports while it works.  Each event has a level, a name and named details.
-/

namespace SourceBlocks

/-- How serious an event is. -/
inductive Severity where
  | debug
  | info
  | warning
  | error
  deriving DecidableEq, Repr

/-- The name of a severity. -/
def Severity.name : Severity → String
  | debug => "debug"
  | info => "info"
  | warning => "warning"
  | error => "error"

/-- Something that happened during discovery, loading, extraction or packing. -/
inductive Event where
  | unsupportedLanguage (file extension : Text)
  | grammarUnavailable (file : Text)
  | parseFailed (file error : Text)
  | blockExtractionFailed (file error : Text)
  | blocksExtracted (file : Text) (captures blocks : Nat)
  | fallbackChunking (file : Text) (chars : Nat)
  | chunkRebalanced (file : Text) (movedLines : Nat) (line : Int)
  | chunkBelowMinimumSkipped (file : Text) (startLine endLine : Int)
  | spanChunked (file baseType : Text) (lines blocks : Nat)
  | fileReadFailed (file error : Text)
  | fileExtractionFailed (file error : Text)
  | directoryExtracted (root : Text) (files blocks : Nat)
  | fileStatFailed (file error : Text)
  | sourceFilesDiscovered (root : Text) (files : Nat)
  | grammarLoadFailed (extension error : Text)
  | grammarLoaded (grammar : Text) (extensions : List Text)
  deriving DecidableEq, Repr

/-- A detail of an event. -/
inductive Event.Detail where
  | text (t : Text)
  | number (n : Int)
  | texts (ts : List Text)

namespace Event

/-- The severity of an event. -/
def severity : Event → Severity
  | unsupportedLanguage .. => .debug
  | grammarUnavailable .. => .warning
  | parseFailed .. => .warning
  | blockExtractionFailed .. => .error
  | blocksExtracted .. => .info
  | fallbackChunking .. => .debug
  | chunkRebalanced .. => .debug
  | chunkBelowMinimumSkipped .. => .debug
  | spanChunked .. => .debug
  | fileReadFailed .. => .warning
  | fileExtractionFailed .. => .error
  | directoryExtracted .. => .info
  | fileStatFailed .. => .warning
  | sourceFilesDiscovered .. => .info
  | grammarLoadFailed .. => .warning
  | grammarLoaded .. => .info

/-- The name of an event. -/
def name : Event → String
  | unsupportedLanguage .. => "unsupported_language"
  | grammarUnavailable .. => "grammar_unavailable"
  | parseFailed .. => "parse_failed"
  | blockExtractionFailed .. => "block_extraction_failed"
  | blocksExtracted .. => "blocks_extracted"
  | fallbackChunking .. => "fallback_chunking"
  | chunkRebalanced .. => "chunk_rebalanced"
  | chunkBelowMinimumSkipped .. => "chunk_below_minimum_skipped"
  | spanChunked .. => "span_chunked"
  | fileReadFailed .. => "file_read_failed"
  | fileExtractionFailed .. => "file_extraction_failed"
  | directoryExtracted .. => "directory_extracted"
  | fileStatFailed .. => "file_stat_failed"
  | sourceFilesDiscovered .. => "source_files_discovered"
  | grammarLoadFailed .. => "grammar_load_failed"
  | grammarLoaded .. => "grammar_loaded"

/-- The named details of an event. -/
def details : Event → List (String × Detail)
  | unsupportedLanguage file extension => [("file", .text file), ("extension", .text extension)]
  | grammarUnavailable file => [("file", .text file)]
  | parseFailed file error => [("file", .text file), ("error", .text error)]
  | blockExtractionFailed file error => [("file", .text file), ("error", .text error)]
  | blocksExtracted file captures blocks =>
    [("file", .text file), ("captures", .number captures), ("blocks", .number blocks)]
  | fallbackChunking file chars => [("file", .text file), ("chars", .number chars)]
  | chunkRebalanced file movedLines line =>
    [("file", .text file), ("moved_lines", .number movedLines), ("line", .number line)]
  | chunkBelowMinimumSkipped file startLine endLine =>
    [("file", .text file), ("start_line", .number startLine), ("end_line", .number endLine)]
  | spanChunked file baseType lines blocks =>
    [("file", .text file), ("base_type", .text baseType), ("lines", .number lines),
      ("blocks", .number blocks)]
  | fileReadFailed file error => [("file", .text file), ("error", .text error)]
  | fileExtractionFailed file error => [("file", .text file), ("error", .text error)]
  | directoryExtracted root files blocks =>
    [("root", .text root), ("files", .number files), ("blocks", .number blocks)]
  | fileStatFailed file error => [("file", .text file), ("error", .text error)]
  | sourceFilesDiscovered root files => [("root", .text root), ("files", .number files)]
  | grammarLoadFailed extension error =>
    [("extension", .text extension), ("error", .text error)]
  | grammarLoaded grammar extensions =>
    [("grammar", .text grammar), ("extensions", .texts extensions)]

end Event

end SourceBlocks
