import SourceBlocks.Limits
import SourceBlocks.Text.Case

/-!
# Settings

The settings of the program.  Each one is taken from the caller if the caller gives it, else from
the environment if its variable is set, else from the defaults.  Values that belong to no setting
are kept beside them.
-/

namespace SourceBlocks

/-- The settings of the program. -/
structure Settings where
  maxBlockChars : Int
  minBlockChars : Int
  minChunkRemainderChars : Int
  toleranceFactor : Binary64
  moduleRootPrefix : Text
  extractionConcurrency : Int
  embeddingCodeChars : Int
  logLevel : Text
  logFile : Option Text
  /-- Values given under other names. -/
  others : List (Text × Config.Value)

namespace Settings

open Config (Value Invalid)

/-- The names of the settings, in the order in which faults are reported. -/
def names : List String :=
  ["max_block_chars", "min_block_chars", "min_chunk_remainder_chars",
   "max_chars_tolerance_factor", "module_root_prefix", "extraction_concurrency",
   "embedding_code_prefix_chars", "log_level", "log_file"]

/-- The settings that apply when nothing else is said. -/
def defaults : Settings :=
  { maxBlockChars := 1000
    minBlockChars := 50
    minChunkRemainderChars := 200
    toleranceFactor := Binary64.ofDecimal false 115 (-2)
    moduleRootPrefix := "src/".toList
    extractionConcurrency := 8
    embeddingCodeChars := 500
    logLevel := "INFO".toList
    logFile := none
    others := [] }

/-- Where settings come from: what the caller gives under the settings' names, and the environment
variables, whose names are the settings' names after a common beginning.  Case does not matter. -/
structure Sources where
  given : List (Text × Value)
  environment : List (Text × Text)
  variableStart : Text

/-- The value of the environment variable of a setting.  Of variables that differ in case only the
last one counts. -/
def Sources.fromEnvironment? (s : Sources) (name : String) : Option Text :=
  let wanted := Text.lower (s.variableStart ++ name.toList)
  (s.environment.reverse.find? fun (name, _) => Text.lower name = wanted).map Prod.snd

/-- The value that the caller gives for a setting.  Of names that differ in case only the first
one counts. -/
def Sources.fromCaller? (s : Sources) (name : String) : Option Value :=
  (s.given.find? fun (key, _) => Text.lower key = name.toList).map Prod.snd

/-- The value that the sources hold for a setting. -/
def Sources.value? (s : Sources) (name : String) : Option Value :=
  match s.fromCaller? name with
  | some value => some value
  | none => (s.fromEnvironment? name).map Value.text

/-- A setting from its source, or its default. -/
def Sources.read {α : Type} (s : Sources) (name : String) (convert : Value → Except Config.Fault α)
    (default : α) : Except Invalid α :=
  match s.value? name with
  | none => .ok default
  | some value =>
    match convert value with
    | .ok a => .ok a
    | .error fault => .error ⟨some name, fault⟩

/-- The settings that the sources make up, or a report of every refused value. -/
def ofSources (s : Sources) : Except (List Invalid) Settings :=
  let maxBlockChars := s.read "max_block_chars" Value.toInteger defaults.maxBlockChars
  let minBlockChars := s.read "min_block_chars" Value.toInteger defaults.minBlockChars
  let remainder :=
    s.read "min_chunk_remainder_chars" Value.toInteger defaults.minChunkRemainderChars
  let tolerance := s.read "max_chars_tolerance_factor" Value.toReal defaults.toleranceFactor
  let rootPrefix := s.read "module_root_prefix" Value.toText defaults.moduleRootPrefix
  let concurrency :=
    s.read "extraction_concurrency" Value.toInteger defaults.extractionConcurrency
  let embedding :=
    s.read "embedding_code_prefix_chars" Value.toInteger defaults.embeddingCodeChars
  let logLevel := s.read "log_level" Value.toText defaults.logLevel
  let logFile := s.read "log_file" Value.toOptionalText defaults.logFile
  match maxBlockChars, minBlockChars, remainder, tolerance, rootPrefix, concurrency, embedding,
      logLevel, logFile with
  | .ok maxBlockChars, .ok minBlockChars, .ok remainder, .ok tolerance, .ok rootPrefix,
      .ok concurrency, .ok embedding, .ok logLevel, .ok logFile =>
    .ok
      { maxBlockChars := maxBlockChars
        minBlockChars := minBlockChars
        minChunkRemainderChars := remainder
        toleranceFactor := tolerance
        moduleRootPrefix := rootPrefix
        extractionConcurrency := concurrency
        embeddingCodeChars := embedding
        logLevel := logLevel
        logFile := logFile
        others :=
          s.given.filter fun (name, _) => !names.contains (String.ofList (Text.lower name)) }
  | _, _, _, _, _, _, _, _, _ =>
    .error
      (Config.invalids maxBlockChars ++ Config.invalids minBlockChars
        ++ Config.invalids remainder ++ Config.invalids tolerance ++ Config.invalids rootPrefix
        ++ Config.invalids concurrency ++ Config.invalids embedding ++ Config.invalids logLevel
        ++ Config.invalids logFile)

/-- The size limits among the settings, if they are consistent. -/
def limits (s : Settings) : Except (List Invalid) Limits :=
  Limits.ofFields
    [("max_block_chars".toList, .integer s.maxBlockChars),
     ("min_block_chars".toList, .integer s.minBlockChars),
     ("min_chunk_remainder_chars".toList, .integer s.minChunkRemainderChars),
     ("max_chars_tolerance_factor".toList, .real s.toleranceFactor)]

end Settings

end SourceBlocks
