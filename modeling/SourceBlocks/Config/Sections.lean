import SourceBlocks.Config.Settings
import SourceBlocks.FileSystem.Resolution

/-!
# Configuration files

A configuration file groups settings in sections.  Reading it renames each key to its setting and
converts its value more liberally than a field does: digits of every script spell numbers, a double
loses its fractional part, and every value has a text.  The first value that cannot be converted
ends the reading.
-/

namespace SourceBlocks.Config

/-- Why a configuration table cannot be read. -/
inductive SectionFault where
  /-- A section is a value in which no key can be looked for. -/
  | notSearchable (typeName : Text)
  /-- A section is a text in which a key occurs. -/
  | indexedText
  /-- A section is a list in which a key occurs. -/
  | indexedList
  | notInteger (given : Text)
  | oversizedInteger (digits : Nat)
  /-- A whole number has too many digits to be written out. -/
  | unwritableInteger
  | notReal (given : Text)
  | nanAsInteger
  | infinityAsInteger
  | integerPastReals
  | wrongIntegerType (typeName : Text)
  | wrongRealType (typeName : Text)
  deriving DecidableEq, Repr

/-- The sentence that reports why a table cannot be read.  A quoted numeral is cut off after two
hundred characters. -/
def SectionFault.message : SectionFault → Text
  | notSearchable typeName =>
    "argument of type ".toList ++ '\'' :: typeName ++ "' is not iterable".toList
  | indexedText => "string indices must be integers, not 'str'".toList
  | indexedList => "list indices must be integers or slices, not str".toList
  | notInteger given =>
    "invalid literal for int() with base 10: ".toList ++ (Text.quoted given).take 200
  | oversizedInteger digits =>
    "Exceeds the limit (".toList ++ Text.ofNat Numeral.lengthLimit
      ++ " digits) for integer string conversion: value has ".toList ++ Text.ofNat digits
      ++ " digits; use sys.set_int_max_str_digits() to increase the limit".toList
  | unwritableInteger =>
    "Exceeds the limit (".toList ++ Text.ofNat Numeral.lengthLimit
      ++ " digits) for integer string conversion; use sys.set_int_max_str_digits() to increase the limit".toList
  | notReal given => "could not convert string to float: ".toList ++ Text.quoted given
  | nanAsInteger => "cannot convert float NaN to integer".toList
  | infinityAsInteger => "cannot convert float infinity to integer".toList
  | integerPastReals => "int too large to convert to float".toList
  | wrongIntegerType typeName =>
    "int() argument must be a string, a bytes-like object or a real number, not '".toList
      ++ typeName ++ ['\'']
  | wrongRealType typeName =>
    "float() argument must be a string or a real number, not '".toList ++ typeName ++ ['\'']

namespace Value

/-- A value as a whole number, read liberally. -/
def asInteger : Value → Except SectionFault Int
  | flag b => .ok (if b then 1 else 0)
  | integer n => .ok n
  | real x =>
    match x with
    | .nan => .error .nanAsInteger
    | _ =>
      match x.wholePart? with
      | some n => .ok n
      | none => .error .infinityAsInteger
  | text t =>
    match Numeral.liberalWhole t with
    | .number n => .ok n
    | .tooLong digits => .error (.oversizedInteger digits)
    | .malformed => .error (.notInteger t)
  | value => .error (.wrongIntegerType value.typeName)

/-- A value as a real number, read liberally. -/
def asReal : Value → Except SectionFault Binary64
  | flag b => .ok (if b then .one else .zero)
  | integer n =>
    match Binary64.ofInt? n with
    | some x => .ok x
    | none => .error .integerPastReals
  | real x => .ok x
  | text t =>
    match Numeral.liberalReal? t with
    | some x => .ok x
    | none => .error (.notReal t)
  | value => .error (.wrongRealType value.typeName)

mutual

/-- Whether a value is or holds a whole number with too many digits to be written out. -/
def holdsUnwritable : Value → Bool
  | integer n => decide (Nat.pow 10 Numeral.lengthLimit ≤ n.natAbs)
  | list items => anyUnwritable items
  | table entries => anyUnwritableEntry entries
  | _ => false

/-- Whether one of several values holds such a number. -/
def anyUnwritable : List Value → Bool
  | [] => false
  | item :: items => holdsUnwritable item || anyUnwritable items

/-- Whether a value in a table holds such a number. -/
def anyUnwritableEntry : List (Text × Value) → Bool
  | [] => false
  | (_, value) :: entries => holdsUnwritable value || anyUnwritableEntry entries

end

/-- A value as a text, if the numbers in it can be written out. -/
def asText (value : Value) : Except SectionFault Text :=
  if value.holdsUnwritable then .error .unwritableInteger else .ok value.shown

/-- Whether a value is a certain text. -/
def isText (t : Text) : Value → Bool
  | text other => other = t
  | _ => false

end Value

/-- Whether a text occurs in another one. -/
def occursIn (word : Text) : Text → Bool
  | [] => word.isEmpty
  | c :: rest => word.isPrefixOf (c :: rest) || occursIn word rest

/-- The value of a key in a section, if the section has the key. -/
def sectionValue? (key : Text) : Value → Except SectionFault (Option Value)
  | .table entries => .ok (entries.lookup key)
  | .text t => if occursIn key t then .error .indexedText else .ok none
  | .list items => if items.any (Value.isText key) then .error .indexedList else .ok none
  | value => .error (.notSearchable value.typeName)

/-- What a key of a configuration file sets, and how its value is converted. -/
structure Key where
  sectionName : String
  name : String
  setting : String
  convert : Value → Except SectionFault Value

/-- Conversion to a whole number. -/
def integerValue (value : Value) : Except SectionFault Value := value.asInteger.map .integer

/-- Conversion to a real number. -/
def realValue (value : Value) : Except SectionFault Value := value.asReal.map .real

/-- Conversion to a text. -/
def textValue (value : Value) : Except SectionFault Value := value.asText.map .text

/-- Conversion to a text in upper case. -/
def upperTextValue (value : Value) : Except SectionFault Value :=
  value.asText.map fun t => .text (Text.upper t)

/-- The keys of a configuration file, in the order in which they are read. -/
def keys : List Key :=
  [⟨"chunking", "max_block_chars", "max_block_chars", integerValue⟩,
   ⟨"chunking", "min_block_chars", "min_block_chars", integerValue⟩,
   ⟨"chunking", "min_chunk_remainder_chars", "min_chunk_remainder_chars", integerValue⟩,
   ⟨"chunking", "tolerance_factor", "max_chars_tolerance_factor", realValue⟩,
   ⟨"modules", "root_prefix", "module_root_prefix", .ok⟩,
   ⟨"extraction", "concurrency", "extraction_concurrency", integerValue⟩,
   ⟨"extraction", "embedding_code_prefix_chars", "embedding_code_prefix_chars", integerValue⟩,
   ⟨"logging", "level", "log_level", upperTextValue⟩,
   ⟨"logging", "file", "log_file", textValue⟩]

/-- The setting that a key makes in a configuration table, if the table has the key. -/
def Key.read (k : Key) (table : List (Text × Value)) :
    Except SectionFault (List (Text × Value)) := do
  let content := (table.lookup k.sectionName.toList).getD (.table [])
  match ← sectionValue? k.name.toList content with
  | none => return []
  | some value => return [(k.setting.toList, ← k.convert value)]

/-- The settings that the given keys make in a configuration table. -/
def readKeys (table : List (Text × Value)) : List Key → Except SectionFault (List (Text × Value))
  | [] => .ok []
  | k :: later => do
    let first ← k.read table
    let rest ← readKeys table later
    return first ++ rest

/-- The settings that a configuration table makes. -/
def flatten (table : List (Text × Value)) : Except SectionFault (List (Text × Value)) :=
  readKeys table keys

/-- The names that the loading of settings depends on: how the variables of settings begin, the
variable that names a configuration file, and the file that is used otherwise. -/
structure Names where
  variableStart : Text
  pathVariable : Text
  defaultFile : Text

/-- Why settings cannot be loaded. -/
inductive LoadFault where
  | nameTooLong (path : Text)
  | table (fault : SectionFault)
  | fields (reports : List Invalid)
  deriving DecidableEq, Repr

/-- The address of the first regular file among some paths.  A path that leads nowhere is passed
over, but one that is too long is a fault. -/
def firstFile? (fs : FileSystem) : List Text → Except LoadFault (Option (List Text))
  | [] => .ok none
  | path :: later =>
    match fs.resolve path with
    | .ok (.file address _) => .ok (some address)
    | .error .nameTooLong => .error (.nameTooLong path)
    | _ => firstFile? fs later

/-- The address of the configuration file: the one that the environment names if it is a regular
file, else the usual one if there is one. -/
def configFile? (names : Names) (environment : List (Text × Text)) (fs : FileSystem) :
    Except LoadFault (Option (List Text)) :=
  let named := ((environment.lookup names.pathVariable).filter fun path => !path.isEmpty).toList
  firstFile? fs (named.map Path.normalize ++ [names.defaultFile])

/-- The settings that the configuration file and the environment make up.  `tableOf` is the table
that the file at an address holds. -/
def loadSettings (names : Names) (environment : List (Text × Text)) (fs : FileSystem)
    (tableOf : List Text → List (Text × Value)) : Except LoadFault Settings := do
  let table := ((← configFile? names environment fs).map tableOf).getD []
  let given ← (flatten table).mapError .table
  (Settings.ofSources ⟨given, environment, names.variableStart⟩).mapError .fields

end SourceBlocks.Config
