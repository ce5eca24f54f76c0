import SourceBlocks.Number.Shortest
import SourceBlocks.Text.Quoted

/-!
# Configuration values

The values that a configuration table or a caller may hold for a setting, before they are
converted to the setting's type, and their text.
-/

namespace SourceBlocks.Config

/-- A configuration value. -/
inductive Value where
  | null
  | flag (b : Bool)
  | integer (n : Int)
  | real (x : Binary64)
  | text (t : Text)
  /-- A date, a time of day or both, given by the name of its type, its text, and its text inside
  a list or table. -/
  | moment (type shown inner : Text)
  | list (items : List Value)
  | table (entries : List (Text × Value))

namespace Value

/-- The name that error messages give to a value's type. -/
def typeName : Value → Text
  | null => "NoneType".toList
  | flag _ => "bool".toList
  | integer _ => "int".toList
  | real _ => "float".toList
  | text _ => "str".toList
  | moment type _ _ => type
  | list _ => "list".toList
  | table _ => "dict".toList

/-- Texts with a comma and a space between them. -/
def commaSeparated : List Text → Text
  | [] => []
  | [item] => item
  | item :: next :: later => item ++ ',' :: ' ' :: commaSeparated (next :: later)

mutual

/-- The text of a value inside a list or table, where texts are quoted. -/
def inner : Value → Text
  | null => "None".toList
  | flag b => if b then "True".toList else "False".toList
  | integer n => Text.ofInt n
  | real x => x.text
  | text t => Text.quoted t
  | moment _ _ inner => inner
  | list items => '[' :: (commaSeparated (innerItems items) ++ [']'])
  | table entries => '\x7b' :: (commaSeparated (innerEntries entries) ++ ['\x7d'])

/-- The texts of a list's items. -/
def innerItems : List Value → List Text
  | [] => []
  | item :: items => inner item :: innerItems items

/-- The texts of a table's entries. -/
def innerEntries : List (Text × Value) → List Text
  | [] => []
  | (key, value) :: entries =>
    (Text.quoted key ++ ':' :: ' ' :: inner value) :: innerEntries entries

end

/-- The text of a value.  A text stands for itself. -/
def shown : Value → Text
  | text t => t
  | moment _ shown _ => shown
  | value => inner value

end Value

end SourceBlocks.Config
