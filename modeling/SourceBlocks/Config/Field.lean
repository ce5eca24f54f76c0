import SourceBlocks.Config.Value
import SourceBlocks.Number.Numeral

/-!
# Typed fields

The conversion of a configuration value to the type of a field, and the faults it may find.
Whole numbers may be given as booleans, as doubles without a fractional part that are not too
large, or as numerals in a text; real numbers likewise; texts only as texts.
-/

namespace SourceBlocks.Config

/-- Why a field is refused. -/
inductive Fault where
  | missing
  | wrongIntegerType
  | unreadableInteger
  | oversizedInteger
  | fractionalInteger
  | notFinite
  | notPositive
  | wrongRealType
  | unreadableReal
  | wrongTextType
  | toleranceBelowOne
  | minimumAboveMaximum
  deriving DecidableEq, Repr

namespace Fault

/-- The identifier of a fault. -/
def code : Fault → String
  | missing => "missing"
  | wrongIntegerType => "int_type"
  | unreadableInteger => "int_parsing"
  | oversizedInteger => "int_parsing_size"
  | fractionalInteger => "int_from_float"
  | notFinite => "finite_number"
  | notPositive => "greater_than"
  | wrongRealType => "float_type"
  | unreadableReal => "float_parsing"
  | wrongTextType => "string_type"
  | toleranceBelowOne => "value_error"
  | minimumAboveMaximum => "value_error"

/-- The sentence that reports a fault. -/
def message : Fault → String
  | missing => "Field required"
  | wrongIntegerType => "Input should be a valid integer"
  | unreadableInteger =>
    "Input should be a valid integer, unable to parse string as an integer"
  | oversizedInteger =>
    "Unable to parse input string as an integer, exceeded maximum size"
  | fractionalInteger =>
    "Input should be a valid integer, got a number with a fractional part"
  | notFinite => "Input should be a finite number"
  | notPositive => "Input should be greater than 0"
  | wrongRealType => "Input should be a valid number"
  | unreadableReal => "Input should be a valid number, unable to parse string as a number"
  | wrongTextType => "Input should be a valid string"
  | toleranceBelowOne => "Value error, max_chars_tolerance_factor must be >= 1.0"
  | minimumAboveMaximum => "Value error, min_block_chars cannot exceed max_block_chars"

end Fault

/-- A fault and the field it was found in, or no field if it lies between fields. -/
structure Invalid where
  field : Option String
  fault : Fault
  deriving DecidableEq, Repr

namespace Value

/-- Whether a double without a fractional part is small enough to serve as a whole number: it
lies strictly between the least signed 64-bit number and the number past the greatest. -/
def isWithinWord (n : Int) : Bool :=
  decide (-(Nat.pow 2 63) < n ∧ n < Nat.pow 2 63)

/-- A value as a whole number. -/
def toInteger : Value → Except Fault Int
  | flag b => .ok (if b then 1 else 0)
  | integer n => .ok n
  | real x =>
    match x.wholePart? with
    | none => .error .notFinite
    | some n =>
      if !x.isWhole then .error .fractionalInteger
      else if isWithinWord n then .ok n
      else .error .oversizedInteger
  | text t =>
    match Numeral.fieldWhole t with
    | .number n => .ok n
    | .tooLong _ => .error .oversizedInteger
    | .malformed => .error .unreadableInteger
  | _ => .error .wrongIntegerType

/-- A value as a positive whole number. -/
def toPositive (value : Value) : Except Fault { n : Nat // 0 < n } :=
  match value.toInteger with
  | .error fault => .error fault
  | .ok n => if h : 0 < n then .ok ⟨n.toNat, by omega⟩ else .error .notPositive

/-- A value as a real number. -/
def toReal : Value → Except Fault Binary64
  | flag b => .ok (if b then .one else .zero)
  | integer n =>
    match Binary64.ofInt? n with
    | some x => .ok x
    | none => .error .wrongRealType
  | real x => .ok x
  | text t =>
    match Numeral.fieldReal? t with
    | some x => .ok x
    | none => .error .unreadableReal
  | _ => .error .wrongRealType

/-- A value as a text. -/
def toText : Value → Except Fault Text
  | text t => .ok t
  | _ => .error .wrongTextType

/-- A value as a text that may be absent. -/
def toOptionalText : Value → Except Fault (Option Text)
  | null => .ok none
  | value => value.toText.map some

end Value

/-- The field of a record of values, converted; a field that is not there is a fault too. -/
def required {α : Type} (fields : List (Text × Value)) (field : String)
    (convert : Value → Except Fault α) : Except Invalid α :=
  match fields.lookup field.toList with
  | none => .error ⟨some field, .missing⟩
  | some value =>
    match convert value with
    | .ok a => .ok a
    | .error fault => .error ⟨some field, fault⟩

/-- The report of a field that was refused. -/
def invalids {α : Type} : Except Invalid α → List Invalid
  | .ok _ => []
  | .error report => [report]

end SourceBlocks.Config
