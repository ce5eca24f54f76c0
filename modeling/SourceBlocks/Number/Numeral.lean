import SourceBlocks.Number.Binary64
import SourceBlocks.Text.Digit

/-!
# Numerals

Reading whole numbers and decimal fractions from text.  The strict forms have no underscores, and
strict whole numbers no leading zeros.  Around them there are two lenient readings.  The reading of
a field tidies a text up before it reads it strictly.  The reading of a configuration file takes
digits of every script, grouped by single underscores that stand between two digits.
-/

namespace SourceBlocks.Numeral

/-- What a text is as a whole number.  A numeral that is too long is not read. -/
inductive Whole where
  | number (n : Int)
  | tooLong (digits : Nat)
  | malformed
  deriving DecidableEq, Repr

/-- The longest numeral that is read. -/
def lengthLimit : Nat := 4300

/-- Whether a character is an ASCII digit. -/
def isDigit (c : Char) : Bool :=
  (Text.asciiDigitValue? c).isSome

/-- The number that a list of decimal digits spells. -/
def ofDigits (digits : List Nat) : Nat :=
  digits.foldl (fun n d => 10 * n + d) 0

/-- A natural number with a sign. -/
def signed (negative : Bool) (n : Nat) : Int :=
  if negative then -(n : Int) else n

/-- The values of the leading digits, and the text after them. -/
def leadingDigits (t : Text) : List Nat × Text :=
  ((t.takeWhile isDigit).filterMap Text.asciiDigitValue?, t.dropWhile isDigit)

/-- A minus sign, if there is one, and the text after it. -/
def splitMinus : Text → Bool × Text
  | '-' :: rest => (true, rest)
  | t => (false, t)

/-- A sign, if there is one, and the text after it. -/
def splitSign : Text → Bool × Text
  | '-' :: rest => (true, rest)
  | '+' :: rest => (false, rest)
  | t => (false, t)

/-- A strict whole number: perhaps a minus sign, and digits of which the first is zero only if it
is the only one.  The limit counts the sign, and what follows the digits is looked at only after
it. -/
def strictWhole (t : Text) : Whole :=
  let (negative, body) := splitMinus t
  match leadingDigits body with
  | ([], _) => .malformed
  | (0 :: _, _) => if body.length = 1 then .number 0 else .malformed
  | (digits, rest) =>
    if lengthLimit < digits.length + negative.toNat then .tooLong digits.length
    else if rest.isEmpty then .number (signed negative (ofDigits digits))
    else .malformed

/-! ## The reading of a field -/

/-- The text from its first digit other than zero on, where zeros and underscores have been passed
over.  A minus sign among them also ends the search.  A point, and the end, keep the character
before them. -/
def afterZeros? (last : Char) : Text → Option Text
  | [] => some [last]
  | c :: rest =>
    if c = '0' || c = '_' then afterZeros? c rest
    else if c = '.' then some (last :: c :: rest)
    else if isDigit c || c = '-' then some (c :: rest)
    else none

/-- Removes leading zeros.  The text has to start with a digit. -/
def dropLeadingZeros? : Text → Option Text
  | [] => none
  | c :: rest =>
    if c = '0' then afterZeros? c rest else if isDigit c then some (c :: rest) else none

/-- Removes a point that nothing but zeros follows, at least one. -/
def dropZeroFraction (t : Text) : Text :=
  match Text.before? '.' t with
  | none => t
  | some integral =>
    let zeros := t.drop (integral.length + 1)
    if !zeros.isEmpty && zeros.all (· = '0') then integral else t

/-- Whether two underscores stand side by side. -/
def hasDoubleUnderscore : Text → Bool
  | '_' :: '_' :: _ => true
  | _ :: rest => hasDoubleUnderscore rest
  | [] => false

/-- Removes underscores that stand apart, and neither first nor last.  There has to be one. -/
def withoutUnderscores? (t : Text) : Option Text :=
  if t.contains '_' && t.head? ≠ some '_' && t.getLast? ≠ some '_' && !hasDoubleUnderscore t then
    some (t.filter (· ≠ '_'))
  else none

/-- A text without a plus sign at its beginning. -/
def dropPlus : Text → Text
  | '+' :: rest => rest
  | t => t

/-- A text without the spaces around it, a plus sign, leading zeros, a fraction of zeros, and
underscores. -/
def tidy? (t : Text) : Option Text :=
  let (negative, body) := splitMinus (dropPlus (Text.trimBy Text.isSpace t))
  (dropLeadingZeros? body).map fun body =>
    let body := dropZeroFraction body
    let body := (withoutUnderscores? body).getD body
    if negative then '-' :: body else body

/-- A text as the whole number of a field: strictly, or else strictly after tidying up. -/
def fieldWhole (t : Text) : Whole :=
  match strictWhole t with
  | .malformed =>
    match tidy? t with
    | some tidied => strictWhole tidied
    | none => .malformed
  | reading => reading

/-! ## The reading of a configuration file -/

/-- Digits with single underscores between some of them. -/
def groupedDigits? : Text → Option (List Nat)
  | [] => none
  | [c] => (Text.asciiDigitValue? c).map ([·])
  | c :: '_' :: rest => do return (← Text.asciiDigitValue? c) :: (← groupedDigits? rest)
  | c :: rest => do return (← Text.asciiDigitValue? c) :: (← groupedDigits? rest)

/-- Digits of all scripts written as ASCII digits. -/
def plainDigits (t : Text) : Text :=
  t.map fun c => ((Text.digitValue? c).map Nat.digitChar).getD c

/-- What the liberal reading leaves of a text: ASCII digits, without the spaces at the ends. -/
def liberal (t : Text) : Text :=
  plainDigits (Text.trimBy Text.isSpace t)

/-- A text as a whole number, read liberally: an optional sign and grouped digits.  The limit
counts digits alone, and what follows them is looked at only after it. -/
def liberalWhole (t : Text) : Whole :=
  let (negative, body) := splitSign (liberal t)
  let front := body.takeWhile fun c => isDigit c || c = '_'
  match groupedDigits? front with
  | none => .malformed
  | some digits =>
    if lengthLimit < digits.length then .tooLong digits.length
    else if front.length = body.length then .number (signed negative (ofDigits digits))
    else .malformed

/-! ## Decimal fractions -/

/-- The exponent part of a decimal fraction: nothing, or `e` and a signed whole number. -/
def exponent? : Text → Option Int
  | [] => some 0
  | c :: rest =>
    if c = 'e' || c = 'E' then
      let (negative, body) := splitSign rest
      match leadingDigits body with
      | ([], _) => none
      | (digits, []) => some (signed negative (ofDigits digits))
      | _ => none
    else none

/-- A decimal fraction without sign: digits, a point and digits, of which one part may be empty,
and an exponent. -/
def fraction? (negative : Bool) (t : Text) : Option Binary64 :=
  let (integral, rest) := leadingDigits t
  let (fractional, rest) :=
    match rest with
    | '.' :: after => leadingDigits after
    | _ => ([], rest)
  if integral.isEmpty && fractional.isEmpty then none
  else
    (exponent? rest).map fun e =>
      Binary64.ofDecimal negative (ofDigits (integral ++ fractional)) (e - fractional.length)

/-- A real number: an optional sign, then a name of infinity or of not-a-number in any case, or a
decimal fraction. -/
def real? (t : Text) : Option Binary64 :=
  let (negative, body) := splitSign t
  let name := body.map Char.toLower
  if name = "nan".toList then some .nan
  else if name = "inf".toList || name = "infinity".toList then some (.infinite negative)
  else fraction? negative body

/-- A text as the real number of a field: without the spaces around it, or else without
underscores. -/
def fieldReal? (t : Text) : Option Binary64 :=
  (real? (Text.trimBy Text.isSpace t)).or ((withoutUnderscores? t).bind real?)

/-- Removes underscores that stand between two digits; any other underscore is refused. -/
def ungroup? (afterDigit : Bool) : Text → Option Text
  | [] => some []
  | ['_'] => none
  | '_' :: c :: rest => if afterDigit && isDigit c then ungroup? false (c :: rest) else none
  | c :: rest => (ungroup? (isDigit c) rest).map (c :: ·)

/-- A text as a real number, read liberally. -/
def liberalReal? (t : Text) : Option Binary64 :=
  (ungroup? false (liberal t)).bind real?

end SourceBlocks.Numeral
