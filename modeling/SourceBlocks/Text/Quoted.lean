import SourceBlocks.Text.Printable

/-!
# Quoted text

A text between quotation marks on one line, as error messages show it.  The mark is the single
quote unless only the double quote avoids an escape.  A backslash, the mark itself and every
character that is not printable are escaped.
-/

namespace SourceBlocks.Text

/-- The last `width` hexadecimal digits of a number, in lower case. -/
def hexDigits : Nat → Nat → Text
  | 0, _ => []
  | width + 1, n => hexDigits width (n / 16) ++ [Nat.digitChar (n % 16)]

/-- A character between quotation marks `mark`. -/
def quoteChar (mark : Char) (c : Char) : Text :=
  if c = mark || c = '\\' then ['\\', c]
  else if c = '\n' then ['\\', 'n']
  else if c = '\r' then ['\\', 'r']
  else if c = '\t' then ['\\', 't']
  else if isPrintable c then [c]
  else if c.toNat < 0x100 then '\\' :: 'x' :: hexDigits 2 c.toNat
  else if c.toNat < 0x10000 then '\\' :: 'u' :: hexDigits 4 c.toNat
  else '\\' :: 'U' :: hexDigits 8 c.toNat

/-- The quotation mark that a text gets. -/
def quotationMark (t : Text) : Char :=
  if t.contains '\'' && !t.contains '"' then '"' else '\''

/-- A text between quotation marks. -/
def quoted (t : Text) : Text :=
  let mark := quotationMark t
  mark :: (t.flatMap (quoteChar mark) ++ [mark])

end SourceBlocks.Text
