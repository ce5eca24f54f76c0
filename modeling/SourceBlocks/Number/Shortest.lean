import SourceBlocks.Number.Binary64
import SourceBlocks.Text.Basic

/-!
# Shortest decimal text

The decimal text of a double: the fewest digits that read back as the same number, and of those
the nearest, a tie going to the even digit.  Numbers from `10 ^ -4` up to `10 ^ 16` are written
positionally, with at least one digit after the point; all others have an exponent of at least
two digits.
-/

namespace SourceBlocks.Binary64

/-- The decimal exponent of the leading digit of the fraction `num / den`, which is positive. -/
def leadingExponent (num den : Nat) : Int :=
  if den ≤ num then (Nat.toDigits 10 (num / den)).length - 1
  else -(((List.range 400).find? fun j => decide (den ≤ num * Nat.pow 10 j)).getD 0 : Nat)

/-- The digits of the point of the grid with `places` digits nearest to `m * 2 ^ e`, if it reads
back as that number; with its decimal exponent. -/
def gridPoint? (m : Nat) (e : Int) (places : Nat) : Option (Nat × Int) :=
  -- Everything is counted in quarters of the last binary place.
  let up := Nat.pow 2 (e - 2).toNat
  let down := Nat.pow 2 (2 - e).toNat
  let low := if m = Nat.pow 2 52 && decide (-1074 < e) then 4 * m - 1 else 4 * m - 2
  let high := 4 * m + 2
  let exponent := leadingExponent (4 * m * up) down - (places - 1 : Nat)
  let num := 4 * m * up * Nat.pow 10 (-exponent).toNat
  let den := down * Nat.pow 10 exponent.toNat
  let scaled (d : Nat) := d * den
  let bound (quarters : Nat) := quarters * up * Nat.pow 10 (-exponent).toNat
  let readsBack (d : Nat) : Bool :=
    if m % 2 = 0 then bound low ≤ scaled d && scaled d ≤ bound high
    else bound low < scaled d && scaled d < bound high
  let d := num / den
  let twice := 2 * (num % den)
  let nearFirst :=
    if twice < den || (twice = den && d % 2 = 0) then [d, d + 1] else [d + 1, d]
  (nearFirst.find? readsBack).map (·, exponent)

/-- The shortest digits and decimal exponent that read back as `m * 2 ^ e`, which is positive. -/
def shortest (m : Nat) (e : Int) : Nat × Int :=
  ((List.range 17).findSome? fun i => gridPoint? m e (i + 1)).getD (m, e)

/-- Digits with trailing zeros removed, which the exponent makes up for. -/
def dropZeros : Text → Text :=
  fun digits => ((digits.reverse.dropWhile (· = '0')).reverse)

/-- The text of `digits * 10 ^ exponent`. -/
def render (digits : Nat) (exponent : Int) : Text :=
  let all := Text.ofNat digits
  let point : Int := all.length + exponent
  let ds := dropZeros all
  if -4 < point ∧ point ≤ 16 then
    if point ≤ 0 then '0' :: '.' :: (List.replicate (-point).toNat '0' ++ ds)
    else
      let n := point.toNat
      let whole := ds.take n ++ List.replicate (n - ds.length) '0'
      let part := ds.drop n
      whole ++ '.' :: (if part.isEmpty then ['0'] else part)
  else
    let exp := point - 1
    let mantissa := ds.take 1 ++ (if ds.length ≤ 1 then [] else '.' :: ds.drop 1)
    let size := Text.ofNat exp.natAbs
    mantissa ++ 'e' :: (if exp < 0 then '-' else '+')
      :: (List.replicate (2 - size.length) '0' ++ size)

/-- The decimal text of a double. -/
def text : Binary64 → Text
  | .nan => "nan".toList
  | .infinite negative => (if negative then ['-'] else []) ++ "inf".toList
  | .finite negative m e =>
    let magnitude :=
      if m = 0 then "0.0".toList
      else
        let (digits, exponent) := shortest m e
        render digits exponent
    (if negative then ['-'] else []) ++ magnitude

end SourceBlocks.Binary64
