/-!
# Binary64

The numbers of the IEEE 754 double format, held as exact dyadic numbers, so that rounding and
comparison are statements about natural numbers.  A finite number with mantissa `m` and exponent
`e` stands for `m * 2 ^ e`; the ones built here have `m < 2 ^ 53` and `-1074 ≤ e ≤ 971`, with
`2 ^ 52 ≤ m` unless `e = -1074`.
-/

namespace SourceBlocks

/-- A double: not a number, an infinity, or a signed dyadic number. -/
inductive Binary64 where
  | nan
  | infinite (negative : Bool)
  | finite (negative : Bool) (mantissa : Nat) (exponent : Int)
  deriving DecidableEq, Repr

namespace Binary64

/-- The quotient rounded to the nearest whole number, a half to the even one. -/
def roundedQuotient (num den : Nat) : Nat :=
  let q := num / den
  let twice := 2 * (num % den)
  if den < twice || (twice = den && q % 2 = 1) then q + 1 else q

/-- The exponent of the highest bit of the fraction `num / den`. -/
def highestBit (num den : Nat) : Int :=
  let k : Int := num.log2 - den.log2
  if den * Nat.pow 2 k.toNat ≤ num * Nat.pow 2 (-k).toNat then k else k - 1

/-- The double nearest to the fraction `num / den`, ties to even. -/
def ofRatio (negative : Bool) (num den : Nat) : Binary64 :=
  if num = 0 then .finite negative 0 (-1074)
  else
    let e := max (highestBit num den - 52) (-1074)
    let m := roundedQuotient (num * Nat.pow 2 (-e).toNat) (den * Nat.pow 2 e.toNat)
    let (m, e) := if m = Nat.pow 2 53 then (Nat.pow 2 52, e + 1) else (m, e)
    if 971 < e then .infinite negative else .finite negative m e

/-- The double nearest to `m * 2 ^ e`. -/
def ofDyadic (negative : Bool) (m : Nat) (e : Int) : Binary64 :=
  ofRatio negative (m * Nat.pow 2 e.toNat) (Nat.pow 2 (-e).toNat)

/-- The double nearest to an integer, unless the integer is past the range of finite doubles. -/
def ofInt? (n : Int) : Option Binary64 :=
  match ofRatio (decide (n < 0)) n.natAbs 1 with
  | .infinite _ => none
  | x => some x

/-- The double nearest to `digits * 10 ^ exponent`.  Exponents far outside the range are settled
without writing the power out. -/
def ofDecimal (negative : Bool) (digits : Nat) (exponent : Int) : Binary64 :=
  let magnitude : Int := (Nat.toDigits 10 digits).length + exponent
  if digits = 0 || magnitude < -330 then .finite negative 0 (-1074)
  else if 310 < magnitude then .infinite negative
  else ofRatio negative (digits * Nat.pow 10 exponent.toNat) (Nat.pow 10 (-exponent).toNat)

/-- One. -/
def one : Binary64 := .finite false (Nat.pow 2 52) (-52)

/-- Zero, without a sign. -/
def zero : Binary64 := .finite false 0 (-1074)

/-- The rounded product. -/
def mul : Binary64 → Binary64 → Binary64
  | .nan, _ => .nan
  | _, .nan => .nan
  | .infinite s, .infinite t => .infinite (s != t)
  | .infinite s, .finite t m _ => if m = 0 then .nan else .infinite (s != t)
  | .finite s m _, .infinite t => if m = 0 then .nan else .infinite (s != t)
  | .finite s m e, .finite t n f => ofDyadic (s != t) (m * n) (e + f)

/-- Whether a double is less than a natural number, compared exactly.  Not a number is less than
nothing. -/
def ltNat : Binary64 → Nat → Bool
  | .nan, _ => false
  | .infinite negative, _ => negative
  | .finite true m _, n => decide (0 < m ∨ 0 < n)
  | .finite false m e, n => decide (m * Nat.pow 2 e.toNat < n * Nat.pow 2 (-e).toNat)

/-- The whole part of a finite number, rounded toward zero. -/
def wholePart? : Binary64 → Option Int
  | .finite negative m e =>
    let magnitude : Int := ((m * Nat.pow 2 e.toNat / Nat.pow 2 (-e).toNat : Nat) : Int)
    some (if negative then -magnitude else magnitude)
  | _ => none

/-- Whether a finite number has no fractional part. -/
def isWhole : Binary64 → Bool
  | .finite _ m e => decide (m * Nat.pow 2 e.toNat % Nat.pow 2 (-e).toNat = 0)
  | _ => false

/-- The number that a bit pattern stands for. -/
def ofBits (bits : Nat) : Binary64 :=
  let negative := decide (bits / Nat.pow 2 63 % 2 = 1)
  let field : Nat := bits / Nat.pow 2 52 % Nat.pow 2 11
  let fraction := bits % Nat.pow 2 52
  if field = 2047 then (if fraction = 0 then .infinite negative else .nan)
  else if field = 0 then .finite negative fraction (-1074)
  else .finite negative (Nat.pow 2 52 + fraction) ((field : Int) - 1075)

/-- The bit pattern of a number.  Not a number has the quiet pattern without a sign. -/
def toBits : Binary64 → Nat
  | .nan => 0x7FF8000000000000
  | .infinite negative => (if negative then Nat.pow 2 63 else 0) + 2047 * Nat.pow 2 52
  | .finite negative m e =>
    (if negative then Nat.pow 2 63 else 0) +
      (if m < Nat.pow 2 52 then m else (e + 1075).toNat * Nat.pow 2 52 + (m - Nat.pow 2 52))

@[simp] theorem nan_ltNat (n : Nat) : ltNat .nan n = false := rfl

/-- A double below a number is below every larger number. -/
theorem ltNat_mono {x : Binary64} {m n : Nat} (hmn : m ≤ n) (h : x.ltNat m = true) :
    x.ltNat n = true := by
  unfold ltNat at *
  split at h
  · exact h
  · exact h
  · simp only [decide_eq_true_eq] at h ⊢
    omega
  · simp only [decide_eq_true_eq] at h ⊢
    exact Nat.lt_of_lt_of_le h (Nat.mul_le_mul_right _ hmn)

end Binary64

end SourceBlocks
