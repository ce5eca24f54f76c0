import SourceBlocks.Config.Field

/-!
# Size limits

The sizes that blocks are held to: the largest block, the smallest, the shortest remainder worth
leaving to a last block, and the factor by which a block may exceed the largest size before it is
split.  A value of type `Limits` is always consistent; the reading of limits from a record of
values refuses every other one.
-/

namespace SourceBlocks

/-- Consistent size limits. -/
structure Limits where
  maxChars : Nat
  minChars : Nat
  minRemainder : Nat
  tolerance : Binary64
  minChars_pos : 0 < minChars
  minChars_le_maxChars : minChars ≤ maxChars
  minRemainder_pos : 0 < minRemainder
  tolerance_not_lt_one : tolerance.ltNat 1 = false

namespace Limits

theorem maxChars_pos (l : Limits) : 0 < l.maxChars :=
  Nat.lt_of_lt_of_le l.minChars_pos l.minChars_le_maxChars

/-- The limits with the given sizes, if the sizes and the factor are consistent. -/
def check (maxChars minChars minRemainder : { n : Nat // 0 < n }) (tolerance : Binary64) :
    Except Config.Fault Limits :=
  if ht : tolerance.ltNat 1 = true then .error .toleranceBelowOne
  else if hm : maxChars.val < minChars.val then .error .minimumAboveMaximum
  else
    .ok
      { maxChars := maxChars.val
        minChars := minChars.val
        minRemainder := minRemainder.val
        tolerance := tolerance
        minChars_pos := minChars.property
        minChars_le_maxChars := by omega
        minRemainder_pos := minRemainder.property
        tolerance_not_lt_one := by simpa using ht }

/-- Limits read from a record of values.  Every refused field is reported; the two conditions
between fields are checked only when each field is sound, the factor first. -/
def ofFields (fields : List (Text × Config.Value)) : Except (List Config.Invalid) Limits :=
  let maxChars := Config.required fields "max_block_chars" Config.Value.toPositive
  let minChars := Config.required fields "min_block_chars" Config.Value.toPositive
  let minRemainder := Config.required fields "min_chunk_remainder_chars" Config.Value.toPositive
  let tolerance := Config.required fields "max_chars_tolerance_factor" Config.Value.toReal
  match maxChars, minChars, minRemainder, tolerance with
  | .ok maxChars, .ok minChars, .ok minRemainder, .ok tolerance =>
    (check maxChars minChars minRemainder tolerance).mapError fun fault => [⟨none, fault⟩]
  | _, _, _, _ =>
    .error (Config.invalids maxChars ++ Config.invalids minChars ++ Config.invalids minRemainder
      ++ Config.invalids tolerance)

/-- The length past which a block is split: the largest size times the factor, as doubles.  There
is none when the largest size is past the range of doubles. -/
def threshold? (l : Limits) : Option Binary64 :=
  (Binary64.ofInt? l.maxChars).map fun size => size.mul l.tolerance

/-- The sentence that reports a largest size past the range of doubles. -/
def overflowMessage : Text :=
  "int too large to convert to float".toList

end Limits

/-- Limits with their threshold worked out, which packing needs. -/
structure Sizing where
  limits : Limits
  threshold : Binary64

namespace Sizing

/-- The sizing of limits whose largest size is within the range of doubles. -/
def ofLimits? (limits : Limits) : Option Sizing :=
  limits.threshold?.map fun threshold => ⟨limits, threshold⟩

/-- Whether a text of this length has to be split. -/
def exceeds (s : Sizing) (length : Nat) : Bool :=
  s.threshold.ltNat length

theorem exceeds_mono (s : Sizing) {m n : Nat} (hmn : m ≤ n) (h : s.exceeds m = true) :
    s.exceeds n = true :=
  Binary64.ltNat_mono hmn h

end Sizing

end SourceBlocks
