import Mathlib.Algebra.GroupWithZero.Nat
import SourceBlocks.Number.Binary64

/-!
# The order of doubles against natural numbers

To be at least a natural number and to be less than it exclude each other, and only not-a-number is
neither.
-/

namespace SourceBlocks.Binary64

/-- A natural number is at most a double, compared exactly.  No number is at most not-a-number. -/
def AtLeast : Binary64 → Nat → Prop
  | .nan, _ => False
  | .infinite negative, _ => negative = false
  | .finite true m _, n => m = 0 ∧ n = 0
  | .finite false m e, n => n * 2 ^ (-e).toNat ≤ m * 2 ^ e.toNat

variable {x : Binary64} {n : Nat}

/-- A double that is a number is at least what it is not less than. -/
theorem atLeast_of_ltNat_eq_false (hx : x ≠ .nan) (h : x.ltNat n = false) : x.AtLeast n := by
  cases x with
  | nan => exact absurd rfl hx
  | infinite negative => exact h
  | finite negative m e =>
    cases negative with
    | false => exact Nat.le_of_not_lt (of_decide_eq_false h)
    | true =>
      have hzero := of_decide_eq_false h
      rw [not_or, Nat.pos_iff_ne_zero, Nat.pos_iff_ne_zero, not_not, not_not] at hzero
      exact hzero

theorem AtLeast.ltNat_eq_false (h : x.AtLeast n) : x.ltNat n = false := by
  cases x with
  | nan => exact h.elim
  | infinite negative => exact h
  | finite negative m e =>
    cases negative with
    | false => exact decide_eq_false (Nat.not_lt_of_le h)
    | true =>
      obtain ⟨rfl, rfl⟩ := h
      rfl

end SourceBlocks.Binary64
