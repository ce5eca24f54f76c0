import Mathlib.Algebra.GroupWithZero.Nat
import SourceBlocks.Block
import SourceBlocks.Proofs.Utf8

/-!
# What a fingerprint identifies

The text that a fingerprint digests joins its parts with dashes.  Decimal spellings hold no dash
but for a leading one, so for one file the lines and the beginning of the code can be read back.
Two fingerprints are then equal only if their parts are, as long as the digest does not collide.
-/

namespace SourceBlocks

namespace Text

theorem dash_not_mem_ofNat (n : Nat) : '-' ∉ ofNat n := by
  intro hmem
  have hdigit := Nat.isDigit_of_mem_toDigits (by decide) (by decide) hmem
  exact absurd hdigit (by decide)

theorem ofNat_injective : Function.Injective ofNat := by
  intro m n h
  calc
    m = Nat.ofDigitChars 10 (ofNat m) 0 := Nat.ofDigitChars_ten_toDigits.symm
    _ = Nat.ofDigitChars 10 (ofNat n) 0 := by rw [h]
    _ = n := Nat.ofDigitChars_ten_toDigits

/-- Parts that hold no `stop` are read back from the front of a text. -/
theorem append_cons_inj {stop : Char} {u v x y : Text} (hu : stop ∉ u) (hv : stop ∉ v)
    (h : u ++ stop :: x = v ++ stop :: y) : u = v ∧ x = y := by
  induction u generalizing v with
  | nil =>
    cases v with
    | nil => exact ⟨rfl, List.tail_eq_of_cons_eq h⟩
    | cons c v =>
      have hhead : stop = c := (List.cons.inj h).1
      simp [hhead] at hv
  | cons c u ih =>
    cases v with
    | nil =>
      have hhead : c = stop := (List.cons.inj h).1
      simp [hhead] at hu
    | cons d v =>
      obtain ⟨rfl, htail⟩ := List.cons.inj h
      simp only [List.mem_cons, not_or] at hu hv
      obtain ⟨rfl, rfl⟩ := ih hu.2 hv.2 htail
      exact ⟨rfl, rfl⟩

theorem ofNat_dash_inj {m n : Nat} {x y : Text} (h : ofNat m ++ '-' :: x = ofNat n ++ '-' :: y) :
    m = n ∧ x = y := by
  obtain ⟨hmn, hxy⟩ := append_cons_inj (dash_not_mem_ofNat m) (dash_not_mem_ofNat n) h
  exact ⟨ofNat_injective hmn, hxy⟩

theorem ofNat_ne_dash_cons (n : Nat) (x y : Text) : ofNat n ++ x ≠ '-' :: y := by
  intro h
  have hne : ofNat n ≠ [] := Nat.toDigits_ne_nil
  obtain ⟨c, digits, hdigits⟩ := List.exists_cons_of_ne_nil hne
  rw [hdigits, List.cons_append] at h
  have hdash := dash_not_mem_ofNat n
  rw [hdigits, (List.cons.inj h).1] at hdash
  exact hdash (List.mem_cons_self)

/-- An integer is read back from before a dash, its own sign notwithstanding. -/
theorem ofInt_dash_inj {m n : Int} {x y : Text} (h : ofInt m ++ '-' :: x = ofInt n ++ '-' :: y) :
    m = n ∧ x = y := by
  cases m with
  | ofNat m =>
    cases n with
    | ofNat n =>
      obtain ⟨rfl, rfl⟩ := ofNat_dash_inj h
      exact ⟨rfl, rfl⟩
    | negSucc n => exact absurd h (ofNat_ne_dash_cons m _ _)
  | negSucc m =>
    cases n with
    | ofNat n => exact absurd h.symm (ofNat_ne_dash_cons n _ _)
    | negSucc n =>
      obtain ⟨hmn, rfl⟩ := ofNat_dash_inj (List.cons.inj h).2
      obtain rfl : m = n := Nat.succ.inj hmn
      exact ⟨rfl, rfl⟩

end Text

namespace Fingerprint

/-- Among these texts, only equal ones have encodings with the same digest. -/
def CollisionFree (identifiers : List Text) : Prop :=
  ∀ x ∈ identifiers, ∀ y ∈ identifiers,
    Sha256.hex (Utf8.encode x) = Sha256.hex (Utf8.encode y) → Utf8.encode x = Utf8.encode y

theorem CollisionFree.eq {identifiers : List Text} (h : CollisionFree identifiers) {x y : Text}
    (hx : x ∈ identifiers) (hy : y ∈ identifiers)
    (hdigest : Sha256.hex (Utf8.encode x) = Sha256.hex (Utf8.encode y)) : x = y :=
  Utf8.encode_injective (h x hx y hy hdigest)

/-- For one file, the lines and the beginning of the code are read back from an identifier. -/
theorem identifier_inj {file : Text} {startLine endLine startLine' endLine' : Int}
    {code code' : Text}
    (h : identifier file startLine endLine code = identifier file startLine' endLine' code') :
    startLine = startLine' ∧ endLine = endLine' ∧
      code.take coveredChars = code'.take coveredChars := by
  have hparts := (List.cons.inj (List.append_cancel_left h)).2
  obtain ⟨hstart, hrest⟩ := Text.ofInt_dash_inj hparts
  obtain ⟨hend, hcode⟩ := Text.ofInt_dash_inj hrest
  exact ⟨hstart, hend, hcode⟩

/-- The number before a segment is read back from the covered part if its spelling leaves room for
the dash. -/
theorem numbered_take_inj {m n : Nat} {x y : Text} (hm : m < 10 ^ 49) (hn : n < 10 ^ 49)
    (h : (Text.ofNat m ++ '-' :: x).take coveredChars =
      (Text.ofNat n ++ '-' :: y).take coveredChars) : m = n := by
  have hroom : ∀ k < 10 ^ 49, ∀ z : Text, ∃ covered : Text,
      (Text.ofNat k ++ '-' :: z).take coveredChars = Text.ofNat k ++ '-' :: covered := by
    intro k hk z
    have hlength : (Text.ofNat k).length ≤ 49 :=
      (Nat.length_toDigits_le_iff (by decide) (by decide)).mpr hk
    obtain ⟨left, hleft⟩ := Nat.exists_eq_add_of_le hlength
    refine ⟨z.take left, ?_⟩
    have hcovered : coveredChars = (Text.ofNat k).length + (left + 1) := by
      rw [coveredChars]
      omega
    rw [hcovered, List.take_length_add_append, List.take_succ_cons]
  obtain ⟨_, hx⟩ := hroom m hm x
  obtain ⟨_, hy⟩ := hroom n hn y
  rw [hx, hy] at h
  exact (Text.ofNat_dash_inj h).1

end Fingerprint

end SourceBlocks
