import Mathlib.Data.List.GetD
import Mathlib.Data.Nat.Find
import SourceBlocks.Packing
import SourceBlocks.Proofs.Lines

/-!
# Packing as a recursive plan

The scan that packs a span keeps a pending run, its length and the place of its first line, and
moves lines from one run to the next.  This module says what comes of it without any of these: a
recursion on the number of the line where the next run begins, whose steps compare lengths of
joined lines only.  The main statement is that the scan settles the same pieces in the same order.
-/

namespace SourceBlocks.Packing

open Text

/-- Whether a piece is a part of the span, and not the record of a move. -/
def Piece.isCut : Piece → Bool
  | .moved .. => false
  | _ => true

/-- The length of the joined lines from number `a` up to, but without, number `c`. -/
def stretchLength (lines : List Text) (a c : Nat) : Nat :=
  (joinLines (stretch lines a c)).length

/-- A run that begins at line `b` ends before line `i`: there is no line `i`, it is too long by
itself, or the run would be too long with it. -/
def Blocked (s : Sizing) (lines : List Text) (b i : Nat) : Prop :=
  i = lines.length ∨ s.exceeds (lines.getD i []).length = true ∨
    s.exceeds (stretchLength lines b (i + 1)) = true

instance (s : Sizing) (lines : List Text) (b i : Nat) : Decidable (Blocked s lines b i) :=
  inferInstanceAs (Decidable (_ ∨ _ ∨ _))

theorem exists_blocked (s : Sizing) {lines : List Text} {b : Nat} (hb : b < lines.length) :
    ∃ i, b < i ∧ Blocked s lines b i :=
  ⟨lines.length, hb, Or.inl rfl⟩

/-- The first line after `b` before which a run that begins at line `b` ends. -/
def runEnd (s : Sizing) {lines : List Text} {b : Nat} (hb : b < lines.length) : Nat :=
  Nat.find (exists_blocked s hb)

/-- The last `k` lines of the run from line `b` up to line `i` may move to the next run: what stays
keeps the smallest size, what moves fits together with line `i`, and what follows the first of the
moved lines is still too short for a run of its own. -/
def Movable (s : Sizing) (lines : List Text) (b i k : Nat) : Prop :=
  s.limits.minChars ≤ stretchLength lines b (i - k) ∧
    s.exceeds (stretchLength lines (i - k) (i + 1)) = false ∧
    stretchLength lines (i - k + 1) lines.length < s.limits.minRemainder

instance (s : Sizing) (lines : List Text) (b i : Nat) : DecidablePred (Movable s lines b i) :=
  fun _ => inferInstanceAs (Decidable (_ ∧ _ ∧ _))

/-- How many lines move from the run from line `b` up to line `i` to the next run: as many as may,
and never all. -/
def movedLines (s : Sizing) (lines : List Text) (b i : Nat) : Nat :=
  Nat.findGreatest (Movable s lines b i) (i - b - 1)

theorem lt_runEnd (s : Sizing) {lines : List Text} {b : Nat} (hb : b < lines.length) :
    b < runEnd s hb :=
  (Nat.find_spec (exists_blocked s hb)).1

theorem movedLines_le (s : Sizing) (lines : List Text) (b i : Nat) :
    movedLines s lines b i ≤ i - b - 1 :=
  Nat.findGreatest_le _

/-- The runs and the long lines of a span from line `b` on. -/
def plan (s : Sizing) (lines : List Text) (b : Nat) : List Piece :=
  if hb : b < lines.length then
    if s.exceeds lines[b].length then .longLine b lines[b] :: plan s lines (b + 1)
    else if hi : runEnd s hb < lines.length then
      if s.exceeds lines[runEnd s hb].length then
        .run b (stretch lines b (runEnd s hb)) false
          :: .longLine (runEnd s hb) lines[runEnd s hb] :: plan s lines (runEnd s hb + 1)
      else
        let next := runEnd s hb - movedLines s lines b (runEnd s hb)
        .run b (stretch lines b next) false :: plan s lines next
    else [.run b (stretch lines b lines.length) true]
  else []
  termination_by lines.length - b
  decreasing_by
    all_goals
      have hend := lt_runEnd s hb
      have hmoved := movedLines_le s lines b (runEnd s hb)
      omega

/-! ## Lengths of stretches -/

section Lengths

variable {lines : List Text} {a b c d i : Nat}

theorem lineOffset_add_stretchLength (hac : a < c) (hc : c ≤ lines.length) :
    lineOffset lines a + stretchLength lines a c + 1 = lineOffset lines c :=
  lineOffset_add_length hac hc

theorem stretchLength_mono (hab : a ≤ b) (hbc : b < c) (hcd : c ≤ d) (hd : d ≤ lines.length) :
    stretchLength lines b c ≤ stretchLength lines a d := by
  have hinner := lineOffset_add_stretchLength hbc (Nat.le_trans hcd hd)
  have had : a < d := Nat.lt_of_le_of_lt hab (Nat.lt_of_lt_of_le hbc hcd)
  have houter := lineOffset_add_stretchLength had hd
  have hleft : lineOffset lines a ≤ lineOffset lines b := lineOffset_mono hab
  have hright : lineOffset lines c ≤ lineOffset lines d := lineOffset_mono hcd
  omega

theorem stretchLength_single (hi : i < lines.length) :
    stretchLength lines i (i + 1) = lines[i].length := by
  have hlength := lineOffset_add_stretchLength (Nat.lt_add_one i) hi
  have hsucc := lineOffset_succ hi
  omega

theorem length_le_stretchLength (hi : i < lines.length) (hai : a ≤ i) (hic : i < c)
    (hc : c ≤ lines.length) : lines[i].length ≤ stretchLength lines a c := by
  rw [← stretchLength_single hi]
  exact stretchLength_mono hai (Nat.lt_add_one i) hic hc

theorem stretchLength_succ_right (hai : a < i) (hi : i < lines.length) :
    stretchLength lines a (i + 1) = stretchLength lines a i + 1 + lines[i].length := by
  have hshort := lineOffset_add_stretchLength hai (Nat.le_of_lt hi)
  have hlong := lineOffset_add_stretchLength (Nat.lt_add_right 1 hai) hi
  have hsucc := lineOffset_succ hi
  omega

theorem stretchLength_eq_cons (ha : a < lines.length) (hac : a + 1 < c) (hc : c ≤ lines.length) :
    stretchLength lines a c = lines[a].length + 1 + stretchLength lines (a + 1) c := by
  have hlong := lineOffset_add_stretchLength (Nat.lt_of_succ_lt hac) hc
  have hshort := lineOffset_add_stretchLength hac hc
  have hsucc := lineOffset_succ ha
  omega

end Lengths

/-! ## The end of a run and the lines that move on -/

section Steps

variable {s : Sizing} {lines : List Text} {b i k m : Nat}

theorem fits_of_le {n : Nat} (hmn : m ≤ n) (hfits : s.exceeds n = false) :
    s.exceeds m = false := by
  by_contra hover
  rw [s.exceeds_mono hmn (by simpa using hover)] at hfits
  exact Bool.noConfusion hfits

/-- A stretch within one that fits also fits. -/
theorem fits_within {a c d : Nat} (hab : a ≤ b) (hbc : b < c) (hcd : c ≤ d)
    (hd : d ≤ lines.length) (hfits : s.exceeds (stretchLength lines a d) = false) :
    s.exceeds (stretchLength lines b c) = false :=
  fits_of_le (stretchLength_mono hab hbc hcd hd) hfits

theorem line_fits {c : Nat} (hi : i < lines.length) (hbi : b ≤ i) (hic : i < c)
    (hc : c ≤ lines.length) (hfits : s.exceeds (stretchLength lines b c) = false) :
    s.exceeds lines[i].length = false :=
  fits_of_le (length_le_stretchLength hi hbi hic hc) hfits

/-- A run that fits up to line `i` does not end before it. -/
theorem not_blocked_of_fits {j : Nat} (hbj : b < j) (hji : j < i) (hi : i ≤ lines.length)
    (hfits : s.exceeds (stretchLength lines b i) = false) : ¬ Blocked s lines b j := by
  rintro (hend | hlong | hover)
  · omega
  · have hj : j < lines.length := Nat.lt_of_lt_of_le hji hi
    rw [List.getD_eq_getElem _ _ hj] at hlong
    rw [line_fits hj (Nat.le_of_lt hbj) hji hi hfits] at hlong
    exact Bool.noConfusion hlong
  · rw [fits_within (Nat.le_refl b) (Nat.lt_add_right 1 hbj) hji hi hfits] at hover
    exact Bool.noConfusion hover

/-- A run that fits up to line `i` and is blocked there ends there. -/
theorem runEnd_eq (hb : b < lines.length) (hbi : b < i) (hi : i ≤ lines.length)
    (hfits : s.exceeds (stretchLength lines b i) = false) (hblocked : Blocked s lines b i) :
    runEnd s hb = i := by
  rw [runEnd, Nat.find_eq_iff]
  refine ⟨⟨hbi, hblocked⟩, ?_⟩
  rintro j hji ⟨hbj, hblocked⟩
  exact not_blocked_of_fits hbj hji hi hfits hblocked

/-- If some lines may move, fewer may. -/
theorem Movable.of_le (hi : i < lines.length) (hk : 0 < k) (hkm : k ≤ m) (hm : m < i - b)
    (h : Movable s lines b i m) : Movable s lines b i k := by
  obtain ⟨hkept, hjoined, hrest⟩ := h
  refine ⟨?_, ?_, ?_⟩
  · exact Nat.le_trans hkept
      (stretchLength_mono (Nat.le_refl b) (by omega) (by omega) (by omega))
  · exact fits_within (by omega) (by omega) (Nat.le_refl _) hi hjoined
  · exact Nat.lt_of_le_of_lt
      (stretchLength_mono (by omega) (by omega) (Nat.le_refl _) (Nat.le_refl _)) hrest

/-- The number of moved lines is the one up to which every number may move and after which none
may. -/
theorem movedLines_eq (hi : i < lines.length) (hki : k < i - b)
    (hmovable : 0 < k → Movable s lines b i k)
    (hnext : k + 1 < i - b → ¬ Movable s lines b i (k + 1)) : movedLines s lines b i = k := by
  rw [movedLines, Nat.findGreatest_eq_iff]
  refine ⟨by omega, fun hk => hmovable (Nat.pos_of_ne_zero hk), ?_⟩
  intro m hkm hm hmov
  exact hnext (by omega) (hmov.of_le hi (Nat.succ_pos k) hkm (by omega))

theorem movable_sub_iff (hmi : m ≤ i) :
    Movable s lines b i (i - m) ↔
      s.limits.minChars ≤ stretchLength lines b m ∧
        s.exceeds (stretchLength lines m (i + 1)) = false ∧
        stretchLength lines (m + 1) lines.length < s.limits.minRemainder := by
  rw [Movable, Nat.sub_sub_self hmi]

theorem reverse_stretch_succ (hbm : b ≤ m) (hm : m < lines.length) :
    (stretch lines b (m + 1)).reverse = lines[m] :: (stretch lines b m).reverse := by
  simp [stretch_succ_right hbm hm]

/-- Line `m`, the newest one of a run that has others, moves if it may; otherwise moving stops. -/
theorem carry_step (hi : i < lines.length) (hbm : b < m) (hmi : m < i) (carriedLength : Nat)
    (hcarried : m + 1 < i → carriedLength = stretchLength lines (m + 1) i) :
    carry s lines[i] (stretch lines b (m + 1)).reverse (stretchLength lines b (m + 1))
        (stretchLength lines (m + 1) lines.length) (stretch lines (m + 1) i) carriedLength =
      if Movable s lines b i (i - m) then
        carry s lines[i] (stretch lines b m).reverse (stretchLength lines b m)
          (stretchLength lines m lines.length) (stretch lines m i) (stretchLength lines m i)
      else
        ((stretch lines b (m + 1)).reverse, stretchLength lines b (m + 1),
          stretch lines (m + 1) i) := by
  have hm : m < lines.length := Nat.lt_trans hmi hi
  have hreverse : (stretch lines b (m + 1)).reverse = lines[m] :: (stretch lines b m).reverse :=
    reverse_stretch_succ (Nat.le_of_lt hbm) hm
  have hkept : stretchLength lines b (m + 1) - lines[m].length - 1 = stretchLength lines b m := by
    have := stretchLength_succ_right hbm hm
    omega
  have hhead : lines[m].length + (if (stretch lines (m + 1) i).isEmpty then 0
      else carriedLength + 1) = stretchLength lines m i := by
    rcases Nat.lt_or_eq_of_le hmi with hlt | rfl
    · have hne := stretch_ne_nil hlt (Nat.le_of_lt hi)
      have hcons := stretchLength_eq_cons hm hlt (Nat.le_of_lt hi)
      rw [List.isEmpty_eq_false_iff.mpr hne, if_neg Bool.false_ne_true, hcarried hlt, hcons]
      omega
    · rw [stretch_self, List.isEmpty_nil, if_pos rfl]
      exact (stretchLength_single hm).symm
  have hjoined : stretchLength lines m i + 1 + lines[i].length = stretchLength lines m (i + 1) :=
    (stretchLength_succ_right hmi hi).symm
  have hrest : stretchLength lines (m + 1) lines.length + (lines[m].length + 1) =
      stretchLength lines m lines.length := by
    have := stretchLength_eq_cons hm (c := lines.length) (by omega) (Nat.le_refl _)
    omega
  have hcons : lines[m] :: stretch lines (m + 1) i = stretch lines m i :=
    (stretch_eq_cons hmi (Nat.le_of_lt hi)).symm
  obtain ⟨older, rfl⟩ := Nat.exists_eq_add_of_lt hbm
  rw [hreverse, reverse_stretch_succ (by omega) (by omega), carry]
  simp only [hkept, hhead, hjoined, hrest, hcons]
  rw [← reverse_stretch_succ (by omega) (by omega)]
  simp only [Bool.or_eq_true, decide_eq_true_eq]
  split
  next hstop =>
    rw [if_neg]
    rw [movable_sub_iff (Nat.le_of_lt hmi)]
    rintro ⟨hmin, hfits, hshort⟩
    rw [hfits] at hstop
    simp only [Bool.false_eq_true, or_false] at hstop
    omega
  next hgo =>
    rw [if_pos]
    simp only [not_or, Bool.not_eq_true, Nat.not_le, Nat.not_lt] at hgo
    exact (movable_sub_iff (Nat.le_of_lt hmi)).mpr ⟨hgo.1.2, hgo.2, hgo.1.1⟩

/-- Moving lines one by one stops where `movedLines` says.  The lines from number `m` on have moved
so far, and all of them may. -/
theorem carry_eq (hi : i < lines.length) (hbm : b < m) (hmi : m ≤ i)
    (hmoved : m < i → Movable s lines b i (i - m)) (carriedLength : Nat)
    (hcarried : m < i → carriedLength = stretchLength lines m i) :
    carry s lines[i] (stretch lines b m).reverse (stretchLength lines b m)
        (stretchLength lines m lines.length) (stretch lines m i) carriedLength =
      ((stretch lines b (i - movedLines s lines b i)).reverse,
        stretchLength lines b (i - movedLines s lines b i),
        stretch lines (i - movedLines s lines b i) i) := by
  induction m, hbm using Nat.le_induction generalizing carriedLength with
  | base =>
    have hall : movedLines s lines b i = i - (b + 1) :=
      movedLines_eq hi (by omega) (fun _ => hmoved (by omega)) (by omega)
    have hnext : i - (i - (b + 1)) = b + 1 := by omega
    rw [hall, hnext, reverse_stretch_succ (Nat.le_refl b) (by omega)]
    simp [carry]
  | succ m hbm ih =>
    rw [carry_step hi hbm hmi carriedLength hcarried]
    split
    next hmov => exact ih (Nat.le_of_lt hmi) (fun _ => hmov) _ fun _ => rfl
    next hstop =>
      have hall : movedLines s lines b i = i - (m + 1) := by
        refine movedLines_eq hi (by omega) (fun _ => hmoved (by omega)) fun _ => ?_
        have hsucc : i - (m + 1) + 1 = i - m := by omega
        rwa [hsucc]
      have hnext : i - (i - (m + 1)) = m + 1 := by omega
      rw [hall, hnext]

/-! ## One step of the plan -/

theorem plan_length : plan s lines lines.length = [] := by
  rw [plan, dif_neg (Nat.lt_irrefl _)]

theorem plan_longLine (hb : b < lines.length) (hlong : s.exceeds lines[b].length = true) :
    plan s lines b = .longLine b lines[b] :: plan s lines (b + 1) := by
  rw [plan, dif_pos hb, if_pos hlong]

theorem not_exceeds_of_fits (hb : b < lines.length) (hbi : b < i) (hi : i ≤ lines.length)
    (hfits : s.exceeds (stretchLength lines b i) = false) :
    ¬ s.exceeds lines[b].length = true := by
  rw [line_fits hb (Nat.le_refl b) hbi hi hfits]
  exact Bool.false_ne_true

theorem plan_final (hb : b < lines.length)
    (hfits : s.exceeds (stretchLength lines b lines.length) = false) :
    plan s lines b = [.run b (stretch lines b lines.length) true] := by
  have hend : runEnd s hb = lines.length :=
    runEnd_eq hb hb (Nat.le_refl _) hfits (Or.inl rfl)
  rw [plan, dif_pos hb, if_neg (not_exceeds_of_fits hb hb (Nat.le_refl _) hfits), dif_neg (by omega)]

theorem plan_before_longLine (hbi : b < i) (hi : i < lines.length)
    (hfits : s.exceeds (stretchLength lines b i) = false)
    (hlong : s.exceeds lines[i].length = true) :
    plan s lines b = .run b (stretch lines b i) false :: plan s lines i := by
  have hb : b < lines.length := Nat.lt_trans hbi hi
  have hblocked : Blocked s lines b i := Or.inr (Or.inl (by rwa [List.getD_eq_getElem _ _ hi]))
  have hend : runEnd s hb = i := runEnd_eq hb hbi (Nat.le_of_lt hi) hfits hblocked
  rw [plan, dif_pos hb, if_neg (not_exceeds_of_fits hb hbi (Nat.le_of_lt hi) hfits),
    dif_pos (by omega), if_pos (by simpa only [hend] using hlong), plan_longLine hi hlong]
  simp only [hend]

theorem plan_overflow (hbi : b < i) (hi : i < lines.length)
    (hfits : s.exceeds (stretchLength lines b i) = false)
    (hshort : s.exceeds lines[i].length = false)
    (hover : s.exceeds (stretchLength lines b (i + 1)) = true) :
    plan s lines b =
      .run b (stretch lines b (i - movedLines s lines b i)) false
        :: plan s lines (i - movedLines s lines b i) := by
  have hb : b < lines.length := Nat.lt_trans hbi hi
  have hend : runEnd s hb = i :=
    runEnd_eq hb hbi (Nat.le_of_lt hi) hfits (Or.inr (Or.inr hover))
  rw [plan, dif_pos hb, if_neg (not_exceeds_of_fits hb hbi (Nat.le_of_lt hi) hfits),
    dif_pos (by omega), if_neg (by simp only [hend, hshort, Bool.false_eq_true, not_false_eq_true])]
  simp only [hend]

end Steps

end SourceBlocks.Packing
