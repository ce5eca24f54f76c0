import SourceBlocks.Proofs.Packing.Tiling

/-!
# The scan follows the plan

The invariant of the scan is that the pending run holds a stretch of the span that ends at the
current line and still fits.  One lemma for each operation says how it moves the ends of that
stretch.  What a scan settles is then a relation with one case for each way in which a run ends,
whichever rule moves lines from one run to the next.  With the rule of the program, the pieces that
the relation allows are those of the plan.
-/

namespace SourceBlocks.Packing

open Text

variable {s : Sizing} {lines : List Text} {p : Pending} {b i j : Nat}

/-- A pending run holds the lines from number `b` up to, but without, number `i`. -/
structure Pending.Holds (p : Pending) (lines : List Text) (b i : Nat) : Prop where
  newestFirst_eq : p.newestFirst = (stretch lines b i).reverse
  start_eq : b < i → p.start = b
  length_eq : b < i → p.length = stretchLength lines b i

theorem Pending.empty_holds (lines : List Text) (b : Nat) : Pending.empty.Holds lines b b where
  newestFirst_eq := by simp [Pending.empty]
  start_eq := fun h => absurd h (Nat.lt_irrefl b)
  length_eq := fun h => absurd h (Nat.lt_irrefl b)

theorem Pending.Holds.isEmpty_iff (hp : p.Holds lines b i) (hbi : b ≤ i)
    (hi : i ≤ lines.length) : p.newestFirst.isEmpty = true ↔ b = i := by
  rw [hp.newestFirst_eq, List.isEmpty_iff, List.reverse_eq_nil_iff]
  constructor
  · intro hnil
    by_contra hne
    exact stretch_ne_nil (by omega) hi hnil
  · rintro rfl
    exact stretch_self lines b

theorem Pending.Holds.lengthWith_eq (hp : p.Holds lines b i) (hbi : b ≤ i)
    (hi : i < lines.length) : p.lengthWith lines[i] = stretchLength lines b (i + 1) := by
  rw [Pending.lengthWith]
  split
  next hempty =>
    obtain rfl := (hp.isEmpty_iff hbi (Nat.le_of_lt hi)).mp hempty
    exact (stretchLength_single hi).symm
  next hempty =>
    have hlt : b < i := by
      rw [hp.isEmpty_iff hbi (Nat.le_of_lt hi)] at hempty
      omega
    rw [hp.length_eq hlt, stretchLength_succ_right hlt hi]

/-- The number given for a line matters only if the line is the first of its run. -/
theorem Pending.Holds.push (hp : p.Holds lines b i) (hbi : b ≤ i) (hi : i < lines.length)
    {index : Nat} (hindex : b = i → index = i) :
    (p.push index lines[i]).Holds lines b (i + 1) where
  newestFirst_eq := by
    rw [reverse_stretch_succ hbi hi, ← hp.newestFirst_eq]
    rfl
  start_eq := fun _ => by
    rw [Pending.push]
    split
    next hempty =>
      have hb := (hp.isEmpty_iff hbi (Nat.le_of_lt hi)).mp hempty
      rw [hindex hb, hb]
    next hempty =>
      rw [hp.isEmpty_iff hbi (Nat.le_of_lt hi)] at hempty
      exact hp.start_eq (by omega)
  length_eq := fun _ => hp.lengthWith_eq hbi hi

/-- Carried lines that are pushed one by one, all with the number of the first, extend a run. -/
theorem Pending.Holds.foldl_push (hp : p.Holds lines b i) (hbi : b ≤ i) (hij : i ≤ j)
    (hj : j ≤ lines.length) :
    ((stretch lines i j).foldl (fun p line => p.push b line) p).Holds lines b j := by
  induction j, hij using Nat.le_induction with
  | base => simpa using hp
  | succ j hij ih =>
    rw [stretch_succ_right hij hj, List.foldl_append]
    exact (ih (Nat.le_of_lt hj)).push (Nat.le_trans hbi hij) hj id

theorem Pending.ofCarried_holds (hbi : b ≤ i) (hi : i ≤ lines.length) :
    (Pending.ofCarried (stretch lines b i) b).Holds lines b i :=
  (Pending.empty_holds lines b).foldl_push (Nat.le_refl b) hbi hi

theorem Pending.Holds.close_eq (hp : p.Holds lines b i) (hbi : b < i) (hi : i ≤ lines.length)
    (final : Bool) : p.close final = [.run b (stretch lines b i) final] := by
  have hempty : ¬ p.newestFirst.isEmpty = true := by
    rw [hp.isEmpty_iff (Nat.le_of_lt hbi) hi]
    omega
  rw [Pending.close, if_neg hempty, hp.start_eq hbi, hp.newestFirst_eq, List.reverse_reverse]

theorem Pending.Holds.close_eq_nil (hp : p.Holds lines b b) (hb : b ≤ lines.length)
    (final : Bool) : p.close final = [] := by
  rw [Pending.close, if_pos ((hp.isEmpty_iff (Nat.le_refl b) hb).mpr rfl)]

/-- A run below the smallest size gives no lines away. -/
theorem movedLines_eq_zero (hbi : b < i) (hi : i < lines.length)
    (hsmall : stretchLength lines b i < s.limits.minChars) : movedLines s lines b i = 0 := by
  refine movedLines_eq hi (by omega) (fun h => absurd h (Nat.lt_irrefl 0)) ?_
  rintro hone ⟨hkept, -, -⟩
  have hle : stretchLength lines b (i - (0 + 1)) ≤ stretchLength lines b i :=
    stretchLength_mono (Nat.le_refl b) (by omega) (by omega) (Nat.le_of_lt hi)
  omega

theorem Pending.Holds.rebalance_eq (hp : p.Holds lines b i) (hbi : b < i)
    (hi : i < lines.length) {kept : Pending} {carried : List Text}
    (h : rebalance s p lines[i] (joinedLength (lines[i] :: lines.drop (i + 1))) =
      (kept, carried)) :
    kept.Holds lines b (i - movedLines s lines b i) ∧
      carried = stretch lines (i - movedLines s lines b i) i := by
  have hmoved := movedLines_le s lines b i
  rw [rebalance] at h
  split at h
  next hsmall =>
    rw [hp.length_eq hbi] at hsmall
    obtain ⟨rfl, rfl⟩ := Prod.mk.inj h
    rw [movedLines_eq_zero hbi hi hsmall, Nat.sub_zero]
    exact ⟨hp, (stretch_self lines i).symm⟩
  next =>
    have hnone : i < i → Movable s lines b i (i - i) := fun h => absurd h (Nat.lt_irrefl i)
    have hcarry := carry_eq (s := s) hi hbi (Nat.le_refl i) hnone 0
      fun h => absurd h (Nat.lt_irrefl i)
    have hrest : joinedLength (lines[i] :: lines.drop (i + 1)) =
        stretchLength lines i lines.length := by
      rw [← List.drop_eq_getElem_cons hi, joinedLength_eq_length, stretchLength,
        stretch_length_eq_drop]
    rw [stretch_self] at hcarry
    rw [hp.newestFirst_eq, hp.length_eq hbi, hp.start_eq hbi, hrest, hcarry] at h
    obtain ⟨rfl, rfl⟩ := Prod.mk.inj h
    exact ⟨⟨rfl, fun _ => rfl, fun _ => rfl⟩, rfl⟩

/-- The lines that move fit together with the line that did not fit before. -/
theorem movedLines_fits (hi : i < lines.length) (hshort : s.exceeds lines[i].length = false) :
    s.exceeds (stretchLength lines (i - movedLines s lines b i) (i + 1)) = false := by
  by_cases hnone : movedLines s lines b i = 0
  · rwa [hnone, Nat.sub_zero, stretchLength_single hi]
  · exact (Nat.findGreatest_of_ne_zero rfl hnone).2.1

/-! ## Rules for moving lines -/

/-- A rule for moving lines: of a pending run, the line that does not fit and the joined length of
the span from that line on, it says what stays and which lines move. -/
abbrev MoveRule : Type :=
  Pending → Text → Nat → Pending × List Text

/-- The scan that packs a span, with any rule for moving lines. -/
def scanWith (rule : MoveRule) (s : Sizing) (p : Pending) (index : Nat) : List Text → List Piece
  | [] => p.close true
  | line :: later =>
    if s.exceeds line.length then
      p.close false ++ .longLine index line :: scanWith rule s .empty (index + 1) later
    else if !p.newestFirst.isEmpty && s.exceeds (p.lengthWith line) then
      let (kept, carried) := rule p line (joinedLength (line :: later))
      let next := Pending.ofCarried carried (index - carried.length)
      moveRecord carried index ++ kept.close false
        ++ scanWith rule s (next.push index line) (index + 1) later
    else scanWith rule s (p.push index line) (index + 1) later

theorem scan_eq_scanWith (s : Sizing) (p : Pending) (index : Nat) (lines : List Text) :
    scan s p index lines = scanWith (rebalance s) s p index lines := by
  induction lines generalizing p index with
  | nil => rfl
  | cons line later ih => simp only [scan, scanWith, ih]

/-- From the run from line `b` up to line `i`, a rule moves as many lines as `moved` says: never
all of them, and only lines that fit together with line `i`. -/
structure MoveRule.Moves (rule : MoveRule) (s : Sizing) (lines : List Text)
    (moved : Nat → Nat → Nat) : Prop where
  lt : ∀ {b i}, b < i → moved b i < i - b
  fits : ∀ {b i} (hi : i < lines.length), s.exceeds lines[i].length = false →
    s.exceeds (stretchLength lines (i - moved b i) (i + 1)) = false
  eq : ∀ {p b i kept carried}, Pending.Holds p lines b i → b < i → (hi : i < lines.length) →
    rule p lines[i] (joinedLength (lines[i] :: lines.drop (i + 1))) = (kept, carried) →
      kept.Holds lines b (i - moved b i) ∧ carried = stretch lines (i - moved b i) i

theorem rebalance_moves (s : Sizing) (lines : List Text) :
    MoveRule.Moves (rebalance s) s lines (movedLines s lines) where
  lt := fun hbi => by
    have hmoved := movedLines_le s lines
    exact Nat.lt_of_le_of_lt (hmoved _ _) (by omega)
  fits := movedLines_fits
  eq := fun hp hbi hi h => hp.rebalance_eq hbi hi h

theorem eq_of_mem_moveRecord {carried : List Text} {index : Nat} {p : Piece}
    (h : p ∈ moveRecord carried index) : p = .moved carried.length index := by
  rw [moveRecord] at h
  split at h
  · exact absurd h List.not_mem_nil
  · exact List.mem_singleton.mp h

/-- The pieces that a scan settles from line number `b` on, when `moved b i` lines move from the
run from line `b` up to line `i` to the next one. -/
inductive Settles (s : Sizing) (lines : List Text) (moved : Nat → Nat → Nat) :
    Nat → List Piece → Prop where
  | done : Settles s lines moved lines.length []
  | longLine {b : Nat} {ps : List Piece} (hb : b < lines.length)
      (hlong : s.exceeds lines[b].length = true) (rest : Settles s lines moved (b + 1) ps) :
      Settles s lines moved b (.longLine b lines[b] :: ps)
  | final {b : Nat} (hb : b < lines.length)
      (hfits : s.exceeds (stretchLength lines b lines.length) = false) :
      Settles s lines moved b [.run b (stretch lines b lines.length) true]
  | beforeLongLine {b i : Nat} {ps : List Piece} (hbi : b < i) (hi : i < lines.length)
      (hfits : s.exceeds (stretchLength lines b i) = false)
      (hlong : s.exceeds lines[i].length = true) (rest : Settles s lines moved i ps) :
      Settles s lines moved b (.run b (stretch lines b i) false :: ps)
  | overflow {b i : Nat} {ps : List Piece} (hbi : b < i) (hi : i < lines.length)
      (hfits : s.exceeds (stretchLength lines b i) = false)
      (hshort : s.exceeds lines[i].length = false)
      (hover : s.exceeds (stretchLength lines b (i + 1)) = true)
      (hmoved : moved b i < i - b)
      (hjoined : s.exceeds (stretchLength lines (i - moved b i) (i + 1)) = false)
      (rest : Settles s lines moved (i - moved b i) ps) :
      Settles s lines moved b (moveRecord (stretch lines (i - moved b i) i) i ++
        .run b (stretch lines b (i - moved b i)) false :: ps)

/-- From any state that holds the lines from number `b` on, the scan settles the pieces of `b`. -/
theorem scanWith_settles {rule : MoveRule} {moved : Nat → Nat → Nat}
    (hrule : rule.Moves s lines moved) (hp : p.Holds lines b i) (hbi : b ≤ i)
    (hi : i ≤ lines.length) (hfits : b < i → s.exceeds (stretchLength lines b i) = false) :
    Settles s lines moved b (scanWith rule s p i (lines.drop i)) := by
  -- The induction is on the number of lines that are still to be read.
  generalize hleft : lines.length - i = left
  induction left generalizing p b i with
  | zero =>
    obtain rfl : i = lines.length := by omega
    rw [List.drop_length, scanWith]
    rcases Nat.lt_or_eq_of_le hbi with hlt | rfl
    · rw [hp.close_eq hlt hi]
      exact .final hlt (hfits hlt)
    · rw [hp.close_eq_nil hi]
      exact .done
  | succ left ih =>
    have hlt : i < lines.length := by omega
    rw [List.drop_eq_getElem_cons hlt, scanWith]
    split
    next hlong =>
      have hrest := ih (Pending.empty_holds lines (i + 1)) (Nat.le_refl _) hlt
        (fun h => absurd h (Nat.lt_irrefl _)) (by omega)
      rcases Nat.lt_or_eq_of_le hbi with hbi | rfl
      · rw [hp.close_eq hbi hi]
        exact .beforeLongLine hbi hlt (hfits hbi) hlong (.longLine hlt hlong hrest)
      · rw [hp.close_eq_nil hi]
        exact .longLine hlt hlong hrest
    next hshort =>
      rw [Bool.not_eq_true] at hshort
      rw [hp.lengthWith_eq hbi hlt]
      split
      next hover =>
        rw [Bool.and_eq_true, Bool.not_eq_true', ← Bool.not_eq_true, hp.isEmpty_iff hbi hi] at hover
        obtain ⟨hne, hover⟩ := hover
        have hbi : b < i := by omega
        generalize hbalance : rule p lines[i] _ = balanced
        obtain ⟨kept, carried⟩ := balanced
        obtain ⟨hkept, rfl⟩ := hrule.eq hp hbi hlt hbalance
        have hmoved := hrule.lt hbi
        have hlength : i - (stretch lines (i - moved b i) i).length = i - moved b i := by
          rw [length_stretch hi]
          omega
        have hnext : (Pending.ofCarried (stretch lines (i - moved b i) i)
            (i - moved b i)).Holds lines (i - moved b i) i :=
          Pending.ofCarried_holds (Nat.sub_le _ _) hi
        have hjoined := hrule.fits (b := b) hlt hshort
        have hrest := ih (hnext.push (Nat.sub_le _ _) hlt fun _ => rfl) (by omega) hlt
          (fun _ => hjoined) (by omega)
        simp only [hlength, hkept.close_eq (by omega) (by omega), List.append_assoc,
          List.singleton_append]
        exact .overflow hbi hlt (hfits hbi) hshort hover hmoved hjoined hrest
      next hfit =>
        rw [Bool.and_eq_true, Bool.not_eq_true', ← Bool.not_eq_true, hp.isEmpty_iff hbi hi,
          not_and] at hfit
        refine ih (hp.push hbi hlt fun _ => rfl) (Nat.le_succ_of_le hbi) hlt (fun _ => ?_)
          (by omega)
        rcases Nat.lt_or_eq_of_le hbi with hbi | rfl
        · exact Bool.of_not_eq_true (hfit (by omega))
        · rwa [stretchLength_single hlt]

theorem scanWith_empty_settles {rule : MoveRule} {moved : Nat → Nat → Nat}
    (hrule : rule.Moves s lines moved) (hb : b ≤ lines.length) :
    Settles s lines moved b (scanWith rule s .empty b (lines.drop b)) :=
  scanWith_settles hrule (Pending.empty_holds lines b) (Nat.le_refl b) hb
    fun h => absurd h (Nat.lt_irrefl b)

theorem pieces_settles (s : Sizing) (lines : List Text) :
    Settles s lines (movedLines s lines) 0 (pieces s lines) := by
  have h := scanWith_empty_settles (rebalance_moves s lines) (Nat.zero_le lines.length)
  rwa [List.drop_zero, ← scan_eq_scanWith] at h

theorem Settles.eq_nil {moved : Nat → Nat → Nat} {ps : List Piece}
    (h : Settles s lines moved b ps) (hb : lines.length ≤ b) : ps = [] := by
  cases h with
  | done => rfl
  | longLine hlt | final hlt => exact absurd hlt (Nat.not_lt_of_le hb)
  | beforeLongLine hbi hi | overflow hbi hi => omega

/-- Lines that fit together are one run, the last one. -/
theorem Settles.eq_final {moved : Nat → Nat → Nat} {ps : List Piece}
    (h : Settles s lines moved b ps) (hb : b < lines.length)
    (hfits : s.exceeds (stretchLength lines b lines.length) = false) :
    ps = [.run b (stretch lines b lines.length) true] := by
  cases h with
  | done => exact absurd hb (Nat.lt_irrefl _)
  | longLine _ hlong => exact absurd hlong (not_exceeds_of_fits hb hb (Nat.le_refl _) hfits)
  | final => rfl
  | beforeLongLine hbi hi _ hlong =>
    rw [line_fits hi (Nat.le_of_lt hbi) hi (Nat.le_refl _) hfits] at hlong
    exact Bool.noConfusion hlong
  | overflow hbi hi _ _ hover =>
    rw [fits_within (Nat.le_refl b) (Nat.lt_add_right 1 hbi) hi (Nat.le_refl _) hfits] at hover
    exact Bool.noConfusion hover

/-! ## The plan -/

theorem filter_isCut_moveRecord (carried : List Text) (index : Nat) :
    (moveRecord carried index).filter Piece.isCut = [] := by
  rw [List.filter_eq_nil_iff]
  intro p hp
  rw [eq_of_mem_moveRecord hp]
  exact Bool.false_ne_true

theorem Settles.filter_eq_plan {ps : List Piece} (h : Settles s lines (movedLines s lines) b ps) :
    ps.filter Piece.isCut = plan s lines b := by
  induction h with
  | done => exact plan_length.symm
  | longLine hb hlong _ ih =>
    rw [plan_longLine hb hlong, ← ih]
    rfl
  | final hb hfits =>
    rw [plan_final hb hfits]
    rfl
  | beforeLongLine hbi hi hfits hlong _ ih =>
    rw [plan_before_longLine hbi hi hfits hlong, ← ih]
    rfl
  | overflow hbi hi hfits hshort hover _ _ _ ih =>
    rw [plan_overflow hbi hi hfits hshort hover, ← ih, List.filter_append,
      filter_isCut_moveRecord]
    rfl

theorem filter_pieces_eq_plan (s : Sizing) (lines : List Text) :
    (pieces s lines).filter Piece.isCut = plan s lines 0 :=
  (pieces_settles s lines).filter_eq_plan

/-- The pieces of a packed span tile it. -/
theorem pieces_tile (s : Sizing) (lines : List Text) :
    Tiles s lines 0 lines.length (pieces s lines) := by
  apply Tiles.of_filter
  rw [filter_pieces_eq_plan]
  exact plan_tiles (Nat.zero_le _)

/-- Packing settles the runs and the long lines of the plan, in its order, and no run is empty. -/
theorem pieces_refine_plan (s : Sizing) (lines : List Text) :
    (pieces s lines).filter Piece.isCut = plan s lines 0 ∧
      ∀ start run final, .run start run final ∈ pieces s lines → run ≠ [] := by
  refine ⟨filter_pieces_eq_plan s lines, ?_⟩
  intro start run final hmem
  exact (pieces_tile s lines).run_ne_nil hmem

end SourceBlocks.Packing
