import SourceBlocks.Proofs.Packing.Plan

/-!
# Pieces tile the span

The pieces of a plan stand side by side: each begins where the one before it ends, together they
cover every line, no run is empty or too long, and only the run that ends the span is final.
-/

namespace SourceBlocks.Packing

open Text

variable {s : Sizing} {lines : List Text} {a b c i : Nat} {p : Piece} {ps qs : List Piece}

/-- A piece that is the lines from number `a` up to, but without, number `b`: a run that fits, or a
line that is too long. -/
inductive Tile (s : Sizing) (lines : List Text) : Nat → Nat → Piece → Prop where
  | run {a b : Nat} (hab : a < b) (hb : b ≤ lines.length)
      (hfits : s.exceeds (stretchLength lines a b) = false) :
      Tile s lines a b (.run a (stretch lines a b) (decide (b = lines.length)))
  | longLine {a : Nat} (ha : a < lines.length) (hlong : s.exceeds lines[a].length = true) :
      Tile s lines a (a + 1) (.longLine a lines[a])

/-- Pieces that cut the lines from number `a` up to, but without, number `c` in order and without
gaps.  Records of moves may stand anywhere between them. -/
inductive Tiles (s : Sizing) (lines : List Text) : Nat → Nat → List Piece → Prop where
  | nil (a : Nat) : Tiles s lines a a []
  | cons {a b c : Nat} {p : Piece} {ps : List Piece} (first : Tile s lines a b p)
      (rest : Tiles s lines b c ps) : Tiles s lines a c (p :: ps)
  | moved {a c : Nat} {ps : List Piece} (count index : Nat) (rest : Tiles s lines a c ps) :
      Tiles s lines a c (.moved count index :: ps)

theorem fits_of_le_runEnd (hb : b < lines.length) (hshort : ¬ s.exceeds lines[b].length = true)
    (hbi : b < i) (hi : i ≤ runEnd s hb) (hlen : i ≤ lines.length) :
    s.exceeds (stretchLength lines b i) = false := by
  obtain ⟨i, rfl⟩ := Nat.exists_eq_add_of_lt hbi
  rcases Nat.eq_zero_or_pos i with rfl | hpos
  · rw [Nat.add_zero, stretchLength_single hb]
    exact Bool.of_not_eq_true hshort
  · have hopen := Nat.find_min (exists_blocked s hb) (m := b + i) (Nat.lt_of_succ_le hi)
    by_contra hover
    exact hopen ⟨by omega, Or.inr (Or.inr (by simpa using hover))⟩

theorem runEnd_le (s : Sizing) (hb : b < lines.length) : runEnd s hb ≤ lines.length :=
  Nat.find_min' (exists_blocked s hb) ⟨hb, Or.inl rfl⟩

theorem plan_tiles (hle : b ≤ lines.length) : Tiles s lines b lines.length (plan s lines b) := by
  fun_induction plan s lines b with
  | case1 b hb hlong ih => exact .cons (.longLine hb hlong) (ih hb)
  | case2 b hb hshort hi hlong ih =>
    have hfits := fits_of_le_runEnd hb hshort (lt_runEnd s hb) (Nat.le_refl _) (Nat.le_of_lt hi)
    have hnext : decide (runEnd s hb = lines.length) = false := decide_eq_false (by omega)
    rw [← hnext]
    exact .cons (.run (lt_runEnd s hb) (Nat.le_of_lt hi) hfits)
      (.cons (.longLine hi hlong) (ih hi))
  | case3 b hb hshort hi hnot next ih =>
    have hend := lt_runEnd s hb
    have hmoved := movedLines_le s lines b (runEnd s hb)
    have hfits := fits_of_le_runEnd (i := next) hb hshort (by omega) (by omega) (by omega)
    have hnext : decide (next = lines.length) = false := decide_eq_false (by omega)
    rw [← hnext]
    exact .cons (.run (by omega) (by omega) hfits) (ih (by omega))
  | case4 b hb hshort hi =>
    have hend : runEnd s hb = lines.length := Nat.le_antisymm (runEnd_le s hb) (by omega)
    have hfits := fits_of_le_runEnd hb hshort hb (by omega) (Nat.le_refl _)
    rw [← decide_eq_true (rfl : lines.length = lines.length)]
    exact .cons (.run hb (Nat.le_refl _) hfits) (.nil _)
  | case5 b hge =>
    obtain rfl : b = lines.length := by omega
    exact .nil _

/-! ## Reading a tiling -/

theorem Tile.lt (h : Tile s lines a b p) : a < b := by
  cases h with
  | run hab => exact hab
  | longLine => exact Nat.lt_add_one a

theorem Tiles.le (h : Tiles s lines a c ps) : a ≤ c := by
  induction h with
  | nil a => exact Nat.le_refl a
  | cons first _ ih => exact Nat.le_trans (Nat.le_of_lt first.lt) ih
  | moved _ _ _ ih => exact ih

/-- Records of moves may be put back into a tiling. -/
theorem Tiles.of_filter (h : Tiles s lines a c (ps.filter Piece.isCut)) : Tiles s lines a c ps := by
  induction ps generalizing a with
  | nil => exact h
  | cons p ps ih =>
    cases p with
    | moved count index => exact .moved count index (ih h)
    | run start run final =>
      cases h with
      | cons first rest => exact .cons first (ih rest)
    | longLine index line =>
      cases h with
      | cons first rest => exact .cons first (ih rest)

/-- Each line lies in one piece, with a tiling on either side of it. -/
theorem Tiles.exists_owner (h : Tiles s lines a c ps) (hai : a ≤ i) (hic : i < c) :
    ∃ before p after lo hi, ps = before ++ p :: after ∧ Tiles s lines a lo before ∧
      Tile s lines lo hi p ∧ Tiles s lines hi c after ∧ lo ≤ i ∧ i < hi := by
  induction h with
  | nil a => omega
  | @cons a b c p ps first rest ih =>
    rcases Nat.lt_or_ge i b with hib | hbi
    · exact ⟨[], p, ps, a, b, rfl, .nil a, first, rest, hai, hib⟩
    · obtain ⟨before, q, after, lo, hi, rfl, hbefore, hq, hafter, hlo, hhi⟩ := ih hbi hic
      exact ⟨p :: before, q, after, lo, hi, rfl, .cons first hbefore, hq, hafter, hlo, hhi⟩
  | moved count index _ ih =>
    obtain ⟨before, q, after, lo, hi, rfl, hbefore, hq, hafter, hlo, hhi⟩ := ih hai hic
    exact ⟨_ :: before, q, after, lo, hi, rfl, .moved count index hbefore, hq, hafter, hlo, hhi⟩

/-- A run of a tiling is a stretch of its lines. -/
theorem Tiles.of_run_mem (h : Tiles s lines a c ps) {start : Nat} {run : List Text} {final : Bool}
    (hmem : .run start run final ∈ ps) :
    ∃ stop, a ≤ start ∧ stop ≤ c ∧ Tile s lines start stop (.run start run final) := by
  induction h with
  | nil => exact absurd hmem List.not_mem_nil
  | cons first rest ih =>
    rcases List.mem_cons.mp hmem with rfl | hmem
    · cases first with
      | run hab hb hfits => exact ⟨_, Nat.le_refl _, rest.le, .run hab hb hfits⟩
    · obtain ⟨stop, hstart, hstop, htile⟩ := ih hmem
      exact ⟨stop, Nat.le_trans (Nat.le_of_lt first.lt) hstart, hstop, htile⟩
  | moved _ _ _ ih =>
    rcases List.mem_cons.mp hmem with heq | hmem
    · exact Piece.noConfusion heq
    · exact ih hmem

theorem Tiles.run_ne_nil (h : Tiles s lines a c ps) {start : Nat} {run : List Text} {final : Bool}
    (hmem : .run start run final ∈ ps) : run ≠ [] := by
  obtain ⟨stop, -, -, htile⟩ := h.of_run_mem hmem
  cases htile with
  | run hab hb => exact stretch_ne_nil hab hb

end SourceBlocks.Packing
