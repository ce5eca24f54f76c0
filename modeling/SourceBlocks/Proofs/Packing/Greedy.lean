import SourceBlocks.Proofs.Packing.Scan

/-!
# Moving lines against packing greedily

Packed greedily, a span is cut by the same scan with a rule that moves no line.  Greedy packing from
a later line on never takes more runs, so moving lines never saves a run.  It may cost one: the
lines that move fit together with the line that did not fit before, but maybe not with the whole
rest of the span.  The main statement counts the runs exactly: they are those of greedy packing, and
one more for each move that costs a run.
-/

namespace SourceBlocks

/-- Blocks of ten characters, of which the smallest has one.  A rest of less than five characters
is filled up. -/
def Limits.topped : Limits where
  maxChars := 10
  minChars := 1
  minRemainder := 5
  tolerance := .one
  minChars_pos := Nat.one_pos
  minChars_le_maxChars := Nat.succ_pos 9
  minRemainder_pos := Nat.succ_pos 4
  tolerance_not_lt_one := rfl

/-- The sizing of the topped limits. -/
def Sizing.topped : Sizing :=
  ⟨.topped, .finite false (10 * 2 ^ 49) (-49)⟩

theorem Sizing.ofLimits?_topped : Sizing.ofLimits? .topped = some .topped := by
  have hthreshold : Limits.topped.threshold? = some Sizing.topped.threshold := by decide +kernel
  rw [Sizing.ofLimits?, hthreshold]
  rfl

namespace Packing

open Text

/-- Whether a piece is a run. -/
def Piece.isRun : Piece → Bool
  | .run .. => true
  | _ => false

/-- The number of runs among pieces. -/
def runCount (ps : List Piece) : Nat :=
  ps.countP Piece.isRun

/-- The rule that moves no line. -/
def moveNone : MoveRule :=
  fun p _ _ => (p, [])

/-- The pieces of the lines from number `a` on, packed greedily. -/
def greedyFrom (s : Sizing) (lines : List Text) (a : Nat) : List Piece :=
  scanWith moveNone s .empty a (lines.drop a)

/-- Whether a piece records a move that costs a run: packed greedily, the lines from the first
moved one on take more runs than the lines from the one that did not fit on. -/
def costsRun (s : Sizing) (lines : List Text) : Piece → Bool
  | .moved count index =>
    decide (runCount (greedyFrom s lines index) < runCount (greedyFrom s lines (index - count)))
  | _ => false

/-- The number of runs that the lines from number `b` on take, packed greedily. -/
def greedyRuns (s : Sizing) (lines : List Text) (b : Nat) : Nat :=
  if hb : b < lines.length then
    if s.exceeds lines[b].length then greedyRuns s lines (b + 1)
    else greedyRuns s lines (runEnd s hb) + 1
  else 0
  termination_by lines.length - b
  decreasing_by
    · omega
    · have hend := lt_runEnd s hb
      omega

variable {s : Sizing} {lines : List Text} {moved : Nat → Nat → Nat} {a b i k : Nat}
  {ps : List Piece}

/-! ## Counting runs -/

@[simp] theorem runCount_nil : runCount [] = 0 := rfl

@[simp] theorem runCount_run (start : Nat) (run : List Text) (final : Bool) (ps : List Piece) :
    runCount (.run start run final :: ps) = runCount ps + 1 :=
  List.countP_cons_of_pos rfl

@[simp] theorem runCount_longLine (index : Nat) (line : Text) (ps : List Piece) :
    runCount (.longLine index line :: ps) = runCount ps :=
  List.countP_cons_of_neg Bool.false_ne_true

@[simp] theorem runCount_moveRecord (carried : List Text) (index : Nat) (ps : List Piece) :
    runCount (moveRecord carried index ++ ps) = runCount ps := by
  unfold moveRecord
  split <;> simp [runCount, Piece.isRun]

theorem moveRecord_stretch (hk : k ≤ i) (hi : i ≤ lines.length) :
    moveRecord (stretch lines (i - k) i) i = if k = 0 then [] else [.moved k i] := by
  have hlength : (stretch lines (i - k) i).length = k := by
    rw [length_stretch hi]
    omega
  have hempty : (stretch lines (i - k) i).isEmpty = true ↔ k = 0 := by
    rw [List.isEmpty_iff, ← List.length_eq_zero_iff, hlength]
  simp only [moveRecord, hempty, hlength]

/-! ## Greedy packing -/

theorem moveNone_moves (s : Sizing) (lines : List Text) :
    MoveRule.Moves moveNone s lines fun _ _ => 0 where
  lt := Nat.sub_pos_of_lt
  fits := fun hi hshort => by rwa [Nat.sub_zero, stretchLength_single hi]
  eq := fun {_ _ i _ _} hp _ _ h => by
    obtain ⟨rfl, rfl⟩ := Prod.mk.inj h
    exact ⟨hp, (stretch_self lines i).symm⟩

theorem greedyFrom_settles (s : Sizing) (ha : a ≤ lines.length) :
    Settles s lines (fun _ _ => 0) a (greedyFrom s lines a) :=
  scanWith_empty_settles (moveNone_moves s lines) ha

theorem greedyRuns_length : greedyRuns s lines lines.length = 0 := by
  rw [greedyRuns, dif_neg (Nat.lt_irrefl _)]

theorem greedyRuns_longLine (hb : b < lines.length) (hlong : s.exceeds lines[b].length = true) :
    greedyRuns s lines b = greedyRuns s lines (b + 1) := by
  rw [greedyRuns, dif_pos hb, if_pos hlong]

theorem greedyRuns_short (hb : b < lines.length) (hshort : s.exceeds lines[b].length = false) :
    greedyRuns s lines b = greedyRuns s lines (runEnd s hb) + 1 := by
  rw [greedyRuns, dif_pos hb, if_neg (by simp [hshort])]

theorem greedyRuns_run (hbi : b < i) (hi : i ≤ lines.length)
    (hfits : s.exceeds (stretchLength lines b i) = false) (hblocked : Blocked s lines b i) :
    greedyRuns s lines b = greedyRuns s lines i + 1 := by
  have hb : b < lines.length := Nat.lt_of_lt_of_le hbi hi
  have hshort : s.exceeds lines[b].length = false := line_fits hb (Nat.le_refl b) hbi hi hfits
  rw [greedyRuns_short hb hshort, runEnd_eq hb hbi hi hfits hblocked]

theorem blocked_of_long (hi : i < lines.length) (hlong : s.exceeds lines[i].length = true) :
    Blocked s lines b i :=
  Or.inr (Or.inl (by rwa [List.getD_eq_getElem _ _ hi]))

/-- When no line moves, the scan makes the greedy runs. -/
theorem Settles.runCount_greedy (h : Settles s lines (fun _ _ => 0) b ps) :
    runCount ps = greedyRuns s lines b := by
  induction h with
  | done => rw [greedyRuns_length, runCount_nil]
  | longLine hb hlong _ ih => rw [runCount_longLine, greedyRuns_longLine hb hlong, ih]
  | final hb hfits =>
    rw [greedyRuns_run hb (Nat.le_refl _) hfits (Or.inl rfl), greedyRuns_length, runCount_run,
      runCount_nil]
  | beforeLongLine hbi hi hfits hlong _ ih =>
    rw [greedyRuns_run hbi (Nat.le_of_lt hi) hfits (blocked_of_long hi hlong), runCount_run, ih]
  | overflow hbi hi hfits _ hover _ _ _ ih =>
    rw [greedyRuns_run hbi (Nat.le_of_lt hi) hfits (Or.inr (Or.inr hover)), runCount_moveRecord,
      runCount_run, ih, Nat.sub_zero]

theorem runCount_greedyFrom (s : Sizing) (ha : a ≤ lines.length) :
    runCount (greedyFrom s lines a) = greedyRuns s lines a :=
  (greedyFrom_settles s ha).runCount_greedy

/-- A run that begins later does not end earlier. -/
theorem runEnd_mono (ha : a < lines.length) (hb : b < lines.length) (hab : a ≤ b) :
    runEnd s ha ≤ runEnd s hb := by
  have hend := lt_runEnd s hb
  apply Nat.find_min' (exists_blocked s ha)
  refine ⟨Nat.lt_of_le_of_lt hab hend, ?_⟩
  rcases Nat.lt_or_eq_of_le (runEnd_le s hb) with hlt | heq
  · rcases (Nat.find_spec (exists_blocked s hb)).2 with hall | hlong | hover
    · exact Or.inl hall
    · exact Or.inr (Or.inl hlong)
    · have hle := stretchLength_mono hab (Nat.lt_add_right 1 hend) (Nat.le_refl _) hlt
      exact Or.inr (Or.inr (s.exceeds_mono hle hover))
  · exact Or.inl heq

/-- Greedy packing from a later line on takes no more runs. -/
theorem greedyRuns_antitone (hab : a ≤ b) (hb : b ≤ lines.length) :
    greedyRuns s lines b ≤ greedyRuns s lines a := by
  fun_induction greedyRuns s lines a generalizing b with
  | case1 a ha hlong ih =>
    by_cases heq : a = b
    · rw [← heq, greedyRuns_longLine ha hlong]
    · exact ih (by omega) hb
  | case2 a ha hshort ih =>
    by_cases hend : runEnd s ha ≤ b
    · exact Nat.le_succ_of_le (ih hend hb)
    · -- Line `b` lies in the run that begins at line `a`.
      have hlt : b < lines.length := Nat.lt_of_lt_of_le (Nat.lt_of_not_le hend) (runEnd_le s ha)
      have hfits := fits_of_le_runEnd (i := b + 1) ha hshort (by omega) (by omega) hlt
      have hline : s.exceeds lines[b].length = false :=
        line_fits hlt hab (Nat.lt_add_one b) hlt hfits
      rw [greedyRuns_short hlt hline]
      exact Nat.succ_le_succ (ih (runEnd_mono ha hlt hab) (runEnd_le s hlt))
  | case3 a ha =>
    obtain rfl : b = lines.length := by omega
    rw [greedyRuns_length]

/-- Lines that fit in one run take at most one run more than what follows them. -/
theorem greedyRuns_le_succ (hai : a < i) (hi : i ≤ lines.length)
    (hfits : s.exceeds (stretchLength lines a i) = false) :
    greedyRuns s lines a ≤ greedyRuns s lines i + 1 := by
  have ha : a < lines.length := Nat.lt_of_lt_of_le hai hi
  have hshort : s.exceeds lines[a].length = false := line_fits ha (Nat.le_refl a) hai hi hfits
  have hend : i ≤ runEnd s ha := by
    by_contra hlt
    have hblocked := (Nat.find_spec (exists_blocked s ha)).2
    exact not_blocked_of_fits (lt_runEnd s ha) (Nat.lt_of_not_le hlt) hi hfits hblocked
  rw [greedyRuns_short ha hshort]
  exact Nat.succ_le_succ (greedyRuns_antitone hend (runEnd_le s ha))

/-! ## What moves cost -/

theorem costsRun_moved (hi : i ≤ lines.length) :
    costsRun s lines (.moved k i) = true ↔
      greedyRuns s lines i < greedyRuns s lines (i - k) := by
  rw [costsRun, decide_eq_true_eq, runCount_greedyFrom s hi,
    runCount_greedyFrom s (Nat.le_trans (Nat.sub_le i k) hi)]

theorem countP_costsRun_moveRecord (hk : k ≤ i) (hi : i ≤ lines.length) :
    (moveRecord (stretch lines (i - k) i) i).countP (costsRun s lines) =
      if greedyRuns s lines i < greedyRuns s lines (i - k) then 1 else 0 := by
  rw [moveRecord_stretch hk hi]
  by_cases hnone : k = 0
  · simp [hnone]
  · rw [if_neg hnone, List.countP_singleton]
    simp only [costsRun_moved hi]

/-- Whatever rule moves the lines, the runs are the greedy ones and those that moves cost. -/
theorem Settles.runCount_eq (h : Settles s lines moved b ps) :
    runCount ps = greedyRuns s lines b + ps.countP (costsRun s lines) := by
  induction h with
  | done => simp [greedyRuns_length]
  | longLine hb hlong _ ih => simp [greedyRuns_longLine hb hlong, ih, costsRun]
  | final hb hfits =>
    simp [greedyRuns_run hb (Nat.le_refl _) hfits (Or.inl rfl), greedyRuns_length, costsRun]
  | beforeLongLine hbi hi hfits hlong _ ih =>
    have hstep := greedyRuns_run hbi (Nat.le_of_lt hi) hfits (blocked_of_long hi hlong)
    rw [runCount_run, ih, hstep, List.countP_cons_of_neg (by simp [costsRun])]
    omega
  | @overflow b i ps hbi hi hfits _ hover hmoved hjoined _ ih =>
    have hstep := greedyRuns_run hbi (Nat.le_of_lt hi) hfits (Or.inr (Or.inr hover))
    have hleast : greedyRuns s lines i ≤ greedyRuns s lines (i - moved b i) :=
      greedyRuns_antitone (Nat.sub_le _ _) (Nat.le_of_lt hi)
    have hmost : greedyRuns s lines (i - moved b i) ≤ greedyRuns s lines i + 1 := by
      by_cases hnone : moved b i = 0
      · rw [hnone]
        exact Nat.le_succ _
      · have hcarried : s.exceeds (stretchLength lines (i - moved b i) i) = false :=
          fits_within (Nat.le_refl _) (by omega) (Nat.le_succ i) hi hjoined
        exact greedyRuns_le_succ (by omega) (Nat.le_of_lt hi) hcarried
    rw [runCount_moveRecord, runCount_run, ih, hstep, List.countP_append,
      countP_costsRun_moveRecord (by omega) (Nat.le_of_lt hi),
      List.countP_cons_of_neg (by simp [costsRun])]
    split <;> omega

/-! ## When moves cost nothing -/

theorem Settles.lt_of_moved_mem {count index : Nat} (h : Settles s lines moved b ps)
    (hmem : .moved count index ∈ ps) : index < lines.length := by
  induction h with
  | done => exact absurd hmem List.not_mem_nil
  | longLine _ _ _ ih | beforeLongLine _ _ _ _ _ ih =>
    rcases List.mem_cons.mp hmem with heq | hmem
    · exact Piece.noConfusion heq
    · exact ih hmem
  | final => exact Piece.noConfusion (List.mem_singleton.mp hmem)
  | @overflow b i ps hbi hi _ _ _ hmoved _ _ ih =>
    rcases List.mem_append.mp hmem with hrecord | hmem
    · obtain ⟨-, rfl⟩ := Piece.moved.inj (eq_of_mem_moveRecord hrecord)
      exact hi
    · rcases List.mem_cons.mp hmem with heq | hmem
      · exact Piece.noConfusion heq
      · exact ih hmem

theorem greedyRuns_of_fits (hb : b < lines.length)
    (hfits : s.exceeds (stretchLength lines b lines.length) = false) :
    greedyRuns s lines b = 1 := by
  rw [greedyRuns_run hb (Nat.le_refl _) hfits (Or.inl rfl), greedyRuns_length]

/-- A move costs nothing if the moved lines fit together with the whole rest of the span. -/
theorem not_costsRun_of_fits (hi : i < lines.length)
    (hfits : s.exceeds (stretchLength lines (i - k) lines.length) = false) :
    ¬ costsRun s lines (.moved k i) = true := by
  have hrest : s.exceeds (stretchLength lines i lines.length) = false :=
    fits_within (Nat.sub_le i k) hi (Nat.le_refl _) (Nat.le_refl _) hfits
  rw [costsRun_moved (Nat.le_of_lt hi), greedyRuns_of_fits (by omega) hfits,
    greedyRuns_of_fits hi hrest]
  exact Nat.lt_irrefl 1

/-- Lines that fit in one run but for the first of them take at most two. -/
theorem Settles.runCount_le_two (h : Settles s lines moved b ps)
    (hrest : s.exceeds (stretchLength lines (b + 1) lines.length) = false) :
    runCount ps ≤ 2 := by
  have hone : ∀ {a qs}, Settles s lines moved a qs → b < a → runCount qs ≤ 1 := by
    intro a qs hqs hba
    by_cases ha : a < lines.length
    · rw [hqs.eq_final ha (fits_within hba ha (Nat.le_refl _) (Nat.le_refl _) hrest)]
      exact Nat.le_refl 1
    · rw [hqs.eq_nil (Nat.le_of_not_lt ha)]
      exact Nat.zero_le 1
  cases h with
  | done => exact Nat.zero_le 2
  | longLine _ _ rest =>
    rw [runCount_longLine]
    exact Nat.le_succ_of_le (hone rest (Nat.lt_add_one b))
  | final => exact Nat.le_succ 1
  | beforeLongLine hbi _ _ _ rest =>
    rw [runCount_run]
    exact Nat.succ_le_succ (hone rest hbi)
  | overflow hbi _ _ _ _ hmoved _ rest =>
    rw [runCount_moveRecord, runCount_run]
    exact Nat.succ_le_succ (hone rest (by omega))

/-- If every rest that is to be filled up fits in one run, moves cost at most one run: after the
first move, only the first of the moved lines may be too much for a single run. -/
theorem Settles.countP_costsRun_le_one (hrest : s.exceeds (s.limits.minRemainder - 1) = false)
    (h : Settles s lines (movedLines s lines) b ps) : ps.countP (costsRun s lines) ≤ 1 := by
  induction h with
  | done => exact Nat.zero_le 1
  | longLine _ _ _ ih | beforeLongLine _ _ _ _ _ ih =>
    rwa [List.countP_cons_of_neg (by simp [costsRun])]
  | final => exact Nat.zero_le 1
  | @overflow b i ps hbi hi _ hshort _ hmoved _ rest ih =>
    rw [List.countP_append, countP_costsRun_moveRecord (by omega) (Nat.le_of_lt hi),
      List.countP_cons_of_neg (by simp [costsRun])]
    by_cases hcosts : greedyRuns s lines i < greedyRuns s lines (i - movedLines s lines b i)
    · have hsome : movedLines s lines b i ≠ 0 := by
        intro hnone
        rw [hnone] at hcosts
        exact Nat.lt_irrefl _ hcosts
      have hmovable : Movable s lines b i (movedLines s lines b i) :=
        Nat.findGreatest_of_ne_zero rfl hsome
      have hfits := fits_of_le (Nat.le_sub_one_of_lt hmovable.2.2) hrest
      have hruns := rest.runCount_eq
      have hmost := rest.runCount_le_two hfits
      have hpos : 0 < greedyRuns s lines i := by
        rw [greedyRuns_short hi hshort]
        exact Nat.succ_pos _
      rw [if_pos hcosts]
      omega
    · rw [if_neg hcosts, Nat.zero_add]
      exact ih

/-- The runs of a packed span are those that greedy packing makes, and one more for each move that
costs a run.  A move costs nothing if the moved lines fit together with the whole rest of the span,
and at most one move costs a run if every rest that is to be filled up fits in one run. -/
theorem runs_eq_greedy_add_costs (s : Sizing) (lines : List Text) :
    runCount (pieces s lines) =
        runCount (greedyFrom s lines 0) + (pieces s lines).countP (costsRun s lines) ∧
      (∀ count index, .moved count index ∈ pieces s lines →
        s.exceeds (stretchLength lines (index - count) lines.length) = false →
          ¬ costsRun s lines (.moved count index) = true) ∧
      (s.exceeds (s.limits.minRemainder - 1) = false →
        (pieces s lines).countP (costsRun s lines) ≤ 1) := by
  have hsettles := pieces_settles s lines
  refine ⟨?_, ?_, ?_⟩
  · rw [runCount_greedyFrom s (Nat.zero_le _)]
    exact hsettles.runCount_eq
  · intro count index hmem hfits
    exact not_costsRun_of_fits (hsettles.lt_of_moved_mem hmem) hfits
  · intro hrest
    exact hsettles.countP_costsRun_le_one hrest

/-- Lines of which the first two take one run packed greedily, and the other two one. -/
def pulledApart : List Text := ["a".toList, "bbbbbbb".toList, "c".toList, "d".toList]

/-- The second line moves to the third, and then the third to the fourth: three runs in place of
two. -/
theorem pulledApart_takes_more_runs :
    Sizing.ofLimits? .topped = some .topped ∧
      ¬ runCount (pieces .topped pulledApart) ≤ runCount (greedyFrom .topped pulledApart 0) :=
  ⟨Sizing.ofLimits?_topped, by decide⟩

theorem runs_eq_greedy_add_costs_pulledApart :
    runCount (pieces .topped pulledApart) = runCount (greedyFrom .topped pulledApart 0) +
        (pieces .topped pulledApart).countP (costsRun .topped pulledApart) ∧
      .moved 1 3 ∈ pieces .topped pulledApart ∧
      Sizing.topped.exceeds (stretchLength pulledApart (3 - 1) pulledApart.length) = false ∧
      ¬ costsRun .topped pulledApart (.moved 1 3) = true ∧
      Sizing.topped.exceeds (Sizing.topped.limits.minRemainder - 1) = false ∧
      (pieces .topped pulledApart).countP (costsRun .topped pulledApart) ≤ 1 := by
  obtain ⟨hcount, hfree, hmost⟩ := runs_eq_greedy_add_costs .topped pulledApart
  have hmem : .moved 1 3 ∈ pieces .topped pulledApart := by decide
  have hfits : Sizing.topped.exceeds (stretchLength pulledApart (3 - 1) pulledApart.length) =
      false := by decide
  have hrest : Sizing.topped.exceeds (Sizing.topped.limits.minRemainder - 1) = false := by decide
  exact ⟨hcount, hmem, hfits, hfree 1 3 hmem hfits, hrest, hmost hrest⟩

end Packing

end SourceBlocks
