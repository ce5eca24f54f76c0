import SourceBlocks.Proofs.Chunking.Coverage
import SourceBlocks.Proofs.Packing.Greedy

/-!
# Short last blocks

The last block of a span may be short.  When it is, and the lines just before it are a block too,
there was a reason why the last of these lines did not move over to it: the block before would have
lost its only line or become too small, or the last block would have become too long.
-/

namespace SourceBlocks

open Packing Text

namespace Packing

variable {s : Sizing} {lines : List Text} {a b c d i : Nat} {ps : List Piece}

theorem stop_eq_of_stretch_eq (hbc : b < c) (hc : c ≤ lines.length) (hbd : b < d)
    (hd : d ≤ lines.length) (h : stretch lines b c = stretch lines b d) : c = d := by
  have hlength := congrArg List.length h
  rw [length_stretch hc, length_stretch hd] at hlength
  omega

/-- One line more than the lines that move may not move. -/
theorem not_movable_succ (h : movedLines s lines b i + 1 < i - b) :
    ¬ Movable s lines b i (movedLines s lines b i + 1) :=
  Nat.findGreatest_is_greatest (Nat.lt_add_one _) (by omega)

/-- Of a run that a short rest follows, the last line could not move: it is the only one, or the
run would be too small without it, or the rest too long with it. -/
theorem Settles.last_line_stays (h : Settles s lines (movedLines s lines) a ps)
    (hmem : .run b (stretch lines b c) false ∈ ps) (hbc : b < c) (hc : c < lines.length)
    (hfits : s.exceeds (stretchLength lines c lines.length) = false)
    (hshort : stretchLength lines c lines.length < s.limits.minRemainder) :
    b + 1 = c ∨ stretchLength lines b (c - 1) < s.limits.minChars ∨
      s.exceeds (stretchLength lines (c - 1) lines.length) = true := by
  induction h with
  | done => exact absurd hmem List.not_mem_nil
  | longLine _ _ _ ih =>
    rcases List.mem_cons.mp hmem with heq | hmem
    · exact Piece.noConfusion heq
    · exact ih hmem
  | final =>
    obtain ⟨-, -, hfinal⟩ := Piece.run.inj (List.mem_singleton.mp hmem)
    exact Bool.noConfusion hfinal
  | @beforeLongLine a i ps hai hi _ hlong _ ih =>
    rcases List.mem_cons.mp hmem with heq | hmem
    · obtain ⟨rfl, hrun, -⟩ := Piece.run.inj heq
      obtain rfl := stop_eq_of_stretch_eq hbc (Nat.le_of_lt hc) hai (Nat.le_of_lt hi) hrun
      exact absurd hlong (not_exceeds_of_fits hi hi (Nat.le_refl _) hfits)
    · exact ih hmem
  | @overflow a i ps hai hi _ _ _ hmoved _ _ ih =>
    rcases List.mem_append.mp hmem with hrecord | hmem
    · exact Piece.noConfusion (eq_of_mem_moveRecord hrecord)
    rcases List.mem_cons.mp hmem with heq | hmem
    · obtain ⟨rfl, hrun, -⟩ := Piece.run.inj heq
      have hstop : c = i - movedLines s lines b i :=
        stop_eq_of_stretch_eq hbc (Nat.le_of_lt hc) (by omega) (by omega) hrun
      by_cases hone : b + 1 = c
      · exact Or.inl hone
      right
      -- The rest is short, so if the last line could not move, one of the other bounds was met.
      have hstays : ¬ Movable s lines b i (movedLines s lines b i + 1) :=
        not_movable_succ (by omega)
      have hnext : i - (movedLines s lines b i + 1) = c - 1 := by omega
      have hafter : c - 1 + 1 = c := by omega
      rw [Movable, hnext, hafter] at hstays
      by_cases hsmall : stretchLength lines b (c - 1) < s.limits.minChars
      · exact Or.inl hsmall
      · right
        by_contra hover
        have hwhole : s.exceeds (stretchLength lines (c - 1) lines.length) = false :=
          Bool.of_not_eq_true hover
        have hjoined : s.exceeds (stretchLength lines (c - 1) (i + 1)) = false :=
          fits_within (Nat.le_refl _) (by omega) hi (Nat.le_refl _) hwhole
        exact hstays ⟨Nat.le_of_not_lt hsmall, hjoined, hshort⟩
    · exact ih hmem

end Packing

namespace Chunking

/-- A block is the lines from number `a` up to, but without, number `b` of a span. -/
structure IsStretch (span : Span) (lines : List Text) (block : Block) (a b : Nat) : Prop where
  lt : a < b
  le : b ≤ lines.length
  startLine_eq : block.startLine = span.startLine + a
  endLine_eq : block.endLine = span.startLine + b - 1
  code_eq : block.code = joinLines (stretch lines a b)

variable {s : Sizing} {span : Span} {lines : List Text} {admitted : Admitted} {block : Block}

/-- A block that is no segment is a run. -/
theorem exists_isStretch (hblock : block ∈ (chunkLines s span lines admitted).blocks)
    (hrun : block.category = span.baseType) :
    ∃ a b, IsStretch span lines block a b ∧
      s.exceeds (stretchLength lines a b) = false ∧
      .run a (stretch lines a b) (decide (b = lines.length)) ∈ pieces s lines := by
  obtain ⟨d, hd, k, hdraft⟩ := exists_draft_of_mem_settle hblock
  obtain ⟨p, hp, hd⟩ := List.mem_flatMap.mp hd
  cases p with
  | moved count index =>
    rw [drafts, List.mem_singleton] at hd
    exact absurd hdraft (by simp [hd, Draft.block?])
  | longLine index line =>
    obtain ⟨number, code, -, rfl⟩ := exists_of_mem_drafts_longLine hd
    obtain rfl := Option.some.inj hdraft
    exact absurd hrun.symm (baseType_ne_segmentType span)
  | run start run final =>
    obtain ⟨stop, -, -, htile⟩ := (pieces_tile s lines).of_run_mem hp
    cases htile with
    | run hab hb hfits =>
      rcases eq_of_mem_drafts_run hab hb hd with rfl | rfl
      · exact absurd hdraft (by simp [Draft.block?])
      · obtain rfl := Option.some.inj hdraft
        exact ⟨start, stop, ⟨hab, hb, rfl, rfl, rfl⟩, hfits, hp⟩

/-- A last block that is shorter than the shortest remainder worth leaving follows another block
only if the last line of that block could not move to it: the line is all of the block, or the
block would be too small without it, or the last block too long with it. -/
theorem short_tail_unavoidable (s : Sizing) (span : Span) (lines : List Text)
    (admitted : Admitted) (before tail : Block)
    (hbefore : before ∈ (chunkLines s span lines admitted).blocks)
    (htail : tail ∈ (chunkLines s span lines admitted).blocks)
    (hbeforeRun : before.category = span.baseType) (htailRun : tail.category = span.baseType)
    (hadjacent : before.endLine + 1 = tail.startLine)
    (hlast : tail.endLine = span.startLine + lines.length - 1)
    (hshort : tail.code.length < s.limits.minRemainder) :
    ∃ b c, IsStretch span lines before b c ∧ IsStretch span lines tail c lines.length ∧
      (b + 1 = c ∨ (joinLines (stretch lines b (c - 1))).length < s.limits.minChars ∨
        ∃ line, lines[c - 1]? = some line ∧
          s.exceeds (joinLines [line, tail.code]).length = true) := by
  obtain ⟨b, c, hb, -, hpiece⟩ := exists_isStretch hbefore hbeforeRun
  obtain ⟨c', n, hc, hfits, -⟩ := exists_isStretch htail htailRun
  have hbc := hb.lt
  have hcn := hc.lt
  obtain rfl : n = lines.length := by
    have hend := hc.endLine_eq
    have hle := hc.le
    omega
  obtain rfl : c = c' := by
    have hend := hb.endLine_eq
    have hstart := hc.startLine_eq
    omega
  have hnotLast : decide (c = lines.length) = false := decide_eq_false (by omega)
  rw [hnotLast] at hpiece
  rw [hc.code_eq] at hshort ⊢
  have hline : c - 1 < lines.length := by omega
  have hjoined : (joinLines [lines[c - 1], joinLines (stretch lines c lines.length)]).length =
      stretchLength lines (c - 1) lines.length := by
    have hafter : c - 1 + 1 = c := by omega
    rw [stretchLength_eq_cons hline (by omega) (Nat.le_refl _), hafter, stretchLength]
    simp only [joinLines, List.length_append, List.length_cons]
    omega
  refine ⟨b, c, hb, hc, ?_⟩
  rcases (pieces_settles s lines).last_line_stays hpiece hbc hcn hfits hshort with
    hone | hsmall | hover
  · exact Or.inl hone
  · exact Or.inr (Or.inl hsmall)
  · refine Or.inr (Or.inr ⟨lines[c - 1], List.getElem?_eq_getElem hline, ?_⟩)
    rwa [hjoined]

/-- Two lines that fill a block, and a short one that the second of them does not fit with. -/
def filledThenShort : List Text := ["aa".toList, "bbbbbbb".toList, "ccc".toList]

/-- The block of the lines that fill it. -/
def filledBlock : Block :=
  ⟨[], none, [], 1, 2, "aa\nbbbbbbb".toList, [], none, none⟩

/-- The block of the short line. -/
def shortBlock : Block :=
  ⟨[], none, [], 3, 3, "ccc".toList, [], none, none⟩

theorem short_tail_unavoidable_filledThenShort :
    filledBlock ∈ (chunkLines .topped .bare filledThenShort .empty).blocks ∧
      shortBlock ∈ (chunkLines .topped .bare filledThenShort .empty).blocks ∧
      filledBlock.category = Span.bare.baseType ∧ shortBlock.category = Span.bare.baseType ∧
      filledBlock.endLine + 1 = shortBlock.startLine ∧
      shortBlock.endLine = Span.bare.startLine + filledThenShort.length - 1 ∧
      shortBlock.code.length < Sizing.topped.limits.minRemainder ∧
      ∃ b c, IsStretch .bare filledThenShort filledBlock b c ∧
        IsStretch .bare filledThenShort shortBlock c filledThenShort.length ∧
        (b + 1 = c ∨
          (joinLines (stretch filledThenShort b (c - 1))).length < Sizing.topped.limits.minChars ∨
          ∃ line, filledThenShort[c - 1]? = some line ∧
            Sizing.topped.exceeds (joinLines [line, shortBlock.code]).length = true) := by
  have hblocks : (chunkLines .topped .bare filledThenShort .empty).blocks =
      [filledBlock, shortBlock] := by decide +kernel
  have hfilled : filledBlock ∈ (chunkLines .topped .bare filledThenShort .empty).blocks := by
    rw [hblocks]
    exact List.mem_cons_self
  have hshort : shortBlock ∈ (chunkLines .topped .bare filledThenShort .empty).blocks := by
    rw [hblocks]
    exact List.mem_cons_of_mem _ List.mem_cons_self
  exact ⟨hfilled, hshort, rfl, rfl, rfl, rfl, by decide,
    short_tail_unavoidable .topped .bare filledThenShort .empty filledBlock shortBlock hfilled hshort
      rfl rfl rfl rfl (by decide)⟩

end Chunking

end SourceBlocks
