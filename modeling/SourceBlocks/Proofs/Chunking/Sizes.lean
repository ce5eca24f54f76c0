import SourceBlocks.Proofs.Binary64
import SourceBlocks.Proofs.Chunking.Coverage

/-!
# Sizes of blocks

Which sizes the blocks of a packed span can have, whatever was admitted before.  A run is never
empty and never longer than the threshold, and one below the smallest size ends the span, so there
is at most one of these.  A segment is the slice of its line that its number says; only the last
slice of a line may be shorter than the largest size.
-/

namespace SourceBlocks.Chunking

open Packing Text

/-- A block is a run of a span with a size that runs may have. -/
structure IsSizedRun (s : Sizing) (span : Span) (lines : List Text) (block : Block) : Prop where
  category_eq : block.category = span.baseType
  pos : 0 < block.code.length
  le_threshold : s.threshold.AtLeast block.code.length
  last_of_small : block.code.length < s.limits.minChars →
    block.endLine = span.startLine + lines.length - 1

/-- A block is the slice with this number, counted from zero, of line number `i` of a span. -/
structure IsSlice (s : Sizing) (span : Span) (lines : List Text) (i number : Nat) (line : Text)
    (block : Block) : Prop where
  category_eq : block.category = span.baseType ++ "_line_segment".toList
  line_eq : lines[i]? = some line
  long : s.threshold.ltNat line.length = true
  startLine_eq : block.startLine = span.startLine + i
  endLine_eq : block.endLine = span.startLine + i
  name_eq : block.name = some (segmentName span (span.startLine + i) number)
  code_eq : block.code = (line.drop (number * s.limits.maxChars)).take s.limits.maxChars
  pos : 0 < block.code.length
  le_maxChars : block.code.length ≤ s.limits.maxChars
  last_of_small : block.code.length < s.limits.maxChars →
    line.length ≤ (number + 1) * s.limits.maxChars

/-- Whether a block is a run below the smallest size. -/
def isSmallRun (s : Sizing) (span : Span) (block : Block) : Bool :=
  decide (block.category = span.baseType ∧ block.code.length < s.limits.minChars)

variable {s : Sizing} {span : Span} {lines : List Text} {a b k : Nat} {p : Piece} {d : Draft}
  {block : Block} {admitted : Admitted}

theorem isSizedRun_of_tile (hT : s.threshold ≠ .nan) (hab : a < b) (hb : b ≤ lines.length)
    (hfits : s.exceeds (stretchLength lines a b) = false)
    (hd : d ∈ drafts s.limits span (.run a (stretch lines a b) (decide (b = lines.length))))
    (hblock : d.block? span k = some block) : IsSizedRun s span lines block := by
  rw [drafts_run hab hb] at hd
  split at hd
  next => exact absurd hd List.not_mem_nil
  next hfull =>
    split at hd
    next =>
      obtain rfl := List.mem_singleton.mp hd
      exact absurd hblock (by simp [Draft.block?])
    next hlarge =>
      obtain rfl := List.mem_singleton.mp hd
      obtain rfl := Option.some.inj hblock
      refine ⟨rfl, List.length_pos_iff.mpr hfull, Binary64.atLeast_of_ltNat_eq_false hT hfits, ?_⟩
      intro hsmall
      have hlast : b = lines.length := by
        by_contra hne
        exact hlarge ⟨hsmall, decide_eq_false hne⟩
      rw [← hlast]
      rfl

theorem isSlice_of_tile (ha : a < lines.length) (hlong : s.exceeds lines[a].length = true)
    (hd : d ∈ drafts s.limits span (.longLine a lines[a]))
    (hblock : d.block? span k = some block) :
    ∃ number, IsSlice s span lines a number lines[a] block := by
  obtain ⟨number, code, hcode, rfl⟩ := exists_of_mem_drafts_longLine hd
  obtain rfl := Option.some.inj hblock
  obtain ⟨hslice, hstart⟩ := segment_eq_slice hcode
  have hlength : code.length =
      min s.limits.maxChars (lines[a].length - number * s.limits.maxChars) := by
    rw [hslice, List.length_take, List.length_drop]
  have hmax := s.limits.maxChars_pos
  refine ⟨number, rfl, List.getElem?_eq_getElem ha, hlong, rfl, rfl, rfl, hslice, ?_, ?_, ?_⟩
  · exact Nat.lt_of_lt_of_eq (Nat.lt_min.mpr ⟨hmax, Nat.sub_pos_of_lt hstart⟩) hlength.symm
  · exact Nat.le_trans (Nat.le_of_eq hlength) (Nat.min_le_left _ _)
  · intro hsmall
    have hrest : lines[a].length - number * s.limits.maxChars < s.limits.maxChars := by
      by_contra hge
      rw [Nat.min_eq_left (Nat.le_of_not_lt hge)] at hlength
      exact absurd hlength (Nat.ne_of_lt hsmall)
    rw [Nat.succ_mul]
    omega

/-- Every block of a packed span comes from a run or from a line that is too long. -/
theorem isSizedRun_or_isSlice (hT : s.threshold ≠ .nan)
    (hblock : block ∈ (chunkLines s span lines admitted).blocks) :
    IsSizedRun s span lines block ∨
      ∃ i number line, IsSlice s span lines i number line block := by
  obtain ⟨d, hd, k, hdraft⟩ := exists_draft_of_mem_settle hblock
  rcases exists_tile_of_mem_drafts (pieces_tile s lines) hd with
    ⟨p, lo, hi, -, -, htile, hmem⟩ | ⟨_, _, rfl⟩
  · cases htile with
    | run hab hb hfits => exact Or.inl (isSizedRun_of_tile hT hab hb hfits hmem hdraft)
    | longLine ha hlong =>
      obtain ⟨number, hslice⟩ := isSlice_of_tile ha hlong hmem hdraft
      exact Or.inr ⟨_, number, _, hslice⟩
  · exact absurd hdraft (by simp [Draft.block?])

theorem startLine_le_endLine (hblock : block ∈ (chunkLines s span lines admitted).blocks) :
    block.startLine ≤ block.endLine := by
  obtain ⟨d, hd, k, hdraft⟩ := exists_draft_of_mem_settle hblock
  exact (block_lines_of_liesIn (drafts_liesIn (pieces_tile s lines) d hd) hdraft).2.1

/-- A run below the smallest size has no other such run after it, as each ends the span. -/
theorem not_isSmallRun_of_precedes {other : Block} (hT : s.threshold ≠ .nan)
    (hblock : block ∈ (chunkLines s span lines admitted).blocks)
    (hother : other ∈ (chunkLines s span lines admitted).blocks)
    (hsmall : isSmallRun s span block = true) (hprecedes : Precedes span block other) :
    ¬ isSmallRun s span other = true := by
  intro hsmall'
  obtain ⟨hcategory, hlength⟩ := of_decide_eq_true hsmall
  obtain ⟨hcategory', hlength'⟩ := of_decide_eq_true hsmall'
  have hends : ∀ b ∈ (chunkLines s span lines admitted).blocks, b.category = span.baseType →
      b.code.length < s.limits.minChars → b.endLine = span.startLine + lines.length - 1 := by
    intro b hb hrun hshort
    rcases isSizedRun_or_isSlice hT hb with hsized | ⟨_, _, _, hslice⟩
    · exact hsized.last_of_small hshort
    · exact absurd (hrun.symm.trans hslice.category_eq) (baseType_ne_segmentType span)
  rcases hprecedes with hlines | ⟨line, number, number', code, code', -, rfl, -⟩
  · have hlast := hends block hblock hcategory hlength
    have hlast' := hends other hother hcategory' hlength'
    have hforward := startLine_le_endLine hother
    omega
  · exact baseType_ne_segmentType span hcategory.symm

/-- Every block of a packed span has one of the sizes of its kind, and at most one run is below the
smallest size. -/
theorem blocks_sized (s : Sizing) (span : Span) (lines : List Text) (admitted : Admitted)
    (hT : s.threshold ≠ .nan) :
    (∀ block ∈ (chunkLines s span lines admitted).blocks,
        IsSizedRun s span lines block ∨
          ∃ i number line, IsSlice s span lines i number line block) ∧
      ((chunkLines s span lines admitted).blocks.filter (isSmallRun s span)).length ≤ 1 := by
  constructor
  · intro block hblock
    exact isSizedRun_or_isSlice hT hblock
  · have hnone : ((chunkLines s span lines admitted).blocks.filter (isSmallRun s span)).Pairwise
        fun _ _ => False := by
      rw [List.pairwise_filter]
      apply (chunkLines_pairwise s span lines admitted).imp_of_mem
      intro block other hblock hother hprecedes hsmall hsmall'
      exact not_isSmallRun_of_precedes hT hblock hother hsmall hprecedes hsmall'
    generalize (chunkLines s span lines admitted).blocks.filter (isSmallRun s span) = small at hnone
    cases hnone with
    | nil => exact Nat.zero_le 1
    | @cons first rest hfirst _ =>
      cases rest with
      | nil => exact Nat.le_refl 1
      | cons second rest => exact (hfirst second List.mem_cons_self).elim

/-- A line of two segments, a run, and a short last run. -/
def threeSizes : List Text := ["0123456789abc".toList, "012345678".toList, "ab".toList]

theorem blocks_sized_threeSizes :
    Sizing.tiny.threshold ≠ .nan ∧
      (chunkLines .tiny .bare threeSizes .empty).blocks.map (fun block => block.code.length) =
        [10, 3, 9, 2] ∧
      (∀ block ∈ (chunkLines .tiny .bare threeSizes .empty).blocks,
        IsSizedRun .tiny .bare threeSizes block ∨
          ∃ i number line, IsSlice .tiny .bare threeSizes i number line block) ∧
      ((chunkLines .tiny .bare threeSizes .empty).blocks.filter (isSmallRun .tiny .bare)).length
        ≤ 1 := by
  have hT : Sizing.tiny.threshold ≠ .nan := by decide
  exact ⟨hT, by decide +kernel, blocks_sized .tiny .bare threeSizes .empty hT⟩

end SourceBlocks.Chunking
