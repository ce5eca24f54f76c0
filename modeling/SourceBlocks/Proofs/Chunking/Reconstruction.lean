import SourceBlocks.Proofs.Chunking.Placement

/-!
# Putting a text together again

When no line of a text is too long and no run of it is skipped, the blocks of the text, joined with
line feeds, are the text, unless an empty line became a run by itself: such a run is dropped and
nothing is reported.  The main statement is that these are the only texts that are not put together
again, as long as fingerprints do not collide.
-/

namespace SourceBlocks

open Packing Text

/-- The code of a draft. -/
def Draft.code? : Draft → Option Text
  | chunk _ _ code => some code
  | segment _ _ code => some code
  | note _ => none

/-- Whether a piece is a run of a single empty line. -/
def Packing.Piece.isBlank : Piece → Bool
  | .run _ cut _ => cut == [[]]
  | _ => false

namespace Chunking

/-- Blocks whose lines follow one another without a gap, from line `first` up to, but without, line
`stop`. -/
def Consecutive : Int → List Block → Int → Prop
  | first, [], stop => first = stop
  | first, block :: later, stop =>
    block.startLine = first ∧ first ≤ block.endLine ∧ Consecutive (block.endLine + 1) later stop

/-- The blocks of a text are the text when they are joined, and stand on its lines without a gap. -/
def Reconstructs (span : Span) (blocks : List Block) (text : Text) : Prop :=
  joinLines (blocks.map Block.code) = text ∧
    Consecutive span.startLine blocks (span.startLine + text.count '\n' + 1)

variable {s : Sizing} {span : Span} {lines : List Text} {a b c : Nat} {p : Piece} {ps : List Piece}

/-! ## Codes of drafts -/

theorem map_code_blocksOf (span : Span) (parts : Nat) (drafts : List Draft) :
    (blocksOf span parts drafts).map Block.code = drafts.filterMap Draft.code? := by
  induction drafts generalizing parts with
  | nil => rfl
  | cons d later ih =>
    cases d with
    | note event => exact ih parts
    | chunk first last code => exact congrArg (code :: ·) (ih (parts + 1))
    | segment line number code => exact congrArg (code :: ·) (ih parts)

theorem settle_codes_sublist (span : Span) (parts : Nat) (admitted : Admitted)
    (drafts : List Draft) :
    ((settle span parts admitted drafts).blocks.map Block.code).Sublist
      (drafts.filterMap Draft.code?) := by
  obtain ⟨kept, hkept⟩ := exists_keeps span parts admitted drafts
  rw [hkept.blocks_eq, map_code_blocksOf]
  exact hkept.sublist.filterMap _

theorem length_keys (span : Span) (drafts : List Draft) :
    (keys span drafts).length = (drafts.filterMap Draft.code?).length := by
  rw [← length_blocksOf span 0, ← map_code_blocksOf span 0, List.length_map]

/-- A run that is not skipped becomes a block, unless it is blank. -/
theorem drafts_run_kept {final : Bool} (hab : a < b) (hb : b ≤ lines.length)
    (hkept : ∀ file first last, .chunkBelowMinimumSkipped file first last ∉
      reports (drafts s.limits span (.run a (stretch lines a b) final))) :
    drafts s.limits span (.run a (stretch lines a b) final) =
      if stretch lines a b = [[]] then []
      else [.chunk (span.startLine + a) (span.startLine + b - 1) (joinLines (stretch lines a b))] := by
  have hblank := joinLines_eq_nil_iff (stretch_ne_nil hab hb)
  rw [drafts_run hab hb] at hkept ⊢
  by_cases hrun : stretch lines a b = [[]]
  · rw [if_pos hrun, if_pos (hblank.mpr hrun)]
  rw [if_neg (fun h => hrun (hblank.mp h))] at hkept ⊢
  rw [if_neg hrun]
  split at hkept
  next hsmall => exact absurd (List.mem_singleton.mpr rfl) (hkept _ _ _)
  next hlarge => rw [if_neg hlarge]

/-! ## Codes of a tiling -/

/-- The pieces of a tiling hand on neither a segment nor the report of a skipped run. -/
structure Whole (s : Sizing) (span : Span) (lines : List Text) (ps : List Piece) : Prop where
  short : ∀ line ∈ lines, s.exceeds line.length = false
  kept : ∀ file first last, .chunkBelowMinimumSkipped file first last ∉
    reports (ps.flatMap (drafts s.limits span))

theorem Whole.tail (h : Whole s span lines (p :: ps)) : Whole s span lines ps := by
  refine ⟨h.short, fun file first last hmem => h.kept file first last ?_⟩
  rw [List.flatMap_cons, reports, List.filterMap_append]
  exact List.mem_append_right _ hmem

theorem Whole.head_kept (h : Whole s span lines (p :: ps)) (file : Text) (first last : Int) :
    .chunkBelowMinimumSkipped file first last ∉ reports (drafts s.limits span p) := by
  intro hmem
  refine h.kept file first last ?_
  rw [List.flatMap_cons, reports, List.filterMap_append]
  exact List.mem_append_left _ hmem

theorem Whole.not_long (h : Whole s span lines ps) (ha : a < lines.length) :
    ¬ s.exceeds lines[a].length = true := by
  rw [h.short _ (List.getElem_mem ha)]
  exact Bool.false_ne_true

/-- Blank runs are all that is missing from the codes of the drafts. -/
theorem fedLength_codes (h : Tiles s lines a c ps) (hwhole : Whole s span lines ps) :
    fedLength ((ps.flatMap (drafts s.limits span)).filterMap Draft.code?) +
      ps.countP Piece.isBlank = fedLength (stretch lines a c) := by
  induction h with
  | nil a =>
    rw [stretch_self]
    rfl
  | @cons a b c p ps first rest ih =>
    have hrest := ih hwhole.tail
    rw [List.flatMap_cons, List.filterMap_append, fedLength_append]
    rw [← stretch_append_stretch (Nat.le_of_lt first.lt) rest.le, fedLength_append]
    cases first with
    | run hab hb hfits =>
      rw [drafts_run_kept hab hb hwhole.head_kept]
      split
      next hblank =>
        rw [List.countP_cons_of_pos (by simp [Piece.isBlank, hblank]), hblank]
        simp only [List.filterMap_nil, fedLength_nil, fedLength_cons, List.length_nil]
        omega
      next hfull =>
        have hcode := length_joinLines_add_one (stretch_ne_nil hab hb)
        rw [List.countP_cons_of_neg (by simp [Piece.isBlank, hfull]), ← hcode]
        simp only [List.filterMap_cons, Draft.code?, List.filterMap_nil, fedLength_nil,
          fedLength_cons]
        omega
    | longLine ha hlong => exact absurd hlong (hwhole.not_long ha)
  | moved count index rest ih =>
    rw [List.countP_cons_of_neg (by simp [Piece.isBlank])]
    exact ih hwhole.tail

/-- Without blank runs, the codes are the joined runs, which make up the lines. -/
theorem exists_runs (h : Tiles s lines a c ps) (hwhole : Whole s span lines ps)
    (hfull : ∀ p ∈ ps, ¬ p.isBlank = true) :
    ∃ runs : List (List Text), (∀ run ∈ runs, run ≠ []) ∧ runs.flatten = stretch lines a c ∧
      (ps.flatMap (drafts s.limits span)).filterMap Draft.code? = runs.map joinLines := by
  induction h with
  | nil a => exact ⟨[], fun run hrun => absurd hrun List.not_mem_nil, (stretch_self _ _).symm, rfl⟩
  | @cons a b c p ps first rest ih =>
    obtain ⟨runs, hne, hflat, hcodes⟩ :=
      ih hwhole.tail fun p hp => hfull p (List.mem_cons_of_mem _ hp)
    have hhead := hfull p List.mem_cons_self
    rw [← stretch_append_stretch (Nat.le_of_lt first.lt) rest.le]
    cases first with
    | run hab hb hfits =>
      have hrun : stretch lines a b ≠ [[]] := by simpa [Piece.isBlank] using hhead
      refine ⟨stretch lines a b :: runs, ?_, by rw [List.flatten_cons, hflat], ?_⟩
      · intro run hmem
        rcases List.mem_cons.mp hmem with rfl | hmem
        · exact stretch_ne_nil hab hb
        · exact hne run hmem
      · rw [List.flatMap_cons, drafts_run_kept hab hb hwhole.head_kept, if_neg hrun,
          List.filterMap_append, hcodes]
        rfl
    | longLine ha hlong => exact absurd hlong (hwhole.not_long ha)
  | moved count index rest ih =>
    exact ih hwhole.tail fun p hp => hfull p (List.mem_cons_of_mem _ hp)

theorem blocksOf_consecutive (h : Tiles s lines a c ps) (hwhole : Whole s span lines ps)
    (hfull : ∀ p ∈ ps, ¬ p.isBlank = true) (parts : Nat) :
    Consecutive (span.startLine + a) (blocksOf span parts (ps.flatMap (drafts s.limits span)))
      (span.startLine + c) := by
  induction h generalizing parts with
  | nil a => rfl
  | @cons a b c p ps first rest ih =>
    have hrest := ih hwhole.tail fun p hp => hfull p (List.mem_cons_of_mem _ hp)
    have hhead := hfull p List.mem_cons_self
    cases first with
    | run hab hb hfits =>
      have hrun : stretch lines a b ≠ [[]] := by simpa [Piece.isBlank] using hhead
      rw [List.flatMap_cons, drafts_run_kept hab hb hwhole.head_kept, if_neg hrun]
      have hnext : span.startLine + (b : Int) - 1 + 1 = span.startLine + b := by omega
      refine ⟨rfl, by simp only [chunkBlock]; omega, ?_⟩
      simp only [chunkBlock, hnext]
      exact hrest (parts + 1)
    | longLine ha hlong => exact absurd hlong (hwhole.not_long ha)
  | moved count index rest ih =>
    exact ih hwhole.tail (fun p hp => hfull p (List.mem_cons_of_mem _ hp)) parts

/-! ## Texts that are put together again -/

theorem whole_of_events {text : Text}
    (hshort : ∀ line ∈ Text.lines text, s.exceeds line.length = false)
    (hkept : ∀ file first last, .chunkBelowMinimumSkipped file first last ∉
      (chunkLines s span (Text.lines text) .empty).events) :
    Whole s span (Text.lines text) (pieces s (Text.lines text)) := by
  refine ⟨hshort, fun file first last hmem => hkept file first last ?_⟩
  rw [chunkLines_events]
  exact List.mem_append_left _ hmem

theorem reconstructs_of_full {text : Text}
    (hwhole : Whole s span (Text.lines text) (pieces s (Text.lines text)))
    (hfull : ∀ p ∈ pieces s (Text.lines text), ¬ p.isBlank = true)
    (hkeys : (keys span (spanDrafts s span (Text.lines text))).Nodup) :
    Reconstructs span (chunkLines s span (Text.lines text) .empty).blocks text := by
  have htiles := pieces_tile s (Text.lines text)
  rw [chunkLines_blocks, settle_empty_of_nodup hkeys]
  constructor
  · obtain ⟨runs, hne, hflat, hcodes⟩ := exists_runs htiles hwhole hfull
    rw [map_code_blocksOf, spanDrafts, hcodes, joinLines_map_joinLines hne, hflat,
      stretch_zero_length, joinLines_lines]
  · have hlines := blocksOf_consecutive htiles hwhole hfull 0
    have hstop : ((Text.lines text).length : Int) = text.count '\n' + 1 := by
      rw [length_lines]
      rfl
    rw [hstop, Int.natCast_zero, Int.add_zero, ← Int.add_assoc] at hlines
    exact hlines

/-- A text that is put together again lost no run, neither a blank one nor one with a fingerprint
that was there before. -/
theorem full_of_joined {text : Text} (htext : text ≠ [])
    (hwhole : Whole s span (Text.lines text) (pieces s (Text.lines text)))
    (hjoined : joinLines ((chunkLines s span (Text.lines text) .empty).blocks.map Block.code) = text) :
    (∀ p ∈ pieces s (Text.lines text), ¬ p.isBlank = true) ∧
      (keys span (spanDrafts s span (Text.lines text))).Nodup := by
  have hsub := settle_codes_sublist span 0 .empty (spanDrafts s span (Text.lines text))
  have hle := fedLength_le_of_sublist hsub
  have hcodes := fedLength_codes (pieces_tile s (Text.lines text)) hwhole
  rw [stretch_zero_length] at hcodes
  have hsame : fedLength ((chunkLines s span (Text.lines text) .empty).blocks.map Block.code) =
      fedLength (Text.lines text) := by
    have hne : (chunkLines s span (Text.lines text) .empty).blocks.map Block.code ≠ [] := by
      intro hnil
      rw [hnil] at hjoined
      exact htext hjoined.symm
    rw [← length_joinLines_add_one hne, ← length_joinLines_add_one (lines_ne_nil text), hjoined,
      joinLines_lines]
  rw [chunkLines_blocks] at hsame
  change fedLength ((spanDrafts s span (Text.lines text)).filterMap Draft.code?) + _ = _ at hcodes
  constructor
  · exact List.countP_eq_zero.mp (by omega)
  · have hall := eq_of_sublist_of_fedLength_le hsub (by omega)
    refine (@nodup_of_settle_length span 0 .empty _ ?_).1
    rw [length_keys, ← hall, List.length_map]

/-- When no line of a text is too long and no run is skipped, the blocks are the text again exactly
if no empty line is a run by itself and no two fingerprints are equal, which they are not as long as
the digest does not collide on what it digests. -/
theorem reconstructs_iff (s : Sizing) (span : Span) (text : Text) (htext : text ≠ [])
    (hshort : ∀ line ∈ Text.lines text, s.exceeds line.length = false)
    (hkept : ∀ file first last, .chunkBelowMinimumSkipped file first last ∉
      (chunkLines s span (Text.lines text) .empty).events) :
    (Reconstructs span (chunkLines s span (Text.lines text) .empty).blocks text ↔
        (∀ i final, .run i [[]] final ∉ pieces s (Text.lines text)) ∧
          (keys span (spanDrafts s span (Text.lines text))).Nodup) ∧
      (Fingerprint.CollisionFree (hashedIdentifiers s span (Text.lines text)) →
        (keys span (spanDrafts s span (Text.lines text))).Nodup) := by
  have hwhole := whole_of_events hshort hkept
  have hblank : (∀ i final, .run i [[]] final ∉ pieces s (Text.lines text)) ↔
      ∀ p ∈ pieces s (Text.lines text), ¬ p.isBlank = true := by
    constructor
    · intro hruns p hp hblank
      cases p with
      | run i cut final =>
        obtain rfl : cut = [[]] := beq_iff_eq.mp hblank
        exact hruns i final hp
      | longLine index line => exact Bool.false_ne_true hblank
      | moved count index => exact Bool.false_ne_true hblank
    · intro hfull i final hmem
      exact hfull _ hmem rfl
  rw [hblank]
  refine ⟨⟨?_, ?_⟩, ?_⟩
  · intro h
    exact full_of_joined htext hwhole h.1
  · rintro ⟨hfull, hkeys⟩
    exact reconstructs_of_full hwhole hfull hkeys
  · refine nodup_keys fun line hline hlong => ?_
    rw [hshort line hline] at hlong
    exact Bool.noConfusion hlong

/-- A line of the largest size with a line feed after it. -/
def feedAfterLargest : Text := "0123456789\n".toList

/-- The empty line after the last line feed is a run by itself, so the line feed is lost. -/
theorem feedAfterLargest_not_reconstructed :
    Sizing.ofLimits? .tiny = some .tiny ∧ feedAfterLargest ≠ [] ∧
      (∀ line ∈ Text.lines feedAfterLargest, Sizing.tiny.exceeds line.length = false) ∧
      (∀ file first last, .chunkBelowMinimumSkipped file first last ∉
        (chunkLines .tiny .bare (Text.lines feedAfterLargest) .empty).events) ∧
      ¬ Reconstructs .bare
        (chunkLines .tiny .bare (Text.lines feedAfterLargest) .empty).blocks feedAfterLargest := by
  refine ⟨Sizing.ofLimits?_tiny, by decide, by decide, ?_, ?_⟩
  · intro file first last hmem
    have hnone : reports (spanDrafts .tiny .bare (Text.lines feedAfterLargest)) = [] := by decide
    rw [chunkLines_events, hnone, List.nil_append] at hmem
    exact Event.noConfusion (List.mem_singleton.mp hmem)
  · rintro ⟨hjoined, -⟩
    have hcode : (chunkLines .tiny .bare (Text.lines feedAfterLargest) .empty).blocks.map
        Block.code = ["0123456789".toList] := by decide
    rw [hcode] at hjoined
    exact absurd hjoined (by decide)

/-- Two lines of the largest size. -/
def twoLargest : Text := "0123456789\nabcdefghij".toList

theorem reconstructs_iff_twoLargest :
    twoLargest ≠ [] ∧
      (∀ line ∈ Text.lines twoLargest, Sizing.tiny.exceeds line.length = false) ∧
      (∀ file first last, .chunkBelowMinimumSkipped file first last ∉
        (chunkLines .tiny .bare (Text.lines twoLargest) .empty).events) ∧
      (Reconstructs .bare (chunkLines .tiny .bare (Text.lines twoLargest) .empty).blocks
          twoLargest ↔
        (∀ i final, .run i [[]] final ∉ pieces .tiny (Text.lines twoLargest)) ∧
          (keys .bare (spanDrafts .tiny .bare (Text.lines twoLargest))).Nodup) := by
  have hshort : ∀ line ∈ Text.lines twoLargest, Sizing.tiny.exceeds line.length = false := by
    decide
  have hkept : ∀ file first last, .chunkBelowMinimumSkipped file first last ∉
      (chunkLines .tiny .bare (Text.lines twoLargest) .empty).events := by
    intro file first last hmem
    have hnone : reports (spanDrafts .tiny .bare (Text.lines twoLargest)) = [] := by decide
    rw [chunkLines_events, hnone, List.nil_append] at hmem
    exact Event.noConfusion (List.mem_singleton.mp hmem)
  exact ⟨by decide, hshort, hkept,
    (reconstructs_iff .tiny .bare twoLargest (by decide) hshort hkept).1⟩

end Chunking

end SourceBlocks
