import SourceBlocks.Proofs.Extraction.Recording

/-!
# What is found again after an emission

Whatever call emitted a block, the fingerprint that it recorded is there afterwards.  For a run of
lines or a whole node this is the block's own fingerprint, so the block is found and would be
refused.  A segment is recorded under its number and its code: it is that fingerprint which is
refused, while the block itself is looked for under another one, and is found only if that was
recorded by chance.
-/

namespace SourceBlocks

/-- The fingerprint of a segment with its number in front of its code.  The number is the one that
the block's name ends with. -/
def Block.numberedKey (block : Block) : Text :=
  Fingerprint.compute block.file block.startLine block.endLine
    (Text.ofNat (Chunking.numberInName (block.name.getD []) - 1) ++ '-' :: block.code)

/-- The fingerprint that a block is recorded under, when it is told which blocks are segments. -/
def Block.recordedKey (isSegment : Block → Bool) (block : Block) : Text :=
  if isSegment block then block.numberedKey else block.fingerprint

namespace Admitted

/-- A block is found among what was admitted, and is refused if it is offered again. -/
structure Knows (admitted : Admitted) (block : Block) : Prop where
  contains_eq : admitted.contains block = true
  accept_eq : admitted.accept block = (false, admitted)

/-- A block is not found among what was admitted, and is not refused. -/
structure Misses (admitted : Admitted) (block : Block) : Prop where
  contains_eq : admitted.contains block = false
  accept_fst : (admitted.accept block).1 = true

variable {admitted : Admitted} {block : Block} {key : Text}

theorem admitKey_of_mem (h : key ∈ admitted.keys) : admitted.admitKey key = (false, admitted) := by
  rw [admitKey, if_pos (hasKey_iff.mpr h)]

theorem knows_of_mem (h : block.fingerprint ∈ admitted.keys) : admitted.Knows block :=
  ⟨hasKey_iff.mpr h, admitKey_of_mem h⟩

theorem misses_of_not_mem (h : block.fingerprint ∉ admitted.keys) : admitted.Misses block := by
  refine ⟨?_, admitKey_fst.mpr h⟩
  rw [contains, ← Bool.not_eq_true, hasKey_iff]
  exact h

end Admitted

/-- What `after` holds of the blocks that were emitted since `before`.  A segment is found itself
only by chance: if its own fingerprint was there before, or another block was recorded under it. -/
structure Remembers (isSegment : Block → Bool) (before after : Admitted) (blocks : List Block) :
    Prop where
  others_known : ∀ block ∈ blocks, isSegment block = false → after.Knows block
  segments_recorded : ∀ block ∈ blocks, isSegment block = true →
    after.hasKey block.numberedKey = true ∧
      after.admitKey block.numberedKey = (false, after)
  segments_known : ∀ block ∈ blocks, isSegment block = true →
    (before.contains block = true ∨
      ∃ other ∈ blocks, other.recordedKey isSegment = block.fingerprint) → after.Knows block
  segments_missed : ∀ block ∈ blocks, isSegment block = true →
    ¬ (before.contains block = true ∨
      ∃ other ∈ blocks, other.recordedKey isSegment = block.fingerprint) → after.Misses block

section Keys

variable {isSegment : Block → Bool} {before after : Admitted} {blocks : List Block}

/-- All of this follows if the fingerprints that were added are those of the emitted blocks. -/
theorem remembers_of_keys (h : after.keys =
    (blocks.map (Block.recordedKey isSegment)).reverse ++ before.keys) :
    Remembers isSegment before after blocks := by
  have hmem : ∀ key, key ∈ after.keys ↔
      key ∈ before.keys ∨ ∃ other ∈ blocks, other.recordedKey isSegment = key := by
    intro key
    rw [h, List.mem_append, List.mem_reverse, List.mem_map, or_comm]
  have hrecorded : ∀ block ∈ blocks, block.recordedKey isSegment ∈ after.keys :=
    fun block hblock => (hmem _).mpr (Or.inr ⟨block, hblock, rfl⟩)
  constructor
  case others_known =>
    intro block hblock hkind
    have hkey := hrecorded block hblock
    rw [Block.recordedKey, hkind, if_neg Bool.false_ne_true] at hkey
    exact Admitted.knows_of_mem hkey
  case segments_recorded =>
    intro block hblock hkind
    have hkey := hrecorded block hblock
    rw [Block.recordedKey, hkind, if_pos rfl] at hkey
    exact ⟨Admitted.hasKey_iff.mpr hkey, Admitted.admitKey_of_mem hkey⟩
  case segments_known =>
    intro block hblock hkind hchance
    apply Admitted.knows_of_mem
    rw [hmem]
    exact hchance.imp_left Admitted.hasKey_iff.mp
  case segments_missed =>
    intro block hblock hkind hnone
    apply Admitted.misses_of_not_mem
    rw [hmem]
    exact fun hkey => hnone (hkey.imp_left Admitted.hasKey_iff.mpr)

end Keys

section Calls

open Chunking

variable {limits : Limits} {rootPrefix path modulePath content : Text} {captures : List Capture}
  {before : Admitted} {blocks : List Block} {emission : Emission}

theorem recordedKey_of_block? {span : Span} {d : Draft} {k : Nat} {block : Block}
    (h : d.block? span k = some block) :
    block.recordedKey (fun block => !isRun span block) = admittedKey span block := by
  cases d with
  | note event => exact absurd h (by simp [Draft.block?])
  | chunk first last code =>
    obtain rfl := Option.some.inj h
    have hrun : isRun span (chunkBlock span k first last code) = true := decide_eq_true rfl
    have hcategory : (chunkBlock span k first last code).category = span.baseType := rfl
    rw [Block.recordedKey, hrun, admittedKey, if_pos hcategory]
    rfl
  | segment line number code =>
    obtain rfl := Option.some.inj h
    have hcategory : ¬ (segmentBlock span line number code).category = span.baseType :=
      fun heq => baseType_ne_segmentType span heq.symm
    rw [Block.recordedKey, isRun_segmentBlock, admittedKey, if_neg hcategory]
    rfl

theorem chunkLines_remembers (s : Sizing) (span : Span) (lines : List Text) (before : Admitted) :
    Remembers (fun block => !isRun span block) before (chunkLines s span lines before).admitted
      (chunkLines s span lines before).blocks := by
  obtain ⟨kept, hkept⟩ := exists_keeps span 0 before (spanDrafts s span lines)
  apply remembers_of_keys
  have hread : (blocksOf span 0 kept).map (Block.recordedKey fun block => !isRun span block) =
      keys span kept := by
    rw [← map_admittedKey_blocksOf span 0]
    apply List.map_congr_left
    intro block hblock
    obtain ⟨d, -, k, hdraft⟩ := exists_draft_of_mem_blocksOf hblock
    exact recordedKey_of_block? hdraft
  rw [chunkLines_blocks, hkept.blocks_eq, hread]
  exact hkept.keys_eq

theorem chunkFallback_remembers
    (h : chunkFallback limits path modulePath content before = some emission) :
    Remembers Block.isSegment before emission.admitted emission.blocks := by
  apply remembers_of_keys
  rw [chunkFallback] at h
  split at h
  · obtain rfl := Option.some.inj h
    rfl
  · obtain ⟨sizing, -, rfl⟩ := Option.map_eq_some_iff.mp h
    have hbelongs : (Portion.packed sizing ⟨path, modulePath, fallbackType, 1, none, none, none⟩
        content).BelongsTo path := ⟨rfl, rfl⟩
    exact hbelongs.emit_keys before

theorem extractBlocks_remembers
    (h : (extractBlocks limits rootPrefix path content captures before).outcome = .ok blocks) :
    Remembers Block.isSegment before
      (extractBlocks limits rootPrefix path content captures before).admitted blocks := by
  by_cases hcaptures : captures = []
  · subst hcaptures
    rw [extractBlocks, List.isEmpty_nil, if_pos rfl] at h ⊢
    dsimp only at h ⊢
    split at h
    next => cases h
    next emission hemission =>
      obtain rfl := Except.ok.inj h
      exact chunkFallback_remembers hemission
  · rw [extractBlocks_captured hcaptures] at h ⊢
    exact remembers_of_keys (ofPortions_keys (fun _ hmem => capturedPortions_belongTo hmem) h)

/-- Every block that a call emitted is found afterwards and would be refused, unless it is a
segment; what is found of a segment, and would be refused, is the fingerprint of its number and its
code. -/
theorem emitted_remembered :
    (∀ (s : Sizing) (span : Span) (lines : List Text) (before : Admitted),
      Remembers (fun block => !isRun span block) before (chunkLines s span lines before).admitted
        (chunkLines s span lines before).blocks) ∧
      (∀ (limits : Limits) (path modulePath content : Text) (before : Admitted)
        (emission : Emission), chunkFallback limits path modulePath content before = some emission →
          Remembers Block.isSegment before emission.admitted emission.blocks) ∧
      ∀ (limits : Limits) (rootPrefix path content : Text) (captures : List Capture)
        (before : Admitted) (blocks : List Block),
        (extractBlocks limits rootPrefix path content captures before).outcome = .ok blocks →
          Remembers Block.isSegment before
            (extractBlocks limits rootPrefix path content captures before).admitted blocks := by
  refine ⟨chunkLines_remembers, ?_, ?_⟩
  · intro limits path modulePath content before emission
    exact chunkFallback_remembers
  · intro limits rootPrefix path content captures before blocks
    exact extractBlocks_remembers

/-! ## A line of two segments -/

/-- A file of one line that is cut in two. -/
def wideContent : Text := "0123456789ab".toList

/-- What becomes of the file when nothing was admitted before. -/
def wideEmission : Emission :=
  chunkLines .tiny ⟨"a.js".toList, "a".toList, fallbackType, 1, none, none, none⟩
    (Text.lines wideContent) .empty

theorem chunkFallback_wide :
    chunkFallback .tiny "a.js".toList "a".toList wideContent .empty = some wideEmission := by
  rw [chunkFallback, if_neg (by decide), Sizing.ofLimits?_tiny]
  rfl

theorem emitted_remembered_wide :
    chunkFallback .tiny "a.js".toList "a".toList wideContent .empty = some wideEmission ∧
      Remembers Block.isSegment .empty wideEmission.admitted wideEmission.blocks ∧
      (extractBlocks .tiny [] "a.js".toList classContent [classCapture, classCapture]
        .empty).outcome = .ok [classBlock] ∧
      (extractBlocks .tiny [] "a.js".toList classContent [classCapture, classCapture]
        .empty).admitted.Knows classBlock := by
  obtain ⟨-, hfallback, hcaptured⟩ := emitted_remembered
  have hwide := hfallback _ _ _ _ _ _ chunkFallback_wide
  refine ⟨chunkFallback_wide, hwide, extractBlocks_classTwice, ?_⟩
  exact (hcaptured _ _ _ _ _ _ _ extractBlocks_classTwice).others_known classBlock
    List.mem_cons_self rfl

/-- Both segments of the line are emitted, and neither is found afterwards. -/
theorem segments_not_found : wideEmission.blocks.map Block.code =
    ["0123456789".toList, "ab".toList] ∧
      ∀ block ∈ wideEmission.blocks, wideEmission.admitted.Misses block := by
  have hcodes : wideEmission.blocks.map Block.code = ["0123456789".toList, "ab".toList] := by
    decide +kernel
  have hmissing : ∀ block ∈ wideEmission.blocks,
      block.fingerprint ∉ wideEmission.admitted.keys := by
    decide +kernel
  exact ⟨hcodes, fun block hblock => Admitted.misses_of_not_mem (hmissing block hblock)⟩

end Calls

end SourceBlocks
