import Mathlib.Data.Set.Basic
import SourceBlocks.Proofs.Chunking.Filtering
import SourceBlocks.Proofs.Extraction.Recall

/-!
# What an extraction records

The fingerprints that an extraction adds are those of its captures, whatever was admitted before,
in whatever order the captures come and however often one of them is repeated.  Each emitted block
stands for one added fingerprint, which can be read off the block.  So whoever has extracted some
captures finds nothing new in them.
-/

namespace SourceBlocks

/-- The fingerprint that a block was emitted under, read off the block.  The fingerprint of a
segment covers its number, with which its name ends. -/
def Block.emittedKey (block : Block) : Text :=
  if block.isSegment then
    Fingerprint.compute block.file block.startLine block.endLine
      (Text.ofNat (Chunking.numberInName (block.name.getD []) - 1) ++ '-' :: block.code)
  else block.fingerprint

/-- The fingerprints of everything that a set of captures comes to. -/
def captureKeys (limits : Limits) (rootPrefix path content : Text) (captures : Set Capture) :
    Set Text :=
  {key | ∃ capture ∈ captures, ∃ identifier ∈
    capturedIdentifiers limits rootPrefix path content [capture],
      Fingerprint.digest identifier = key}

/-- An extraction added some fingerprints, and emitted one block for each new one. -/
structure Records (keys : Set Text) (before after : Admitted) (blocks : List Block) : Prop where
  recorded_iff : ∀ key, key ∈ after.keys ↔ key ∈ before.keys ∨ key ∈ keys
  size_eq : after.size = before.size + blocks.length
  emitted_nodup : (blocks.map Block.emittedKey).Nodup
  emitted_iff : ∀ key, key ∈ blocks.map Block.emittedKey ↔ key ∈ keys ∧ key ∉ before.keys

/-- What becomes of some captures does not depend on their order, on repetitions and on what was
admitted before, and nothing new comes of captures drawn from them. -/
structure RecordsCaptures (limits : Limits) (rootPrefix path content : Text)
    (captures : List Capture) (admitted : Admitted) : Prop where
  any_order : ∀ (other : List Capture) (before : Admitted),
    (∀ capture, capture ∈ other ↔ capture ∈ captures) →
      ∃ blocks, (extractBlocks limits rootPrefix path content other before).outcome = .ok blocks ∧
        Records (captureKeys limits rootPrefix path content {capture | capture ∈ captures}) before
          (extractBlocks limits rootPrefix path content other before).admitted blocks
  nothing_new : ∀ (drawn : List Capture) (later : Admitted), drawn ≠ [] →
    (∀ capture ∈ drawn, capture ∈ captures) →
    (∀ key ∈ (extractBlocks limits rootPrefix path content captures admitted).admitted.keys,
      key ∈ later.keys) →
      (extractBlocks limits rootPrefix path content drawn later).outcome = .ok [] ∧
        (extractBlocks limits rootPrefix path content drawn later).admitted = later

/-! ## Fingerprints read off blocks -/

section Keys

open Chunking

variable {path : Text} {span : Span} {d : Draft} {k : Nat} {block : Block} {portion : Portion}
  {admitted : Admitted}

theorem emittedKey_of_block? (hbase : "_line_segment".toList.isSuffixOf span.baseType = false)
    (h : d.block? span k = some block) : block.emittedKey = admittedKey span block := by
  cases d with
  | note event => exact absurd h (by simp [Draft.block?])
  | chunk first last code =>
    obtain rfl := Option.some.inj h
    have hkind : (chunkBlock span k first last code).isSegment = false := hbase
    have hcategory : (chunkBlock span k first last code).category = span.baseType := rfl
    rw [Block.emittedKey, hkind, if_neg Bool.false_ne_true, admittedKey, if_pos hcategory]
  | segment line number code =>
    obtain rfl := Option.some.inj h
    have hcategory : ¬ (segmentBlock span line number code).category = span.baseType :=
      fun heq => baseType_ne_segmentType span heq.symm
    rw [Block.emittedKey, isSegment_segmentBlock, if_pos rfl, admittedKey, if_neg hcategory]
    rfl

theorem map_emittedKey_blocksOf
    (hbase : "_line_segment".toList.isSuffixOf span.baseType = false) (parts : Nat)
    (drafts : List Draft) :
    (blocksOf span parts drafts).map Block.emittedKey = keys span drafts := by
  rw [← map_admittedKey_blocksOf span parts]
  apply List.map_congr_left
  intro block hblock
  obtain ⟨d, -, k, hdraft⟩ := exists_draft_of_mem_blocksOf hblock
  exact emittedKey_of_block? hbase hdraft

/-- Each block that a portion emits adds the fingerprint that is read off it. -/
theorem Portion.BelongsTo.emit_keys (h : portion.BelongsTo path) (admitted : Admitted) :
    (portion.emit admitted).admitted.keys =
      ((portion.emit admitted).blocks.map Block.emittedKey).reverse ++ admitted.keys := by
  cases portion with
  | whole block =>
    by_cases hmem : block.fingerprint ∈ admitted.keys
    · rw [emit_whole_of_mem hmem]
      rfl
    · have hkey : block.emittedKey = block.fingerprint := by
        rw [Block.emittedKey, h.2, if_neg Bool.false_ne_true]
      rw [emit_whole_of_not_mem hmem, List.map_singleton, hkey]
      rfl
  | packed sizing span text =>
    obtain ⟨kept, hkept⟩ := exists_keeps span 0 admitted (spanDrafts sizing span (Text.lines text))
    have hblocks : ((Portion.packed sizing span text).emit admitted).blocks =
        blocksOf span 0 kept := hkept.blocks_eq
    rw [hblocks, map_emittedKey_blocksOf h.2]
    exact hkept.keys_eq

/-- The blocks of an extraction and what it added to the fingerprints go together. -/
theorem ofPortions_keys {portions : List (Except ExtractionFailure Portion)} {blocks : List Block}
    (hproper : ∀ portion, .ok portion ∈ portions → portion.BelongsTo path)
    (h : (Extraction.ofPortions portions admitted).outcome = .ok blocks) :
    (Extraction.ofPortions portions admitted).admitted.keys =
      (blocks.map Block.emittedKey).reverse ++ admitted.keys := by
  induction portions generalizing admitted blocks with
  | nil =>
    obtain rfl := Except.ok.inj h
    rfl
  | cons first later ih =>
    obtain ⟨portion, rest, rfl, hrest, rfl⟩ := Extraction.ofPortions_cons_ok h
    have hlater := ih (fun other hother => hproper other (List.mem_cons_of_mem _ hother)) hrest
    rw [Extraction.ofPortions]
    dsimp only
    rw [hlater, (hproper portion List.mem_cons_self).emit_keys, List.map_append,
      List.reverse_append, List.append_assoc]

/-- Portions that do not fail are emitted whatever was admitted before. -/
theorem exists_ofPortions_ok {portions : List (Except ExtractionFailure Portion)}
    (hsound : ∀ portion ∈ portions, ∃ sound, portion = .ok sound) (admitted : Admitted) :
    ∃ blocks, (Extraction.ofPortions portions admitted).outcome = .ok blocks := by
  induction portions generalizing admitted with
  | nil => exact ⟨[], rfl⟩
  | cons first later ih =>
    obtain ⟨portion, rfl⟩ := hsound first List.mem_cons_self
    obtain ⟨rest, hrest⟩ := ih (fun other hother => hsound other (List.mem_cons_of_mem _ hother))
      (portion.emit admitted).admitted
    refine ⟨(portion.emit admitted).blocks ++ rest, ?_⟩
    rw [Extraction.ofPortions]
    dsimp only
    rw [hrest]
    rfl

end Keys

/-! ## Sets of captures -/

section Captures

variable {limits : Limits} {rootPrefix path content : Text} {captures other : List Capture}
  {admitted : Admitted} {blocks : List Block}

theorem mem_captureKeys_iff {key : Text} :
    key ∈ captureKeys limits rootPrefix path content {capture | capture ∈ captures} ↔
      ∃ identifier ∈ capturedIdentifiers limits rootPrefix path content captures,
        Fingerprint.digest identifier = key := by
  simp only [captureKeys, capturedIdentifiers, capturedPortions, Set.mem_ofPred_eq,
    List.flatMap_singleton, List.flatMap_assoc, List.mem_flatMap]
  constructor
  · rintro ⟨capture, hcapture, identifier, hidentifier, hkey⟩
    exact ⟨identifier, ⟨capture, hcapture, hidentifier⟩, hkey⟩
  · rintro ⟨identifier, ⟨capture, hcapture, hidentifier⟩, hkey⟩
    exact ⟨capture, hcapture, identifier, hidentifier, hkey⟩

/-- Captures drawn from others do not fail if the others do not. -/
theorem capturedPortions_sound_of_subset (hdrawn : ∀ capture ∈ other, capture ∈ captures)
    (hsound : ∀ portion ∈ capturedPortions limits rootPrefix path content captures,
      ∃ sound, portion = .ok sound) :
    ∀ portion ∈ capturedPortions limits rootPrefix path content other,
      ∃ sound, portion = .ok sound := by
  intro portion hportion
  obtain ⟨capture, hcapture, hmem⟩ := List.mem_flatMap.mp hportion
  exact hsound portion (List.mem_flatMap.mpr ⟨capture, hdrawn capture hcapture, hmem⟩)

/-- An extraction that does not fail records the fingerprints of its captures. -/
theorem extractBlocks_records (hne : captures ≠ [])
    (h : (extractBlocks limits rootPrefix path content captures admitted).outcome = .ok blocks) :
    Records (captureKeys limits rootPrefix path content {capture | capture ∈ captures}) admitted
      (extractBlocks limits rootPrefix path content captures admitted).admitted blocks := by
  obtain ⟨-, entries, hentries, hadmits⟩ := captured_admits_from hne h
  have hkeys : (extractBlocks limits rootPrefix path content captures admitted).admitted.keys =
      (blocks.map Block.emittedKey).reverse ++ admitted.keys := by
    rw [extractBlocks_captured hne] at h ⊢
    exact ofPortions_keys (fun _ hportion => capturedPortions_belongTo hportion) h
  -- The digests of the entries are what is read off their blocks.
  have hread : (entries.map fun entry => Fingerprint.digest entry.1) =
      blocks.map Block.emittedKey :=
    List.reverse_injective (List.append_cancel_right (hadmits.keys_eq.symm.trans hkeys))
  constructor
  case recorded_iff =>
    intro key
    rw [mem_captureKeys_iff]
    constructor
    · intro hkey
      rw [hadmits.keys_eq, List.mem_append, List.mem_reverse] at hkey
      rcases hkey with hkey | hkey
      · obtain ⟨entry, hentry, rfl⟩ := List.mem_map.mp hkey
        exact Or.inr ⟨entry.1, hadmits.hashed entry hentry, rfl⟩
      · exact Or.inl hkey
    · rintro (hkey | ⟨identifier, hidentifier, rfl⟩)
      · rw [hkeys]
        exact List.mem_append_right _ hkey
      · exact hadmits.recorded identifier hidentifier
  case size_eq =>
    rw [Admitted.size, hkeys, List.length_append, List.length_reverse, List.length_map,
      Nat.add_comm, Admitted.size]
  case emitted_nodup =>
    rw [← hread]
    exact hadmits.nodup
  case emitted_iff =>
    intro key
    rw [mem_captureKeys_iff, ← hread]
    constructor
    · intro hkey
      obtain ⟨entry, hentry, rfl⟩ := List.mem_map.mp hkey
      exact ⟨⟨entry.1, hadmits.hashed entry hentry, rfl⟩, hadmits.new entry hentry⟩
    · rintro ⟨⟨identifier, hidentifier, rfl⟩, hnew⟩
      obtain ⟨entry, hentry, hsame⟩ := hadmits.exists_entry hidentifier hnew
      exact List.mem_map.mpr ⟨entry, hentry, hsame⟩

end Captures

/-- The fingerprints that captures come to are a matter of the set of captures alone, and so an
extraction from some of them finds nothing once all of them were extracted. -/
theorem captures_recorded (limits : Limits) (rootPrefix path content : Text)
    (captures : List Capture) (admitted : Admitted) (blocks : List Block) (hne : captures ≠ [])
    (hblocks : (extractBlocks limits rootPrefix path content captures admitted).outcome =
      .ok blocks) :
    RecordsCaptures limits rootPrefix path content captures admitted := by
  obtain ⟨hsound, -⟩ := captured_admits_from hne hblocks
  have hrecords := extractBlocks_records hne hblocks
  -- Captures drawn from these are extracted whatever was admitted before.
  have hruns : ∀ (drawn : List Capture) (before : Admitted), drawn ≠ [] →
      (∀ capture ∈ drawn, capture ∈ captures) →
      ∃ own, (extractBlocks limits rootPrefix path content drawn before).outcome = .ok own := by
    intro drawn before hdrawn hsubset
    rw [extractBlocks_captured hdrawn]
    exact exists_ofPortions_ok (capturedPortions_sound_of_subset hsubset hsound) before
  constructor
  case any_order =>
    intro other before hsame
    have hother : other ≠ [] := by
      rintro rfl
      obtain ⟨capture, hcapture⟩ := List.exists_mem_of_ne_nil captures hne
      exact List.not_mem_nil ((hsame capture).mpr hcapture)
    obtain ⟨own, hown⟩ := hruns other before hother fun capture => (hsame capture).mp
    have hset : {capture | capture ∈ other} = {capture | capture ∈ captures} := Set.ext hsame
    refine ⟨own, hown, ?_⟩
    rw [← hset]
    exact extractBlocks_records hother hown
  case nothing_new =>
    intro drawn later hdrawn hsubset hlater
    obtain ⟨own, hown⟩ := hruns drawn later hdrawn hsubset
    have hagain := extractBlocks_records hdrawn hown
    have hnone : own = [] := by
      rw [List.eq_nil_iff_forall_not_mem]
      intro block hblock
      obtain ⟨⟨capture, hcapture, hkey⟩, hnew⟩ :=
        (hagain.emitted_iff _).mp (List.mem_map_of_mem hblock)
      apply hnew
      apply hlater
      exact (hrecords.recorded_iff _).mpr (Or.inr ⟨capture, hsubset capture hcapture, hkey⟩)
    subst hnone
    refine ⟨hown, ?_⟩
    rw [extractBlocks_captured hdrawn] at hown ⊢
    have hkeys := ofPortions_keys (fun _ hportion => capturedPortions_belongTo hportion) hown
    exact congrArg Admitted.mk hkeys

theorem captures_recorded_classTwice :
    [classCapture, classCapture] ≠ [] ∧
      (extractBlocks .tiny [] "a.js".toList classContent [classCapture, classCapture]
        .empty).outcome = .ok [classBlock] ∧
      RecordsCaptures .tiny [] "a.js".toList classContent [classCapture, classCapture] .empty := by
  have hne : [classCapture, classCapture] ≠ [] := List.cons_ne_nil _ _
  exact ⟨hne, extractBlocks_classTwice,
    captures_recorded .tiny [] "a.js".toList classContent [classCapture, classCapture] .empty
      [classBlock] hne extractBlocks_classTwice⟩

end SourceBlocks
