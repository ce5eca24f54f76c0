import SourceBlocks.Extraction
import SourceBlocks.Proofs.Chunking.Sizes
import SourceBlocks.Proofs.Packing.Scan

/-!
# Spans that need no splitting

A text that is not too long is packed into a single block, the text itself.  Were a node with such
a text packed, only the kind and the name of its block would differ from the block that it has
without packing.  The other way round, a text that is too long is never the code of one of its
blocks, other than a segment of its only line.
-/

namespace SourceBlocks

open Packing Text

/-- A block under the kind and the name that it has as the only chunk of its span. -/
def Block.asOnlyChunk (block : Block) : Block :=
  { block with
    category := block.category ++ "_chunk".toList
    name := (block.name.filter fun name => !name.isEmpty).map fun name =>
      name ++ " (part 1)".toList }

namespace Chunking

/-- The block that is a whole span of this text. -/
def soleBlock (span : Span) (text : Text) : Block :=
  { category := span.baseType
    name := (givenName span).map fun name => name ++ " (part 1)".toList
    file := span.file
    startLine := span.startLine
    endLine := span.startLine + text.count '\n'
    code := text
    modulePath := span.modulePath
    signature := span.signature
    doc := span.doc }

/-- The span of a file in which no structure was found. -/
def fallbackSpan (file modulePath : Text) : Span :=
  ⟨file, modulePath, "fallback_chunk".toList, 1, none, none, none⟩

/-- A single block that is a whole span of this text: nothing was skipped, and no line moved. -/
def soleEmission (span : Span) (text : Text) : Emission :=
  { blocks := [soleBlock span text]
    admitted := ⟨[(soleBlock span text).fingerprint]⟩
    events := [.spanChunked span.file span.baseType (text.count '\n' + 1) 1] }

variable {limits : Limits} {s : Sizing} {span : Span} {text : Text} {admitted : Admitted}
  {block : Block} {i number : Nat} {line : Text}

theorem pieces_of_fits (hfits : s.exceeds text.length = false) :
    pieces s (lines text) = [.run 0 (lines text) true] := by
  have hlines : 0 < (lines text).length := List.length_pos_iff.mpr (lines_ne_nil text)
  have hwhole : s.exceeds (stretchLength (lines text) 0 (lines text).length) = false := by
    rwa [stretchLength, stretch_zero_length, joinLines_lines]
  have hpieces := (pieces_settles s (lines text)).eq_final hlines hwhole
  rwa [stretch_zero_length] at hpieces

theorem spanDrafts_of_fits (span : Span) (htext : text ≠ [])
    (hfits : s.exceeds text.length = false) :
    spanDrafts s span (lines text) =
      [.chunk span.startLine (span.startLine + text.count '\n') text] := by
  have hlines : 0 < (lines text).length := List.length_pos_iff.mpr (lines_ne_nil text)
  have hdrafts : drafts s.limits span
      (.run 0 (stretch (lines text) 0 (lines text).length) true) = _ :=
    drafts_run hlines (Nat.le_refl _) true
  have hlast : span.startLine + ((lines text).length : Int) - 1 =
      span.startLine + (text.count '\n' : Int) := by
    rw [length_lines]
    omega
  rw [stretch_zero_length, joinLines_lines, if_neg htext, if_neg (fun h => Bool.noConfusion h.2),
    hlast, Int.natCast_zero, Int.add_zero] at hdrafts
  rw [spanDrafts, pieces_of_fits hfits, List.flatMap_singleton, hdrafts]

theorem chunkBlock_zero (span : Span) (text : Text) :
    chunkBlock span 0 span.startLine (span.startLine + text.count '\n') text =
      soleBlock span text := by
  have hpart : partName span 1 = (givenName span).map fun name => name ++ " (part 1)".toList := by
    simp only [partName, List.append_assoc]
    rfl
  rw [chunkBlock, hpart]
  rfl

theorem chunkLines_of_fits (span : Span) (htext : text ≠ [])
    (hfits : s.exceeds text.length = false) :
    chunkLines s span (lines text) .empty = soleEmission span text := by
  have hsettle : settle span 0 .empty (spanDrafts s span (lines text)) =
      ⟨[soleBlock span text], ⟨[(soleBlock span text).fingerprint]⟩, []⟩ := by
    rw [spanDrafts_of_fits span htext hfits, settle, chunkBlock_zero]
    rfl
  rw [spanDrafts] at hsettle
  rw [chunkLines, hsettle, length_lines]
  rfl

/-- A node whose text is not too long has the same block packed or not, under another kind and
name. -/
theorem emit_packed_of_fits {node : Cursor} (file : SourceFile) (category : Category)
    (name doc signature : Option Text) (htext : node.text ≠ [])
    (hrows : node.info.endRow = node.info.startRow + node.text.count '\n')
    (hfits : s.exceeds node.text.length = false) :
    ((Portion.packed s (file.nodeSpan category node name doc signature) node.text).emit
        .empty).blocks =
      ((Portion.whole (file.nodeBlock category node name doc signature)).emit .empty).blocks.map
        Block.asOnlyChunk := by
  have hlast : SourceFile.startLine node + (node.text.count '\n' : Int) =
      SourceFile.endLine node := by
    rw [SourceFile.startLine, SourceFile.endLine, hrows]
    omega
  have hpacked : (Portion.packed s (file.nodeSpan category node name doc signature)
      node.text).emit .empty = soleEmission (file.nodeSpan category node name doc signature)
        node.text := chunkLines_of_fits _ htext hfits
  have hwhole : ((Portion.whole (file.nodeBlock category node name doc signature)).emit
      .empty).blocks = [file.nodeBlock category node name doc signature] := rfl
  rw [hpacked, hwhole, soleEmission, soleBlock]
  simp only [SourceFile.nodeSpan, hlast]
  rfl

/-- A slice that is the whole text is the first segment of the only line. -/
theorem IsSlice.eq_of_code (h : IsSlice s span (lines text) i number line block)
    (hcode : block.code = text) :
    lines text = [text] ∧ IsSlice s span [text] 0 0 text block := by
  have hline : line ∈ lines text := List.mem_of_getElem? h.line_eq
  have hslice := h.code_eq
  rw [hcode] at hslice
  have hone : lines text = [text] := by
    apply lines_eq_singleton
    intro hfeed
    rw [hslice] at hfeed
    exact not_mem_of_mem_lines hline (List.mem_of_mem_drop (List.mem_of_mem_take hfeed))
  rw [hone] at h hline
  obtain rfl := List.mem_singleton.mp hline
  obtain rfl : i = 0 := by
    obtain ⟨hi, -⟩ := List.getElem?_eq_some_iff.mp h.line_eq
    exact Nat.lt_one_iff.mp hi
  obtain rfl : number = 0 := by
    have hlength := congrArg List.length hslice
    rw [List.length_take, List.length_drop] at hlength
    have hpos := h.pos
    rw [hcode] at hpos
    have hskipped : number * s.limits.maxChars = 0 := by omega
    exact (Nat.mul_eq_zero.mp hskipped).resolve_right (Nat.ne_of_gt s.limits.maxChars_pos)
  exact ⟨hone, h⟩

theorem code_ne_of_long (hlong : s.exceeds text.length = true)
    (hblock : block ∈ (chunkLines s span (lines text) admitted).blocks) :
    block.code ≠ text ∨ lines text = [text] ∧ IsSlice s span [text] 0 0 text block := by
  by_cases hcode : block.code = text
  · right
    have hT : s.threshold ≠ .nan := by
      intro hnan
      rw [Sizing.exceeds, hnan, Binary64.nan_ltNat] at hlong
      exact Bool.noConfusion hlong
    rcases isSizedRun_or_isSlice hT hblock with hrun | ⟨i, number, line, hslice⟩
    · have hfits := hrun.le_threshold.ltNat_eq_false
      rw [hcode] at hfits
      exact absurd (hfits.symm.trans hlong) Bool.false_ne_true
    · exact hslice.eq_of_code hcode
  · exact Or.inl hcode

/-- A text that is not too long is packed into one block, the text itself, which for a node is the
block without packing under another kind and name.  A file without structure has one such block,
unless it is too small to have any.  A text that is too long is not the code of any of its blocks,
unless it is a single line and the block is its first segment. -/
theorem unsplit_emitted_whole (limits : Limits) (s : Sizing) (hs : Sizing.ofLimits? limits = some s) :
    (∀ (span : Span) (text : Text), text ≠ [] → isOversized limits text = some false →
        chunkLines s span (lines text) .empty = soleEmission span text) ∧
      (∀ (file : SourceFile) (category : Category) (node : Cursor)
          (name doc signature : Option Text), node.text ≠ [] →
        node.info.endRow = node.info.startRow + node.text.count '\n' →
        isOversized limits node.text = some false →
          ((Portion.packed s (file.nodeSpan category node name doc signature) node.text).emit
              .empty).blocks =
            ((Portion.whole (file.nodeBlock category node name doc signature)).emit
              .empty).blocks.map Block.asOnlyChunk) ∧
      (∀ file modulePath content : Text,
        (content.length < limits.minChars → ∀ admitted : Admitted,
          chunkFallback limits file modulePath content admitted = some (.none admitted)) ∧
        (limits.minChars ≤ content.length → isOversized limits content = some false →
          chunkFallback limits file modulePath content .empty =
            some (soleEmission (fallbackSpan file modulePath) content))) ∧
      ∀ (span : Span) (text : Text) (admitted : Admitted), isOversized limits text = some true →
        ∀ block ∈ (chunkLines s span (lines text) admitted).blocks,
          block.code ≠ text ∨ lines text = [text] ∧ IsSlice s span [text] 0 0 text block := by
  refine ⟨?_, ?_, ?_, ?_⟩
  · intro span text htext hfits
    rw [isOversized_eq hs] at hfits
    exact chunkLines_of_fits span htext (Option.some.inj hfits)
  · intro file category node name doc signature htext hrows hfits
    rw [isOversized_eq hs] at hfits
    exact emit_packed_of_fits file category name doc signature htext hrows (Option.some.inj hfits)
  · intro file modulePath content
    constructor
    · intro hsmall admitted
      rw [chunkFallback, if_pos hsmall]
    · intro hlarge hfits
      rw [isOversized_eq hs] at hfits
      have hcontent : content ≠ [] :=
        List.ne_nil_of_length_pos (Nat.lt_of_lt_of_le limits.minChars_pos hlarge)
      rw [chunkFallback, if_neg (Nat.not_lt_of_le hlarge), hs]
      exact congrArg some (chunkLines_of_fits _ hcontent (Option.some.inj hfits))
  · intro span text admitted hlong block hblock
    rw [isOversized_eq hs] at hlong
    exact code_ne_of_long (Option.some.inj hlong) hblock

/-- Two lines that fit a block together, the second of them empty. -/
def fedLine : Text := "012345678\n".toList

/-- A line that no block can hold. -/
def wideLine : Text := "0123456789abc".toList

theorem unsplit_emitted_whole_fedLine :
    Sizing.ofLimits? .tiny = some .tiny ∧ fedLine ≠ [] ∧
      isOversized .tiny fedLine = some false ∧
      chunkLines .tiny .bare (lines fedLine) .empty = soleEmission .bare fedLine ∧
      chunkFallback .tiny [] [] "0123".toList .empty = some (.none .empty) ∧
      chunkFallback .tiny [] [] fedLine .empty = some (soleEmission (fallbackSpan [] []) fedLine) ∧
      isOversized .tiny wideLine = some true ∧
      ∀ block ∈ (chunkLines .tiny .bare (lines wideLine) .empty).blocks,
        block.code ≠ wideLine ∨ lines wideLine = [wideLine] ∧
          IsSlice .tiny .bare [wideLine] 0 0 wideLine block := by
  have hfits : isOversized .tiny fedLine = some false := by
    rw [isOversized_eq Sizing.ofLimits?_tiny]
    decide
  have hlong : isOversized .tiny wideLine = some true := by
    rw [isOversized_eq Sizing.ofLimits?_tiny]
    decide
  obtain ⟨hspans, -, hfiles, hcodes⟩ := unsplit_emitted_whole .tiny .tiny Sizing.ofLimits?_tiny
  exact ⟨Sizing.ofLimits?_tiny, by decide, hfits, hspans .bare fedLine (by decide) hfits,
    (hfiles [] [] "0123".toList).1 (by decide) .empty, (hfiles [] [] fedLine).2 (by decide) hfits,
    hlong, hcodes .bare wideLine .empty hlong⟩

end Chunking

end SourceBlocks
