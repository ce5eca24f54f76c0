import SourceBlocks.Proofs.Extraction.Grounding

/-!
# Rows of nodes that cut characters

A parser may hand out the octets between any two positions, also when these cut a character in two.
Reading such octets keeps their line feeds, so the text of a node has as many lines as the node has
rows, and whatever is made of the node stands on these.
-/

namespace SourceBlocks

/-- A node holds the octets between its positions, which may cut characters, and its rows are the
numbers of octets 0x0A before the positions. -/
structure NodeInfo.CountsRows (octets : Octets) (info : NodeInfo) : Prop where
  start_le_end : info.startByte ≤ info.endByte
  text_eq : info.text = .octets (octets.slice info.startByte info.endByte)
  startRow_eq : info.startRow = (octets.take info.startByte).count 0x0A
  endRow_eq : info.endRow = (octets.take info.endByte).count 0x0A

/-- The lines of a block are among those of a node. -/
structure Block.KeepsTo (block : Block) (node : Cursor) : Prop where
  start_le : SourceFile.startLine node ≤ block.startLine
  start_le_end : block.startLine ≤ block.endLine
  end_le : block.endLine ≤ SourceFile.endLine node

variable {octets : Octets} {node : Cursor} {block : Block} {portion : Portion}
  {admitted : Admitted} {file : SourceFile}

theorem Octets.take_append_slice {start stop : Nat} (h : start ≤ stop) :
    octets.take start ++ octets.slice start stop = octets.take stop := by
  rw [slice, ← List.take_add, Nat.add_sub_cancel' h]

namespace NodeInfo.CountsRows

/-- The text of a node has a line feed for each row on which the node goes on. -/
theorem startRow_add_count (h : node.info.CountsRows octets) :
    node.info.startRow + node.text.count '\n' = node.info.endRow := by
  have htext : node.text.count '\n' =
      (octets.slice node.info.startByte node.info.endByte).count 0x0A := by
    rw [Cursor.text, h.text_eq]
    exact Utf8.count_decodeLossy _
  rw [htext, h.startRow_eq, h.endRow_eq, ← Octets.take_append_slice h.start_le_end,
    List.count_append]

theorem length_lines (h : node.info.CountsRows octets) :
    ((Text.lines node.text).length : Int) = node.info.endRow - node.info.startRow + 1 := by
  have hrows := h.startRow_add_count
  rw [Text.length_lines]
  omega

end NodeInfo.CountsRows

namespace Block.KeepsTo

theorem of_standsIn (hnode : node.info.CountsRows octets)
    (h : block.StandsIn node.text (SourceFile.startLine node)) : block.KeepsTo node := by
  obtain ⟨before, after, htext, hstart, hend⟩ := h
  have hrows := hnode.startRow_add_count
  rw [htext, List.count_append, List.count_append] at hrows
  refine ⟨?_, ?_, ?_⟩
  · omega
  · omega
  · rw [hend, hstart, SourceFile.startLine, SourceFile.endLine, ← hrows]
    push_cast
    omega

theorem of_nodeBlock (hnode : node.info.CountsRows octets) (category : Category)
    (name doc signature : Option Text) :
    (file.nodeBlock category node name doc signature).KeepsTo node := by
  have hrows := hnode.startRow_add_count
  have hlines : SourceFile.startLine node ≤ SourceFile.endLine node := by
    rw [SourceFile.startLine, SourceFile.endLine]
    omega
  exact ⟨Int.le_refl _, hlines, Int.le_refl _⟩

end Block.KeepsTo

theorem Portion.IsOf.keepsTo (h : portion.IsOf file node) (hnode : node.info.CountsRows octets)
    (hblock : block ∈ (portion.emit admitted).blocks) : block.KeepsTo node := by
  cases h with
  | whole category name doc signature =>
    rw [eq_of_mem_emit_whole hblock]
    exact .of_nodeBlock hnode category name doc signature
  | packed => exact .of_standsIn hnode (Chunking.chunkLines_standsIn hblock)

/-- Reading octets, well formed or not, keeps their line feeds.  So a node whose rows are counted in
the octets has a line for each of its rows, and the blocks that its lines are packed into, and all
others that an extraction makes of such nodes, stand on the lines of the node. -/
theorem lines_follow_rows :
    (∀ octets, (NodeText.octets octets).decoded.count '\n' = octets.count 0x0A) ∧
      (∀ (octets : Octets) (node : Cursor), node.info.CountsRows octets →
        ((Text.lines node.text).length : Int) = node.info.endRow - node.info.startRow + 1 ∧
          ∀ (s : Sizing) (span : Span) (admitted : Admitted),
            span.startLine = SourceFile.startLine node →
            ∀ block ∈ (Chunking.chunkLines s span (Text.lines node.text) admitted).blocks,
              block.KeepsTo node) ∧
      ∀ (octets : Octets) (limits : Limits) (rootPrefix path content : Text)
        (captures : List Capture) (admitted : Admitted) (blocks : List Block), captures ≠ [] →
        (∀ capture ∈ captures, ∀ node, capture.IsSource node → node.info.CountsRows octets) →
        (extractBlocks limits rootPrefix path content captures admitted).outcome = .ok blocks →
        ∀ block ∈ blocks, ∃ capture ∈ captures, ∃ node, capture.IsSource node ∧
          block.KeepsTo node := by
  refine ⟨Utf8.count_decodeLossy, ?_, ?_⟩
  · intro octets node hnode
    refine ⟨hnode.length_lines, ?_⟩
    intro s span admitted hstart block hblock
    have hstands := Chunking.chunkLines_standsIn hblock
    rw [hstart] at hstands
    exact .of_standsIn hnode hstands
  · intro octets limits rootPrefix path content captures admitted blocks hne hcaptures hblocks
      block hmem
    obtain ⟨capture, hcapture, node, hsource, file, portion, before, hof, hblock⟩ :=
      exists_source_of_mem hne hblocks hmem
    exact ⟨capture, hcapture, node, hsource,
      hof.keepsTo (hcaptures capture hcapture node hsource) hblock⟩

/-! ## A node that cuts two characters -/

/-- Three lines, with a character of two octets at the end of the first one and of the last one. -/
def cutContent : Text := "aé\nbbbbbbbbbbbb\ncé".toList

/-- A node from the middle of the one character to the middle of the other. -/
def cutNode : ParseTree :=
  .node ⟨"class_declaration", true, 2, 19, 0, 2, none,
    .octets ((Utf8.encode cutContent).slice 2 19), none⟩ []

/-- The capture of the node, by itself. -/
def cutCapture : Capture := .ofNode "class" (.root cutNode)

/-- The blocks of the node. -/
def cutBlocks : List Block :=
  [⟨"class_chunk_line_segment".toList, some "(line 2 segment 1)".toList, "a.js".toList, 2, 2,
      "bbbbbbbbbb".toList, "a".toList, none, none⟩,
    ⟨"class_chunk_line_segment".toList, some "(line 2 segment 2)".toList, "a.js".toList, 2, 2,
      "bb".toList, "a".toList, none, none⟩,
    ⟨"class_chunk".toList, none, "a.js".toList, 3, 3, "c\uFFFD".toList, "a".toList, none, none⟩]

theorem eq_of_isSource_cutCapture (h : cutCapture.IsSource node) : node = cutCapture.node := by
  obtain ⟨category, hcategory, hwhere⟩ := h
  have hclass : Category.ofNode? cutCapture.kind cutCapture.node = some .classDefinition := rfl
  obtain rfl := Option.some.inj (hclass.symm.trans hcategory)
  rwa [if_neg (by decide)] at hwhere

theorem lines_follow_rows_cut :
    (NodeText.octets [0xF0, 0x9F, 0x0A, 0xE2, 0x0A]).decoded = "\uFFFD\n\uFFFD\n".toList ∧
      (NodeText.octets [0xF0, 0x9F, 0x0A, 0xE2, 0x0A]).decoded.count '\n' = 2 ∧
      cutCapture.node.info.CountsRows (Utf8.encode cutContent) ∧
      cutCapture.node.text = "\uFFFD\nbbbbbbbbbbbb\nc\uFFFD".toList ∧
      ((Text.lines cutCapture.node.text).length : Int) = 2 - 0 + 1 ∧
      Span.bare.startLine = SourceFile.startLine cutCapture.node ∧
      (∀ block ∈ (Chunking.chunkLines .tiny .bare (Text.lines cutCapture.node.text) .empty).blocks,
        block.KeepsTo cutCapture.node) ∧
      [cutCapture] ≠ [] ∧
      (∀ capture ∈ [cutCapture], ∀ node, capture.IsSource node →
        node.info.CountsRows (Utf8.encode cutContent)) ∧
      (extractBlocks .tiny [] "a.js".toList cutContent [cutCapture] .empty).outcome =
        .ok cutBlocks ∧
      ∀ block ∈ cutBlocks, ∃ capture ∈ [cutCapture], ∃ node, capture.IsSource node ∧
        block.KeepsTo node := by
  obtain ⟨hoctets, hnodes, hextractions⟩ := lines_follow_rows
  have hcut : cutCapture.node.info.CountsRows (Utf8.encode cutContent) :=
    ⟨by decide, rfl, by decide, by decide⟩
  have hsources : ∀ capture ∈ [cutCapture], ∀ node, capture.IsSource node →
      node.info.CountsRows (Utf8.encode cutContent) := by
    intro capture hcapture node hnode
    obtain rfl := List.mem_singleton.mp hcapture
    rwa [eq_of_isSource_cutCapture hnode]
  have hblocks : (extractBlocks .tiny [] "a.js".toList cutContent [cutCapture] .empty).outcome =
      .ok cutBlocks := by decide +kernel
  obtain ⟨hlines, hchunks⟩ := hnodes _ _ hcut
  exact ⟨by decide +kernel, hoctets _, hcut, by decide +kernel, hlines, rfl,
    hchunks .tiny .bare .empty rfl, List.cons_ne_nil _ _, hsources, hblocks,
    hextractions _ _ _ _ _ _ _ _ (List.cons_ne_nil _ _) hsources hblocks⟩

end SourceBlocks
