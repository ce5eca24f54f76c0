import SourceBlocks.Extraction
import SourceBlocks.Proofs.Chunking.Placement
import SourceBlocks.Proofs.ParseTree.Agreement

/-!
# Blocks are grounded in the file

The code of every block stands in the text that it was cut from, on the lines that the block
claims.  For the lines of a packed text this holds for runs and segments alike; a node of a tree
that agrees with the file is itself such a text.  The main statement carries both over to the file:
each block is a stretch of it, inside the node that the block was made of.
-/

namespace SourceBlocks

open Packing Text

/-- The code of a block stands in a text that begins at a line, on the lines of the block. -/
def Block.StandsIn (block : Block) (t : Text) (startLine : Int) : Prop :=
  ∃ before after, t = before ++ block.code ++ after ∧
    block.startLine = startLine + before.count '\n' ∧
    block.endLine = block.startLine + block.code.count '\n'

/-- The code of a block stands in a file from position `o` on, on the lines of the block. -/
structure Block.GroundedAt (content : Text) (block : Block) (o : Nat) : Prop where
  fits : o + block.code.length ≤ content.length
  code_eq : (content.drop o).take block.code.length = block.code
  startLine_eq : block.startLine - 1 = (content.take o).count '\n'
  endLine_eq : block.endLine - block.startLine = block.code.count '\n'

/-- The octets of a stretch of a file, from position `o` up to position `o'`, lie inside a node. -/
def Cursor.Encloses (node : Cursor) (content : Text) (o o' : Nat) : Prop :=
  node.info.startByte ≤ Utf8.size (content.take o) ∧
    Utf8.size (content.take o') ≤ node.info.endByte

/-- A node that blocks of a capture are made of: the captured node, or in a declaration one of the
variables it declares. -/
def Capture.IsSource (capture : Capture) (node : Cursor) : Prop :=
  ∃ category, Category.ofNode? capture.kind capture.node = some category ∧
    if category = .fileVariable then
      node ∈ capture.node.children ∧ node.kind = "variable_declarator"
    else node = capture.node

/-- A portion is made of a node: the node as it is, or its text to be packed. -/
inductive Portion.IsOf (file : SourceFile) (node : Cursor) : Portion → Prop where
  | whole (category : Category) (name doc signature : Option Text) :
      IsOf file node (.whole (file.nodeBlock category node name doc signature))
  | packed (sizing : Sizing) (category : Category) (name doc signature : Option Text) :
      IsOf file node (.packed sizing (file.nodeSpan category node name doc signature) node.text)

/-! ## Blocks of a packed text -/

namespace Chunking

variable {s : Sizing} {span : Span} {t : Text} {a b k : Nat} {p : Piece} {d : Draft}
  {block : Block}

theorem standsIn_of_tile (h : Tile s (Text.lines t) a b p) (hd : d ∈ drafts s.limits span p)
    (hblock : d.block? span k = some block) : block.StandsIn t span.startLine := by
  cases h with
  | run hab hb hfits =>
    obtain ⟨before, after, hsplit, hbefore, hlines⟩ := exists_split_of_stretch hab hb
    rcases eq_of_mem_drafts_run hab hb hd with rfl | rfl
    · exact absurd hblock (by simp [Draft.block?])
    · obtain rfl := Option.some.inj hblock
      refine ⟨before, after, hsplit, ?_, ?_⟩
      · simp only [chunkBlock, hbefore]
      · simp only [chunkBlock]
        omega
  | longLine ha hlong =>
    obtain ⟨number, code, hcode, rfl⟩ := exists_of_mem_drafts_longLine hd
    obtain rfl := Option.some.inj hblock
    have hstretch := exists_split_of_stretch (Nat.lt_add_one a) ha
    rw [stretch_eq_cons (Nat.lt_add_one a) ha, stretch_self] at hstretch
    obtain ⟨before, after, hsplit, hbefore, -⟩ := hstretch
    obtain ⟨earlier, later, hsegments⟩ := List.append_of_mem (List.mem_of_getElem? hcode)
    have hline : (Text.lines t)[a] = earlier.flatten ++ code ++ later.flatten := by
      rw [← flatten_segments s.limits.maxChars_pos (Text.lines t)[a], hsegments]
      simp
    -- No line feed stands in the line, neither before the segment nor in it.
    have hfree : '\n' ∉ (Text.lines t)[a] := not_mem_of_mem_lines (List.getElem_mem ha)
    rw [hline] at hfree
    have hearlier : earlier.flatten.count '\n' = 0 :=
      List.count_eq_zero.mpr fun hmem => hfree (by simp [hmem])
    have hnone : code.count '\n' = 0 := List.count_eq_zero.mpr fun hmem => hfree (by simp [hmem])
    refine ⟨before ++ earlier.flatten, later.flatten ++ after, ?_, ?_, ?_⟩
    · rw [hsplit, joinLines, hline]
      simp [segmentBlock]
    · simp [segmentBlock, List.count_append, hbefore, hearlier]
    · simp [segmentBlock, hnone]

/-- Blocks of a packed text stand in it. -/
theorem chunkLines_standsIn {admitted : Admitted}
    (h : block ∈ (chunkLines s span (Text.lines t) admitted).blocks) :
    block.StandsIn t span.startLine := by
  obtain ⟨d, hd, k, hblock⟩ := exists_draft_of_mem_settle h
  rcases exists_tile_of_mem_drafts (pieces_tile s (Text.lines t)) hd with
    ⟨p, lo, hi, -, -, htile, hmem⟩ | ⟨_, _, rfl⟩
  · exact standsIn_of_tile htile hmem hblock
  · exact absurd hblock (by simp [Draft.block?])

end Chunking

/-! ## From the text of a node to the file -/

section File

variable {content : Text} {block : Block} {node : Cursor}

theorem groundedAt_of_split {front back : Text} (hsplit : content = front ++ block.code ++ back)
    (hstart : block.startLine = front.count '\n' + 1)
    (hend : block.endLine = block.startLine + block.code.count '\n') :
    block.GroundedAt content front.length := by
  have htake : content.take front.length = front := by
    rw [hsplit, List.append_assoc, List.take_left]
  refine ⟨?_, ?_, ?_, ?_⟩
  · rw [hsplit, List.length_append, List.length_append]
    exact Nat.le_add_right _ _
  · rw [hsplit, List.append_assoc, List.drop_left, List.take_left]
  · rw [htake, hstart, Int.add_sub_cancel]
  · rw [hend]
    omega

theorem exists_groundedAt (h : block.StandsIn content 1) : ∃ o, block.GroundedAt content o := by
  obtain ⟨front, back, hsplit, hstart, hend⟩ := h
  exact ⟨front.length, groundedAt_of_split hsplit (by omega) hend⟩

/-- What stands in the text of a node stands in the file, inside the node. -/
theorem exists_groundedAt_inside (hnode : node.info.Agrees content)
    (h : block.StandsIn node.text (SourceFile.startLine node)) :
    ∃ o, block.GroundedAt content o ∧ node.Encloses content o (o + block.code.length) := by
  obtain ⟨before, after, hcontent, hfirst, hlast, hrow, -⟩ := Cursor.exists_split hnode
  obtain ⟨front, back, htext, hstart, hend⟩ := h
  have hsplit : content = (before ++ front) ++ block.code ++ (back ++ after) := by
    rw [hcontent, htext]
    simp only [List.append_assoc]
  refine ⟨(before ++ front).length, groundedAt_of_split hsplit ?_ hend, ?_, ?_⟩
  · rw [hstart, SourceFile.startLine, hrow, List.count_append]
    omega
  · rw [hsplit, List.append_assoc, List.take_left, Utf8.size_append, hfirst]
    exact Nat.le_add_right _ _
  · have hinner : node.text = front ++ block.code ++ back := htext
    rw [hinner, ← List.append_assoc, Utf8.size_append, ← List.append_assoc] at hlast
    rw [hsplit, ← List.length_append, List.take_left]
    omega

/-- What lies inside a child lies inside its parent. -/
theorem Cursor.Encloses.of_child {parent : Cursor} {o o' : Nat} (h : node.Encloses content o o')
    (hparent : parent.tree.Agrees content) (hchild : node ∈ parent.children) :
    parent.Encloses content o o' := by
  obtain ⟨hstart, hend⟩ := hparent.children_inside _ (Cursor.tree_mem_children hchild)
  exact ⟨Nat.le_trans hstart h.1, Nat.le_trans h.2 hend⟩

end File

/-! ## Blocks of portions -/

section Portions

variable {content : Text} {block : Block} {node : Cursor} {portion : Portion} {admitted : Admitted}
  {file : SourceFile} {limits : Limits} {category : Category}

theorem eq_of_mem_emit_whole {b : Block} (h : b ∈ ((Portion.whole block).emit admitted).blocks) :
    b = block := by
  rw [Portion.emit] at h
  split at h
  · exact List.mem_singleton.mp h
  · exact absurd h List.not_mem_nil

theorem nodeBlock_standsIn (hnode : node.info.Agrees content) (name doc signature : Option Text) :
    (file.nodeBlock category node name doc signature).StandsIn node.text
      (SourceFile.startLine node) := by
  obtain ⟨before, after, -, -, -, hstart, hend⟩ := Cursor.exists_split hnode
  refine ⟨[], [], by simp [SourceFile.nodeBlock], by simp [SourceFile.nodeBlock], ?_⟩
  simp only [SourceFile.nodeBlock, SourceFile.startLine, SourceFile.endLine, hstart, hend]
  omega

theorem variablePortion_isOf {doc : Option Text}
    (h : .ok portion ∈ file.variablePortion limits doc node) : portion.IsOf file node := by
  unfold SourceFile.variablePortion at h
  split at h
  · exact absurd (List.mem_singleton.mp h) (by simp)
  dsimp only at h
  split at h
  · exact absurd (List.mem_singleton.mp h) (by simp)
  split at h
  · obtain rfl := Except.ok.inj (List.mem_singleton.mp h)
    exact .packed ..
  split at h
  · obtain rfl := Except.ok.inj (List.mem_singleton.mp h)
    exact .whole ..
  · exact absurd h List.not_mem_nil

theorem nodePortion_isOf (h : .ok portion ∈ file.nodePortion limits category node) :
    portion.IsOf file node := by
  unfold SourceFile.nodePortion at h
  split at h
  · exact absurd h List.not_mem_nil
  dsimp only at h
  split at h
  · exact absurd (List.mem_singleton.mp h) (by simp)
  split at h
  · exact absurd (List.mem_singleton.mp h) (by simp)
  split at h
  · obtain rfl := Except.ok.inj (List.mem_singleton.mp h)
    exact .packed ..
  · obtain rfl := Except.ok.inj (List.mem_singleton.mp h)
    exact .whole ..

/-- A portion of a capture is made of a node that the capture is a source of. -/
theorem capturePortions_isOf {capture : Capture}
    (h : .ok portion ∈ file.capturePortions limits capture) :
    ∃ node, capture.IsSource node ∧ portion.IsOf file node := by
  unfold SourceFile.capturePortions at h
  split at h
  next => exact absurd h List.not_mem_nil
  next hcategory =>
    obtain ⟨node, hnode, hportion⟩ := List.mem_flatMap.mp h
    obtain ⟨hchild, hkind⟩ := List.mem_filter.mp hnode
    refine ⟨node, ⟨_, hcategory, ?_⟩, variablePortion_isOf hportion⟩
    rw [if_pos rfl]
    exact ⟨hchild, of_decide_eq_true hkind⟩
  next category hother hcategory =>
    refine ⟨capture.node, ⟨category, hcategory, ?_⟩, nodePortion_isOf h⟩
    rw [if_neg hother]

theorem Portion.IsOf.standsIn (h : portion.IsOf file node) (hnode : node.info.Agrees content)
    (hblock : block ∈ (portion.emit admitted).blocks) :
    block.StandsIn node.text (SourceFile.startLine node) := by
  cases h with
  | whole category name doc signature =>
    rw [eq_of_mem_emit_whole hblock]
    exact nodeBlock_standsIn hnode _ _ _
  | packed => exact Chunking.chunkLines_standsIn hblock

theorem Capture.IsSource.within {tree : ParseTree} {capture : Capture} (h : capture.IsSource node)
    (hcapture : Cursor.Within tree capture.node) : Cursor.Within tree node := by
  obtain ⟨category, -, hwhere⟩ := h
  split at hwhere
  · exact hcapture.child hwhere.1
  · exact hwhere ▸ hcapture

theorem exists_portion_of_mem {portions : List (Except ExtractionFailure Portion)}
    {blocks : List Block} (h : (Extraction.ofPortions portions admitted).outcome = .ok blocks)
    (hblock : block ∈ blocks) :
    ∃ portion, .ok portion ∈ portions ∧ ∃ before, block ∈ (portion.emit before).blocks := by
  induction portions generalizing admitted blocks with
  | nil =>
    obtain rfl := Except.ok.inj h
    exact absurd hblock List.not_mem_nil
  | cons first later ih =>
    obtain ⟨portion, rest, rfl, hrest, rfl⟩ := Extraction.ofPortions_cons_ok h
    rcases List.mem_append.mp hblock with hblock | hblock
    · exact ⟨portion, List.mem_cons_self, admitted, hblock⟩
    · obtain ⟨other, hother, hmem⟩ := ih hrest hblock
      exact ⟨other, List.mem_cons_of_mem _ hother, hmem⟩

end Portions

/-! ## Blocks of a file -/

section Blocks

variable {limits : Limits} {rootPrefix path content : Text} {captures : List Capture}
  {admitted : Admitted} {blocks : List Block} {block : Block}

theorem fallback_standsIn
    (h : (extractBlocks limits rootPrefix path content [] admitted).outcome = .ok blocks)
    (hmem : block ∈ blocks) : block.StandsIn content 1 := by
  rw [extractBlocks, List.isEmpty_nil, if_pos rfl] at h
  dsimp only at h
  split at h
  next => exact absurd h (by simp)
  next emission hemission =>
    obtain rfl := Except.ok.inj h
    rw [Chunking.chunkFallback] at hemission
    split at hemission
    · obtain rfl := Option.some.inj hemission
      exact absurd hmem List.not_mem_nil
    · obtain ⟨s, -, rfl⟩ := Option.map_eq_some_iff.mp hemission
      exact Chunking.chunkLines_standsIn hmem

/-- A block of a file with captures is emitted with a portion that is made of a source of one. -/
theorem exists_source_of_mem (hne : captures ≠ [])
    (h : (extractBlocks limits rootPrefix path content captures admitted).outcome = .ok blocks)
    (hmem : block ∈ blocks) :
    ∃ capture ∈ captures, ∃ node, capture.IsSource node ∧ ∃ (file : SourceFile) (portion : Portion)
      (before : Admitted), portion.IsOf file node ∧ block ∈ (portion.emit before).blocks := by
  rw [extractBlocks, if_neg (by simpa using hne)] at h
  obtain ⟨portion, hportion, before, hblock⟩ := exists_portion_of_mem h hmem
  obtain ⟨capture, hcapture, hportion⟩ := List.mem_flatMap.mp hportion
  obtain ⟨node, hsource, hof⟩ := capturePortions_isOf hportion
  exact ⟨capture, hcapture, node, hsource, _, portion, before, hof, hblock⟩

theorem captured_standsIn {tree : ParseTree} (htree : tree.Agrees content)
    (hcaptures : ∀ capture ∈ captures, Cursor.Within tree capture.node) (hne : captures ≠ [])
    (h : (extractBlocks limits rootPrefix path content captures admitted).outcome = .ok blocks)
    (hmem : block ∈ blocks) :
    ∃ capture ∈ captures, ∃ node, Cursor.Within tree node ∧ capture.IsSource node ∧
      block.StandsIn node.text (SourceFile.startLine node) := by
  obtain ⟨capture, hcapture, node, hsource, file, portion, before, hof, hblock⟩ :=
    exists_source_of_mem hne h hmem
  have hnode := hsource.within (hcaptures capture hcapture)
  exact ⟨capture, hcapture, node, hnode, hsource,
    hof.standsIn (hnode.agrees htree).info_agrees hblock⟩

end Blocks

/-- Every block extracted from a file is a stretch of the file that begins and ends on the lines
that the block claims.  When the file had captures, it lies inside the node of one of them, and
inside one of the variables if that node is a declaration. -/
theorem blocks_grounded (limits : Limits) (rootPrefix path content : Text) (tree : ParseTree)
    (captures : List Capture) (admitted : Admitted) (blocks : List Block) (block : Block)
    (htree : tree.Agrees content)
    (hcaptures : ∀ capture ∈ captures, Cursor.Within tree capture.node)
    (hblocks : (extractBlocks limits rootPrefix path content captures admitted).outcome =
      .ok blocks) (hmem : block ∈ blocks) :
    ∃ o, block.GroundedAt content o ∧ (captures ≠ [] → ∃ capture ∈ captures, ∃ node,
      capture.IsSource node ∧ node.Encloses content o (o + block.code.length) ∧
        capture.node.Encloses content o (o + block.code.length)) := by
  by_cases hne : captures = []
  · subst hne
    obtain ⟨o, hground⟩ := exists_groundedAt (fallback_standsIn hblocks hmem)
    exact ⟨o, hground, fun h => absurd rfl h⟩
  · obtain ⟨capture, hcapture, node, hnode, hsource, hstands⟩ :=
      captured_standsIn htree hcaptures hne hblocks hmem
    obtain ⟨o, hground, hinside⟩ :=
      exists_groundedAt_inside (hnode.agrees htree).info_agrees hstands
    refine ⟨o, hground, fun _ => ⟨capture, hcapture, node, hsource, hinside, ?_⟩⟩
    obtain ⟨category, -, hwhere⟩ := hsource
    split at hwhere
    · exact hinside.of_child ((hcaptures capture hcapture).agrees htree) hwhere.1
    · rwa [← hwhere]

/-! ## A file with one class -/

/-- A class after a line with a character of two octets. -/
def classContent : Text := "é\nclass A{}".toList

/-- The node of the class. -/
def classNode : ParseTree :=
  .node ⟨"class_declaration", true, 3, 12, 1, 1, none,
    .octets (Utf8.encode "class A{}".toList), none⟩ []

/-- The tree of the file. -/
def classTree : ParseTree :=
  .node ⟨"program", true, 0, 12, 0, 1, none, .octets (Utf8.encode classContent), none⟩ [classNode]

/-- The capture of the class. -/
def classCapture : Capture := .ofNode "class" (.child (.root classTree) [] classNode)

/-- The block of the class. -/
def classBlock : Block :=
  ⟨"class".toList, none, "a.js".toList, 2, 2, "class A{}".toList, "a".toList, none, none⟩

theorem classNode_agrees : classNode.Agrees classContent := by
  refine .leaf ⟨by decide, by decide, ⟨2, by decide⟩, ⟨11, by decide⟩, ?_, by decide, by decide⟩
  exact congrArg NodeText.octets (by decide)

theorem classTree_agrees : classTree.Agrees classContent := by
  refine .of_one_child ⟨by decide, by decide, ⟨0, by decide⟩, ⟨11, by decide⟩, ?_, by decide,
    by decide⟩ classNode_agrees (by decide)
  exact congrArg NodeText.octets (by decide)

theorem capturePortions_class :
    SourceFile.capturePortions ⟨"a.js".toList, Path.modulePath "a.js".toList [],
      Utf8.encode classContent⟩ .tiny classCapture = [.ok (.whole classBlock)] := by
  have htext : classCapture.node.text = "class A{}".toList := Utf8.decodeLossy_encode _
  have hcategory : Category.ofNode? classCapture.kind classCapture.node = some .classDefinition :=
    rfl
  rw [SourceFile.capturePortions, hcategory]
  simp only [SourceFile.nodePortion, SourceFile.nodeBlock, htext, Sizing.ofLimits?_tiny]
  rfl

theorem extractBlocks_class :
    (extractBlocks .tiny [] "a.js".toList classContent [classCapture] .empty).outcome =
      .ok [classBlock] := by
  rw [extractBlocks, List.isEmpty_cons, if_neg Bool.false_ne_true]
  dsimp only
  rw [List.flatMap_cons, capturePortions_class]
  rfl

theorem blocks_grounded_class :
    classTree.Agrees classContent ∧
      (∀ capture ∈ [classCapture], Cursor.Within classTree capture.node) ∧
      (extractBlocks .tiny [] "a.js".toList classContent [classCapture] .empty).outcome =
        .ok [classBlock] ∧
      ∃ o, classBlock.GroundedAt classContent o ∧ ([classCapture] ≠ [] →
        ∃ capture ∈ [classCapture], ∃ node, capture.IsSource node ∧
          node.Encloses classContent o (o + classBlock.code.length) ∧
            capture.node.Encloses classContent o (o + classBlock.code.length)) := by
  have hcaptures : ∀ capture ∈ [classCapture], Cursor.Within classTree capture.node := by
    intro capture hcapture
    rw [List.mem_singleton.mp hcapture]
    exact Cursor.Within.root.child List.mem_cons_self
  exact ⟨classTree_agrees, hcaptures, extractBlocks_class,
    blocks_grounded .tiny [] "a.js".toList classContent classTree [classCapture] .empty
      [classBlock] classBlock classTree_agrees hcaptures extractBlocks_class List.mem_cons_self⟩

end SourceBlocks
