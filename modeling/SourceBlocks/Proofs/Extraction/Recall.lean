import SourceBlocks.Proofs.Extraction.Grounding
import SourceBlocks.Proofs.Extraction.History

/-!
# Nothing captured is lost

A block that an extraction leaves out was admitted before under the same text.  As long as the
digests of the admitted texts do not collide, the earlier block then stands on the same lines and
begins with the same characters.  It may be a segment only if these characters begin with the digit
of a number, which is why nodes whose text begins with a digit are set apart.
-/

namespace SourceBlocks

/-- What tells a block from the others of its file: its lines and the beginning of its code. -/
def Block.outline (block : Block) : Int × Int × Text :=
  (block.startLine, block.endLine, block.code.take Fingerprint.coveredChars)

/-- A block that is no segment stands for a node: it has the node's lines and the beginning of the
node's text. -/
def Block.Represents (block : Block) (node : Cursor) : Prop :=
  block.isSegment = false ∧ block.startLine = SourceFile.startLine node ∧
    block.endLine = SourceFile.endLine node ∧
    block.code.take Fingerprint.coveredChars = node.text.take Fingerprint.coveredChars

/-- The text of a node is kept in one block, and cannot be mistaken for a numbered segment. -/
structure Cursor.IsPlain (node : Cursor) (limits : Limits) : Prop where
  not_oversized : Chunking.isOversized limits node.text ≠ some true
  no_leading_digit : ∀ c, node.text.head? = some c → c.isDigit = false

/-- The portions that captures of a file yield. -/
def capturedPortions (limits : Limits) (rootPrefix path content : Text) (captures : List Capture) :
    List (Except ExtractionFailure Portion) :=
  captures.flatMap
    (SourceFile.capturePortions ⟨path, Path.modulePath path rootPrefix, Utf8.encode content⟩ limits)

/-- The texts that are digested when blocks are made of captures. -/
def capturedIdentifiers (limits : Limits) (rootPrefix path content : Text)
    (captures : List Capture) : List Text :=
  (capturedPortions limits rootPrefix path content captures).flatMap fun
    | .ok portion => portion.identifiers
    | .error _ => []

/-- The blocks of captures are different, and stand for all nodes that are to have one. -/
structure Recalls (limits : Limits) (captures : List Capture) (blocks : List Block) : Prop where
  outlines_nodup : ((blocks.filter fun block => !block.isSegment).map Block.outline).Nodup
  nodes_represented : ∀ capture ∈ captures,
    (Category.ofNode? capture.kind capture.node).isSome → capture.kind ∉ Kind.declarations →
    capture.node.text ≠ [] → capture.node.IsPlain limits →
      ∃ block ∈ blocks, block.Represents capture.node
  variables_represented : ∀ capture ∈ captures,
    capture.kind ∈ Kind.declarations → capture.node.isAtFileScope = true →
    ∀ node ∈ capture.node.children, node.kind = "variable_declarator" →
    limits.minChars ≤ node.text.length → node.IsPlain limits →
      ∃ block ∈ blocks, block.Represents node

/-! ## Portions of captures -/

section Portions

variable {file : SourceFile} {limits : Limits} {node : Cursor} {category : Category}
  {capture : Capture} {portion : Portion} {doc : Option Text}

theorem ofNode?_declaration (hkind : capture.kind ∈ Kind.declarations)
    (hscope : capture.node.isAtFileScope = true) :
    Category.ofNode? capture.kind capture.node = some .fileVariable := by
  unfold Category.ofNode?
  rcases List.mem_pair.mp hkind with heq | heq
  · rw [heq]
    exact if_pos hscope
  · rw [heq]
    exact if_pos hscope

theorem mem_declarations_of_fileVariable
    (h : Category.ofNode? capture.kind capture.node = some .fileVariable) :
    capture.kind ∈ Kind.declarations := by
  unfold Category.ofNode? at h
  split at h
  case h_4 =>
    have hnever := Option.some.inj h
    split at hnever <;> cases hnever
  case h_12 hkind | h_13 hkind =>
    rw [hkind]
    decide
  all_goals cases h

theorem isSegment_label (category : Category) :
    "_line_segment".toList.isSuffixOf category.label = false := by
  cases category <;> decide

theorem isSegment_chunkLabel (category : Category) :
    "_line_segment".toList.isSuffixOf (category.label ++ "_chunk".toList) = false := by
  cases category <;> decide

theorem Portion.IsOf.belongsTo (h : portion.IsOf file node) : portion.BelongsTo file.path := by
  cases h with
  | whole category name doc signature => exact ⟨rfl, isSegment_label category⟩
  | packed sizing category name doc signature => exact ⟨rfl, isSegment_chunkLabel category⟩

theorem capturePortions_node
    (hcategory : Category.ofNode? capture.kind capture.node = some category)
    (hkind : capture.kind ∉ Kind.declarations) :
    file.capturePortions limits capture = file.nodePortion limits category capture.node := by
  have hne : category ≠ .fileVariable := by
    rintro rfl
    exact hkind (mem_declarations_of_fileVariable hcategory)
  rw [SourceFile.capturePortions, hcategory]
  cases category with
  | fileVariable => exact absurd rfl hne
  | function | method | classDefinition | interface | structDefinition | enumeration => rfl

/-- The portions of a variable are among those of the declaration at file scope that it stands
in. -/
theorem mem_capturePortions_variable {portion : Except ExtractionFailure Portion}
    (hkind : capture.kind ∈ Kind.declarations) (hscope : capture.node.isAtFileScope = true)
    (hchild : node ∈ capture.node.children) (hnode : node.kind = "variable_declarator")
    (h : portion ∈ file.variablePortion limits capture.node.documentation? node) :
    portion ∈ file.capturePortions limits capture := by
  rw [SourceFile.capturePortions, ofNode?_declaration hkind hscope]
  exact List.mem_flatMap.mpr ⟨node, List.mem_filter.mpr ⟨hchild, decide_eq_true hnode⟩, h⟩

theorem not_exceeds {sizing : Sizing} {text : Text} (hsizing : Sizing.ofLimits? limits = some sizing)
    (hsize : Chunking.isOversized limits text ≠ some true) :
    ¬ sizing.exceeds text.length = true := by
  intro hexceeds
  apply hsize
  rw [Chunking.isOversized_eq hsizing, hexceeds]

theorem false_of_failed {failure : ExtractionFailure}
    (hsound : ∀ portion ∈ [(.error failure : Except ExtractionFailure Portion)],
      ∃ sound, portion = .ok sound) : False := by
  obtain ⟨sound, hfailed⟩ := hsound _ (List.mem_singleton_self _)
  cases hfailed

/-- A node that need not be split is a block if its portions do not fail. -/
theorem whole_mem_nodePortion (htext : node.text ≠ [])
    (hsize : Chunking.isOversized limits node.text ≠ some true)
    (hsound : ∀ portion ∈ file.nodePortion limits category node, ∃ sound, portion = .ok sound) :
    ∃ name doc signature, .ok (.whole (file.nodeBlock category node name doc signature)) ∈
      file.nodePortion limits category node := by
  unfold SourceFile.nodePortion at hsound ⊢
  rw [if_neg (by simpa using htext)] at hsound ⊢
  dsimp only at hsound ⊢
  split at hsound
  next => exact (false_of_failed hsound).elim
  next name signature hdescribed =>
    split at hsound
    next => exact (false_of_failed hsound).elim
    next sizing hsizing =>
      refine ⟨name, node.documentation?, signature, ?_⟩
      rw [if_neg (not_exceeds hsizing hsize)]
      exact List.mem_singleton_self _

/-- A variable that is large enough and need not be split is a block if its portions do not
fail. -/
theorem whole_mem_variablePortion (hlength : limits.minChars ≤ node.text.length)
    (hsize : Chunking.isOversized limits node.text ≠ some true)
    (hsound : ∀ portion ∈ file.variablePortion limits doc node, ∃ sound, portion = .ok sound) :
    ∃ name, .ok (.whole (file.nodeBlock .fileVariable node name doc none)) ∈
      file.variablePortion limits doc node := by
  unfold SourceFile.variablePortion at hsound ⊢
  split at hsound
  next => exact (false_of_failed hsound).elim
  next nameNode hname =>
    dsimp only at hsound ⊢
    split at hsound
    next => exact (false_of_failed hsound).elim
    next sizing hsizing =>
      refine ⟨some ((nameNode.map Cursor.text).getD SourceFile.unknownVariable), ?_⟩
      rw [if_neg (not_exceeds hsizing hsize), if_pos hlength]
      exact List.mem_singleton_self _

end Portions

/-! ## Blocks of captures -/

/-- A number is spelled with a digit in front. -/
theorem Text.exists_digit_head (n : Nat) (t : Text) :
    ∃ c, (ofNat n ++ t).head? = some c ∧ c.isDigit = true := by
  have hne : ofNat n ≠ [] := Nat.toDigits_ne_nil
  obtain ⟨c, digits, hdigits⟩ := List.exists_cons_of_ne_nil hne
  refine ⟨c, ?_, ?_⟩
  · rw [hdigits]
    rfl
  · apply Nat.isDigit_of_mem_toDigits (b := 10) (n := n) (by decide) (by decide)
    change c ∈ ofNat n
    rw [hdigits]
    exact List.mem_cons_self

section Blocks

variable {path : Text} {identifiers : List Text} {after : Admitted}
  {entries : List (Text × Block)} {node : Cursor}

/-- Blocks that are no segments differ in their lines or in the beginning of their code. -/
theorem Admits.outlines_nodup {before : Admitted}
    (h : Admits path identifiers before after entries) :
    (((entries.map Prod.snd).filter fun block => !block.isSegment).map Block.outline).Nodup := by
  have hdigests : entries.Pairwise fun entry other =>
      Fingerprint.digest entry.1 ≠ Fingerprint.digest other.1 := List.pairwise_map.mp h.nodup
  rw [List.filter_map, List.Nodup, List.pairwise_map, List.pairwise_map, List.pairwise_filter]
  refine hdigests.imp_of_mem ?_
  intro entry other hentry hother hne hplain hplain' houtline
  apply hne
  rw [(h.identified entry hentry).eq_of_plain (by simpa using hplain),
    (h.identified other hother).eq_of_plain (by simpa using hplain')]
  obtain ⟨hstart, hrest⟩ := Prod.mk.inj houtline
  obtain ⟨hend, hcode⟩ := Prod.mk.inj hrest
  rw [Fingerprint.identifier, Fingerprint.identifier, hstart, hend, hcode]

/-- A node that may be a block is represented, by itself or by an earlier block. -/
theorem Admits.exists_represents (h : Admits path identifiers .empty after entries)
    (hdigest : Fingerprint.CollisionFree identifiers)
    (hmem : Fingerprint.identifier path (SourceFile.startLine node) (SourceFile.endLine node)
      node.text ∈ identifiers)
    (hdigit : ∀ c, node.text.head? = some c → c.isDigit = false) :
    ∃ block ∈ entries.map Prod.snd, block.Represents node := by
  obtain ⟨⟨identifier, block⟩, hentry, hsame⟩ := h.exists_entry hmem List.not_mem_nil
  have heq : identifier = _ := hdigest.eq (h.hashed _ hentry) hmem hsame
  have hidentified : block.IdentifiedBy path identifier := h.identified _ hentry
  refine ⟨block, List.mem_map_of_mem hentry, ?_⟩
  cases hidentified with
  | own hkind => exact ⟨hkind, Fingerprint.identifier_inj heq⟩
  | numbered number hkind =>
    -- A numbered segment begins with a digit, and the node does not.
    obtain ⟨-, -, hcode⟩ := Fingerprint.identifier_inj heq
    obtain ⟨c, hhead, hisDigit⟩ := Text.exists_digit_head number ('-' :: block.code)
    have hcovered := congrArg List.head? hcode
    rw [List.head?_take, List.head?_take, if_neg (by decide), if_neg (by decide), hhead] at hcovered
    rw [hdigit c hcovered.symm] at hisDigit
    cases hisDigit

end Blocks

section Captures

variable {limits : Limits} {rootPrefix path content : Text} {captures : List Capture}
  {blocks : List Block} {node : Cursor}

theorem capturedPortions_belongTo {portion : Portion}
    (h : .ok portion ∈ capturedPortions limits rootPrefix path content captures) :
    portion.BelongsTo path := by
  obtain ⟨capture, -, hportion⟩ := List.mem_flatMap.mp h
  obtain ⟨node, -, hof⟩ := capturePortions_isOf hportion
  exact hof.belongsTo

theorem extractBlocks_captured (hne : captures ≠ []) (admitted : Admitted) :
    extractBlocks limits rootPrefix path content captures admitted =
      Extraction.ofPortions (capturedPortions limits rootPrefix path content captures) admitted := by
  rw [extractBlocks, if_neg (by simpa using hne)]
  rfl

/-- What an extraction from captures has admitted and emitted, if it does not fail. -/
theorem captured_admits_from {before : Admitted} (hne : captures ≠ [])
    (h : (extractBlocks limits rootPrefix path content captures before).outcome = .ok blocks) :
    (∀ portion ∈ capturedPortions limits rootPrefix path content captures,
        ∃ sound, portion = .ok sound) ∧
      ∃ entries, blocks = entries.map Prod.snd ∧
        Admits path (capturedIdentifiers limits rootPrefix path content captures) before
          (extractBlocks limits rootPrefix path content captures before).admitted entries := by
  rw [extractBlocks_captured hne] at h ⊢
  have hbelongs : ∀ portion, .ok portion ∈
      capturedPortions limits rootPrefix path content captures → portion.BelongsTo path :=
    fun _ hportion => capturedPortions_belongTo hportion
  obtain ⟨sound, hportions, entries, hblocks, hadmits⟩ := exists_history h hbelongs
  have hidentifiers : capturedIdentifiers limits rootPrefix path content captures =
      sound.flatMap Portion.identifiers := by
    rw [capturedIdentifiers, hportions, List.flatMap_map]
  constructor
  · intro portion hportion
    rw [hportions] at hportion
    obtain ⟨own, -, rfl⟩ := List.mem_map.mp hportion
    exact ⟨own, rfl⟩
  · rw [hidentifiers]
    exact ⟨entries, hblocks, hadmits⟩

theorem captured_admits (hne : captures ≠ [])
    (h : (extractBlocks limits rootPrefix path content captures .empty).outcome = .ok blocks) :
    (∀ portion ∈ capturedPortions limits rootPrefix path content captures,
        ∃ sound, portion = .ok sound) ∧
      ∃ after entries, blocks = entries.map Prod.snd ∧
        Admits path (capturedIdentifiers limits rootPrefix path content captures) .empty after
          entries := by
  obtain ⟨hsound, hadmits⟩ := captured_admits_from hne h
  exact ⟨hsound, _, hadmits⟩

theorem identifier_mem_captured {category : Category} {name doc signature : Option Text}
    (h : .ok (.whole (SourceFile.nodeBlock ⟨path, Path.modulePath path rootPrefix,
      Utf8.encode content⟩ category node name doc signature)) ∈
      capturedPortions limits rootPrefix path content captures) :
    Fingerprint.identifier path (SourceFile.startLine node) (SourceFile.endLine node) node.text ∈
      capturedIdentifiers limits rootPrefix path content captures :=
  List.mem_flatMap.mpr ⟨_, h, List.mem_singleton_self _⟩

end Captures

/-- Blocks that are made of captures differ from each other, and stand for every captured node and
every captured variable that is large enough, need not be split and does not begin with a digit. -/
theorem captures_recalled (limits : Limits) (rootPrefix path content : Text)
    (captures : List Capture) (blocks : List Block) (hne : captures ≠ [])
    (hblocks : (extractBlocks limits rootPrefix path content captures .empty).outcome = .ok blocks)
    (hdigest : Fingerprint.CollisionFree
      (capturedIdentifiers limits rootPrefix path content captures)) :
    Recalls limits captures blocks := by
  obtain ⟨hsound, after, entries, rfl, hadmits⟩ := captured_admits hne hblocks
  have hmem : ∀ capture ∈ captures, ∀ portion ∈
      SourceFile.capturePortions ⟨path, Path.modulePath path rootPrefix, Utf8.encode content⟩ limits
        capture,
      portion ∈ capturedPortions limits rootPrefix path content captures :=
    fun capture hcapture _ hportion => List.mem_flatMap.mpr ⟨capture, hcapture, hportion⟩
  constructor
  case outlines_nodup => exact hadmits.outlines_nodup
  case nodes_represented =>
    intro capture hcapture hcategory hkind htext hplain
    obtain ⟨category, hcategory⟩ := Option.isSome_iff_exists.mp hcategory
    have hown := hmem capture hcapture
    rw [capturePortions_node hcategory hkind] at hown
    obtain ⟨name, doc, signature, hwhole⟩ := whole_mem_nodePortion htext hplain.not_oversized
      fun portion hportion => hsound portion (hown portion hportion)
    have hidentifier := identifier_mem_captured (hown _ hwhole)
    exact hadmits.exists_represents hdigest hidentifier hplain.no_leading_digit
  case variables_represented =>
    intro capture hcapture hkind hscope node hchild hnode hlength hplain
    have hown := fun portion hportion => hmem capture hcapture portion
      (mem_capturePortions_variable hkind hscope hchild hnode hportion)
    obtain ⟨name, hwhole⟩ := whole_mem_variablePortion hlength hplain.not_oversized
      fun portion hportion => hsound portion (hown portion hportion)
    have hidentifier := identifier_mem_captured (hown _ hwhole)
    exact hadmits.exists_represents hdigest hidentifier hplain.no_leading_digit

/-! ## A class captured twice -/

theorem capturedPortions_classTwice :
    capturedPortions .tiny [] "a.js".toList classContent [classCapture, classCapture] =
      [.ok (.whole classBlock), .ok (.whole classBlock)] := by
  rw [capturedPortions, List.flatMap_cons, List.flatMap_cons, capturePortions_class]
  rfl

/-- The second block has the fingerprint of the first one. -/
theorem extractBlocks_classTwice :
    (extractBlocks .tiny [] "a.js".toList classContent [classCapture, classCapture]
      .empty).outcome = .ok [classBlock] := by
  have hfirst : (Portion.whole classBlock).emit .empty =
      ⟨[classBlock], ⟨classBlock.fingerprint :: Admitted.empty.keys⟩, []⟩ :=
    emit_whole_of_not_mem List.not_mem_nil
  have hsecond : (Portion.whole classBlock).emit
      ⟨classBlock.fingerprint :: Admitted.empty.keys⟩ = .none _ :=
    emit_whole_of_mem List.mem_cons_self
  have hportions := capturedPortions_classTwice
  rw [capturedPortions] at hportions
  rw [extractBlocks, List.isEmpty_cons, if_neg Bool.false_ne_true]
  dsimp only
  rw [hportions, Extraction.ofPortions, hfirst]
  dsimp only
  rw [Extraction.ofPortions, hsecond]
  rfl

theorem captures_recalled_classTwice :
    [classCapture, classCapture] ≠ [] ∧
      (extractBlocks .tiny [] "a.js".toList classContent [classCapture, classCapture]
        .empty).outcome = .ok [classBlock] ∧
      Fingerprint.CollisionFree (capturedIdentifiers .tiny [] "a.js".toList classContent
        [classCapture, classCapture]) ∧
      Recalls .tiny [classCapture, classCapture] [classBlock] := by
  have hne : [classCapture, classCapture] ≠ [] := List.cons_ne_nil _ _
  have hdigest : Fingerprint.CollisionFree (capturedIdentifiers .tiny [] "a.js".toList classContent
      [classCapture, classCapture]) := by
    rw [capturedIdentifiers, capturedPortions_classTwice]
    intro x hx y hy _
    rcases List.mem_pair.mp hx with rfl | rfl <;> rcases List.mem_pair.mp hy with rfl | rfl <;> rfl
  exact ⟨hne, extractBlocks_classTwice, hdigest,
    captures_recalled .tiny [] "a.js".toList classContent [classCapture, classCapture] [classBlock]
      hne extractBlocks_classTwice hdigest⟩

end SourceBlocks
