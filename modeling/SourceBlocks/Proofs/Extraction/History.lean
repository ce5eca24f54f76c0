import SourceBlocks.Extraction
import SourceBlocks.Proofs.Chunking.Placement

/-!
# The history of an extraction

All portions of a file are admitted one after the other through the same fingerprints.  What was
emitted and what was admitted go together: each block was emitted under one text, whose digest was
new then and is there ever after, and nothing else was admitted.

For a run or a whole node this text is the identifier of the block.  For a segment it is the
identifier of a stretch whose code begins with the number of the segment.
-/

namespace SourceBlocks

/-- The digest that is admitted for a text. -/
def Fingerprint.digest (identifier : Text) : Text := Sha256.hex (Utf8.encode identifier)

/-- Whether a block is a segment of a line, as its category says. -/
def Block.isSegment (block : Block) : Bool :=
  "_line_segment".toList.isSuffixOf block.category

/-- The texts under which a block of a file may be emitted. -/
inductive Block.IdentifiedBy (path : Text) (block : Block) : Text → Prop where
  | own (hkind : block.isSegment = false) :
      IdentifiedBy path block
        (Fingerprint.identifier path block.startLine block.endLine block.code)
  | numbered (number : Nat) (hkind : block.isSegment = true) :
      IdentifiedBy path block
        (Fingerprint.identifier path block.startLine block.endLine
          (Text.ofNat number ++ '-' :: block.code))

theorem Block.IdentifiedBy.eq_of_plain {path identifier : Text} {block : Block}
    (h : block.IdentifiedBy path identifier) (hkind : block.isSegment = false) :
    identifier = Fingerprint.identifier path block.startLine block.endLine block.code := by
  cases h with
  | own => rfl
  | numbered number hsegment =>
    rw [hkind] at hsegment
    cases hsegment

/-- Admitting texts turned `before` into `after`, and emitted blocks under some of the texts. -/
structure Admits (path : Text) (identifiers : List Text) (before after : Admitted)
    (entries : List (Text × Block)) : Prop where
  identified : ∀ entry ∈ entries, entry.2.IdentifiedBy path entry.1
  hashed : ∀ entry ∈ entries, entry.1 ∈ identifiers
  keys_eq : after.keys =
    (entries.map fun entry => Fingerprint.digest entry.1).reverse ++ before.keys
  nodup : (entries.map fun entry => Fingerprint.digest entry.1).Nodup
  new : ∀ entry ∈ entries, Fingerprint.digest entry.1 ∉ before.keys
  recorded : ∀ identifier ∈ identifiers, Fingerprint.digest identifier ∈ after.keys

section Admits

variable {path : Text} {before middle after : Admitted} {identifiers later : List Text}
  {entries entries' : List (Text × Block)}

theorem Admits.nil (path : Text) (admitted : Admitted) : Admits path [] admitted admitted [] where
  identified := by rintro entry ⟨⟩
  hashed := by rintro entry ⟨⟩
  keys_eq := rfl
  nodup := .nil
  new := by rintro entry ⟨⟩
  recorded := by rintro identifier ⟨⟩

theorem Admits.append (h : Admits path identifiers before middle entries)
    (h' : Admits path later middle after entries') :
    Admits path (identifiers ++ later) before after (entries ++ entries') where
  identified := by
    intro entry hentry
    exact (List.mem_append.mp hentry).elim (h.identified entry) (h'.identified entry)
  hashed := by
    intro entry hentry
    rw [List.mem_append]
    exact (List.mem_append.mp hentry).imp (h.hashed entry) (h'.hashed entry)
  keys_eq := by
    rw [h'.keys_eq, h.keys_eq, List.map_append, List.reverse_append, List.append_assoc]
  nodup := by
    rw [List.map_append, List.nodup_append]
    refine ⟨h.nodup, h'.nodup, ?_⟩
    -- The later digests were new when the earlier ones had been admitted.
    rintro key hkey other hother rfl
    obtain ⟨entry, hentry, rfl⟩ := List.mem_map.mp hother
    apply h'.new entry hentry
    rw [h.keys_eq]
    exact List.mem_append_left _ (List.mem_reverse.mpr hkey)
  new := by
    intro entry hentry hold
    rcases List.mem_append.mp hentry with hentry | hentry
    · exact h.new entry hentry hold
    · apply h'.new entry hentry
      rw [h.keys_eq]
      exact List.mem_append_right _ hold
  recorded := by
    intro identifier hidentifier
    rcases List.mem_append.mp hidentifier with hfirst | hlater
    · rw [h'.keys_eq]
      exact List.mem_append_right _ (h.recorded identifier hfirst)
    · exact h'.recorded identifier hlater

/-- A text whose digest is there was admitted before, or a block was emitted under a text with
this digest. -/
theorem Admits.exists_entry (h : Admits path identifiers before after entries) {identifier : Text}
    (hmem : identifier ∈ identifiers) (hnew : Fingerprint.digest identifier ∉ before.keys) :
    ∃ entry ∈ entries, Fingerprint.digest entry.1 = Fingerprint.digest identifier := by
  have hkey := h.recorded identifier hmem
  rw [h.keys_eq, List.mem_append, List.mem_reverse] at hkey
  exact List.mem_map.mp (hkey.resolve_right hnew)

end Admits

/-! ## Portions -/

/-- The texts that are digested when a portion is emitted. -/
def Portion.identifiers : Portion → List Text
  | whole block => [Fingerprint.identifier block.file block.startLine block.endLine block.code]
  | packed sizing span text => Chunking.hashedIdentifiers sizing span (Text.lines text)

/-- A portion belongs to a file, and is not made of segments. -/
def Portion.BelongsTo (path : Text) : Portion → Prop
  | whole block => block.file = path ∧ block.isSegment = false
  | packed _ span _ => span.file = path ∧ "_line_segment".toList.isSuffixOf span.baseType = false

namespace Chunking

variable {path : Text} {span : Span} {parts : Nat} {d : Draft} {drafts : List Draft}

/-- The blocks of drafts that are all admitted, with the texts under which they are emitted. -/
def entriesOf (span : Span) : Nat → List Draft → List (Text × Block)
  | _, [] => []
  | parts, d :: later =>
    ((d.identifier? span).toList.zip (d.block? span parts).toList) ++
      entriesOf span (d.partsAfter parts) later

theorem map_snd_entriesOf (span : Span) (parts : Nat) (drafts : List Draft) :
    (entriesOf span parts drafts).map Prod.snd = blocksOf span parts drafts := by
  induction drafts generalizing parts with
  | nil => rfl
  | cons d later ih =>
    rw [entriesOf, blocksOf, List.map_append, ih]
    cases d <;> rfl

theorem map_fst_entriesOf (span : Span) (parts : Nat) (drafts : List Draft) :
    (entriesOf span parts drafts).map Prod.fst = drafts.filterMap (Draft.identifier? span) := by
  induction drafts generalizing parts with
  | nil => rfl
  | cons d later ih =>
    rw [entriesOf, List.map_append, ih]
    cases d <;> rfl

theorem isSegment_segmentBlock (span : Span) (line : Int) (number : Nat) (code : Text) :
    (segmentBlock span line number code).isSegment = true :=
  List.isSuffixOf_iff_suffix.mpr (List.suffix_append _ _)

theorem identified_of_mem_entriesOf (hfile : span.file = path)
    (hbase : "_line_segment".toList.isSuffixOf span.baseType = false) (parts : Nat)
    (drafts : List Draft) :
    ∀ entry ∈ entriesOf span parts drafts, entry.2.IdentifiedBy path entry.1 := by
  induction drafts generalizing parts with
  | nil => rintro entry ⟨⟩
  | cons d later ih =>
    intro entry hentry
    rcases List.mem_append.mp hentry with hfirst | hlater
    · subst hfile
      cases d with
      | note event => exact absurd hfirst List.not_mem_nil
      | chunk startLine endLine code =>
        obtain rfl := List.mem_singleton.mp hfirst
        exact .own hbase
      | segment line number code =>
        obtain rfl := List.mem_singleton.mp hfirst
        exact .numbered number (isSegment_segmentBlock span line number code)
    · exact ih _ entry hlater

end Chunking

/-! ## Emissions -/

section Emissions

variable {path : Text} {admitted : Admitted} {block : Block}

theorem emit_whole_of_mem (h : block.fingerprint ∈ admitted.keys) :
    (Portion.whole block).emit admitted = .none admitted := by
  rw [Portion.emit, Admitted.accept, Admitted.admitKey, if_pos (Admitted.hasKey_iff.mpr h)]

theorem emit_whole_of_not_mem (h : block.fingerprint ∉ admitted.keys) :
    (Portion.whole block).emit admitted = ⟨[block], ⟨block.fingerprint :: admitted.keys⟩, []⟩ := by
  rw [Portion.emit, Admitted.accept, Admitted.admitKey,
    if_neg fun hkey => h (Admitted.hasKey_iff.mp hkey)]

theorem whole_admits (hfile : block.file = path) (hkind : block.isSegment = false)
    (admitted : Admitted) :
    ∃ entries, ((Portion.whole block).emit admitted).blocks = entries.map Prod.snd ∧
      Admits path (Portion.whole block).identifiers admitted
        ((Portion.whole block).emit admitted).admitted entries := by
  subst hfile
  by_cases hmem : block.fingerprint ∈ admitted.keys
  · rw [emit_whole_of_mem hmem]
    refine ⟨[], rfl, by rintro entry ⟨⟩, by rintro entry ⟨⟩, rfl, .nil, by rintro entry ⟨⟩, ?_⟩
    intro identifier hidentifier
    rw [List.mem_singleton.mp hidentifier]
    exact hmem
  · rw [emit_whole_of_not_mem hmem]
    refine ⟨[(_, block)], rfl, ?_, ?_, rfl, List.nodup_singleton _, ?_, ?_⟩
    · intro entry hentry
      rw [List.mem_singleton.mp hentry]
      exact .own hkind
    · intro entry hentry
      rw [List.mem_singleton.mp hentry]
      exact List.mem_singleton_self _
    · intro entry hentry
      rw [List.mem_singleton.mp hentry]
      exact hmem
    · intro identifier hidentifier
      rw [List.mem_singleton.mp hidentifier]
      exact List.mem_cons_self

theorem packed_admits {span : Span} (hfile : span.file = path)
    (hbase : "_line_segment".toList.isSuffixOf span.baseType = false) (sizing : Sizing)
    (text : Text) (admitted : Admitted) :
    ∃ entries, ((Portion.packed sizing span text).emit admitted).blocks = entries.map Prod.snd ∧
      Admits path (Portion.packed sizing span text).identifiers admitted
        ((Portion.packed sizing span text).emit admitted).admitted entries := by
  obtain ⟨kept, hkept⟩ := Chunking.exists_keeps span 0 admitted
    (Chunking.spanDrafts sizing span (Text.lines text))
  have hidentifiers := Chunking.map_fst_entriesOf span 0 kept
  have hdigests : ((Chunking.entriesOf span 0 kept).map fun entry =>
      Fingerprint.digest entry.1) = Chunking.keys span kept := by
    rw [Chunking.keys_eq_map, ← hidentifiers, List.map_map]
    rfl
  refine ⟨Chunking.entriesOf span 0 kept, ?_, ?_, ?_, ?_, ?_, ?_, ?_⟩
  · rw [Chunking.map_snd_entriesOf]
    exact hkept.blocks_eq
  · exact Chunking.identified_of_mem_entriesOf hfile hbase 0 kept
  · intro entry hentry
    have hmem := List.mem_map_of_mem (f := Prod.fst) hentry
    rw [hidentifiers] at hmem
    exact (hkept.sublist.filterMap _).subset hmem
  · rw [hdigests]
    exact hkept.keys_eq
  · rw [hdigests]
    exact hkept.nodup
  · intro entry hentry
    apply hkept.new
    rw [← hdigests]
    exact List.mem_map_of_mem hentry
  · intro identifier hidentifier
    apply hkept.recorded
    rw [Chunking.keys_eq_map]
    exact List.mem_map_of_mem hidentifier

theorem Portion.exists_admits {portion : Portion} (h : portion.BelongsTo path)
    (admitted : Admitted) :
    ∃ entries, (portion.emit admitted).blocks = entries.map Prod.snd ∧
      Admits path portion.identifiers admitted (portion.emit admitted).admitted entries := by
  cases portion with
  | whole block => exact whole_admits h.1 h.2 admitted
  | packed sizing span text => exact packed_admits h.1 h.2 sizing text admitted

/-- An extraction that does not fail has portions only, and the blocks of all of them. -/
theorem exists_history {portions : List (Except ExtractionFailure Portion)} {blocks : List Block}
    (h : (Extraction.ofPortions portions admitted).outcome = .ok blocks)
    (hproper : ∀ portion, .ok portion ∈ portions → portion.BelongsTo path) :
    ∃ sound : List Portion, portions = sound.map .ok ∧
      ∃ entries, blocks = entries.map Prod.snd ∧
        Admits path (sound.flatMap Portion.identifiers) admitted
          (Extraction.ofPortions portions admitted).admitted entries := by
  induction portions generalizing admitted blocks with
  | nil =>
    obtain rfl := Except.ok.inj h
    exact ⟨[], rfl, [], rfl, .nil path admitted⟩
  | cons first later ih =>
    obtain ⟨portion, rest, rfl, hrest, rfl⟩ := Extraction.ofPortions_cons_ok h
    obtain ⟨own, hblocks, hown⟩ :=
      portion.exists_admits (hproper portion List.mem_cons_self) admitted
    obtain ⟨sound, rfl, entries, rfl, hentries⟩ :=
      ih hrest fun other hother => hproper other (List.mem_cons_of_mem _ hother)
    refine ⟨portion :: sound, rfl, own ++ entries, ?_, hown.append hentries⟩
    rw [hblocks, List.map_append]

end Emissions

end SourceBlocks
