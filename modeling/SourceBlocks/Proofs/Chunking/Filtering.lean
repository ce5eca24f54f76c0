import Mathlib.Data.List.Forall2
import SourceBlocks.Proofs.Chunking.Coverage

/-!
# What was admitted before only filters

Two runs over the same lines are compared: one with nothing admitted before, and one with any
fingerprints admitted before.  The second emits the blocks of the first whose fingerprints are not
among these.  Only the numbers in the names of runs, and which run carries the documentation and
the signature, are settled anew.  A third run with what the second one left behind emits nothing.
-/

namespace SourceBlocks.Chunking

open Packing Text

/-- The number at the end of a name, in front of a closing bracket. -/
def numberInName (name : Text) : Nat :=
  Nat.ofDigitChars 10 (name.dropLast.reverse.takeWhile Char.isDigit).reverse 0

/-- The fingerprint that a block of a span is admitted by, read off the block.  The fingerprint of a
segment covers its number, with which its name ends. -/
def admittedKey (span : Span) (block : Block) : Text :=
  if block.category = span.baseType then block.fingerprint
  else segmentKey span block.startLine (numberInName (block.name.getD []) - 1) block.code

/-- Whether the fingerprint of a block of a span has not been admitted yet. -/
def isNew (span : Span) (admitted : Admitted) (block : Block) : Bool :=
  !admitted.hasKey (admittedKey span block)

/-- Whether a block is a run of a span. -/
def isRun (span : Span) (block : Block) : Bool :=
  decide (block.category = span.baseType)

/-- Two blocks are the same stretch of a span.  Segments have the same name, too. -/
structure Resembles (span : Span) (block other : Block) : Prop where
  category_eq : block.category = other.category
  file_eq : block.file = other.file
  startLine_eq : block.startLine = other.startLine
  endLine_eq : block.endLine = other.endLine
  code_eq : block.code = other.code
  modulePath_eq : block.modulePath = other.modulePath
  name_eq : isRun span block = false → block.name = other.name

/-- Packing a span after some fingerprints were admitted does nothing but leave out the blocks of
an undisturbed run that have these. -/
structure OnlyFilters (s : Sizing) (span : Span) (lines : List Text) (admitted : Admitted) :
    Prop where
  blocks_resemble : List.Forall₂ (Resembles span) (chunkLines s span lines admitted).blocks
    ((chunkLines s span lines .empty).blocks.filter (isNew span admitted))
  runs_numbered : ∀ k block,
    ((chunkLines s span lines admitted).blocks.filter (isRun span))[k]? = some block →
      block.name = partName span (k + 1) ∧
        block.doc = (if k = 0 then span.doc else none) ∧
        block.signature = (if k = 0 then span.signature else none)
  segments_bare : ∀ block ∈ (chunkLines s span lines admitted).blocks,
    isRun span block = false → block.doc = none ∧ block.signature = none
  mem_keys_iff : ∀ key, key ∈ (chunkLines s span lines admitted).admitted.keys ↔
    key ∈ admitted.keys ∨
      ∃ block ∈ (chunkLines s span lines .empty).blocks, admittedKey span block = key
  size_eq : (chunkLines s span lines admitted).admitted.size =
    admitted.size + (chunkLines s span lines admitted).blocks.length
  again_nil : (chunkLines s span lines (chunkLines s span lines admitted).admitted).blocks = []

/-! ## Fingerprints read off blocks -/

theorem numberInName_segmentName (span : Span) (line : Int) (number : Nat) :
    numberInName (segmentName span line number) = number + 1 := by
  have hname : ∃ front, segmentName span line number =
      front ++ ' ' :: ofNat (number + 1) ++ [')'] := by
    have hword : " segment ".toList = " segment".toList ++ [' '] := by decide
    unfold segmentName
    dsimp only
    rw [hword]
    split
    next name _ =>
      exact ⟨name ++ ' ' :: ("(line ".toList ++ ofInt line ++ " segment".toList), by simp⟩
    next => exact ⟨"(line ".toList ++ ofInt line ++ " segment".toList, by simp⟩
  obtain ⟨front, hname⟩ := hname
  have hdigits : ∀ c ∈ (ofNat (number + 1)).reverse, c.isDigit = true := by
    intro c hc
    exact Nat.isDigit_of_mem_toDigits (by decide) (by decide) (List.mem_reverse.mp hc)
  rw [numberInName, hname, List.dropLast_concat, List.reverse_append, List.reverse_cons,
    List.append_assoc, List.takeWhile_append_of_pos hdigits, List.singleton_append,
    List.takeWhile_cons_of_neg (by decide), List.append_nil, List.reverse_reverse]
  exact Nat.ofDigitChars_ten_toDigits

variable {span : Span} {d : Draft} {ds : List Draft} {parts parts' k m : Nat}
  {block other : Block} {admitted : Admitted}

theorem key?_of_block? (h : d.block? span k = some block) :
    d.key? span = some (admittedKey span block) := by
  cases d with
  | note event => exact absurd h (by simp [Draft.block?])
  | chunk first last code =>
    obtain rfl := Option.some.inj h
    have hcategory : (chunkBlock span k first last code).category = span.baseType := rfl
    rw [admittedKey, if_pos hcategory]
    rfl
  | segment line number code =>
    obtain rfl := Option.some.inj h
    have hcategory : ¬ (segmentBlock span line number code).category = span.baseType :=
      fun heq => baseType_ne_segmentType span heq.symm
    have hnumber : numberInName ((segmentBlock span line number code).name.getD []) - 1 =
        number := by
      rw [segmentBlock, Option.getD_some, numberInName_segmentName, Nat.add_sub_cancel]
    rw [admittedKey, if_neg hcategory, hnumber]
    rfl

theorem map_admittedKey_blocksOf (span : Span) (parts : Nat) (ds : List Draft) :
    (blocksOf span parts ds).map (admittedKey span) = keys span ds := by
  induction ds generalizing parts with
  | nil => rfl
  | cons d later ih =>
    cases hkey : d.key? span with
    | none =>
      obtain ⟨event, rfl⟩ := exists_note_of_key?_eq_none hkey
      exact ih parts
    | some key =>
      obtain ⟨block, hblock⟩ := exists_block hkey parts
      have hread : key = admittedKey span block :=
        Option.some.inj (hkey.symm.trans (key?_of_block? hblock))
      rw [blocksOf, hblock, keys_cons_of_some hkey, hread]
      exact congrArg _ (ih _)

/-! ## The blocks of a filtered run -/

theorem resembles_of_block? (h : d.block? span k = some block)
    (h' : d.block? span m = some other) : Resembles span block other := by
  cases d with
  | note event => exact absurd h (by simp [Draft.block?])
  | chunk first last code =>
    obtain rfl := Option.some.inj h
    obtain rfl := Option.some.inj h'
    refine ⟨rfl, rfl, rfl, rfl, rfl, rfl, ?_⟩
    intro hrun
    exact absurd rfl (of_decide_eq_false hrun)
  | segment line number code =>
    obtain rfl := Option.some.inj h
    obtain rfl := Option.some.inj h'
    exact ⟨rfl, rfl, rfl, rfl, rfl, rfl, fun _ => rfl⟩

/-- Filtering drafts by their fingerprints filters the blocks by what is read off them. -/
theorem blocksOf_filter_resembles (span : Span) (parts parts' : Nat) (admitted : Admitted)
    (ds : List Draft) :
    List.Forall₂ (Resembles span) (blocksOf span parts (ds.filter (Draft.isFresh span admitted)))
      ((blocksOf span parts' ds).filter (isNew span admitted)) := by
  induction ds generalizing parts parts' with
  | nil => exact .nil
  | cons d later ih =>
    cases hkey : d.key? span with
    | none =>
      obtain ⟨event, rfl⟩ := exists_note_of_key?_eq_none hkey
      exact ih parts parts'
    | some key =>
      obtain ⟨block, hblock⟩ := exists_block hkey parts
      obtain ⟨other, hother⟩ := exists_block hkey parts'
      have hread : key = admittedKey span other :=
        Option.some.inj (hkey.symm.trans (key?_of_block? hother))
      rw [blocksOf, hother, Option.toList_some, List.singleton_append]
      by_cases hmem : key ∈ admitted.keys
      · have hstale : ¬ d.isFresh span admitted = true := by
          rw [isFresh_iff hkey]
          exact fun hnew => hnew hmem
        have hdropped : ¬ isNew span admitted other = true := by
          rw [isNew, ← hread, Admitted.hasKey_iff.mpr hmem]
          exact Bool.false_ne_true
        rw [List.filter_cons_of_neg hstale, List.filter_cons_of_neg hdropped]
        exact ih parts _
      · have hfresh : d.isFresh span admitted = true := (isFresh_iff hkey).mpr hmem
        have hkept : isNew span admitted other = true := by
          rw [isNew, ← hread, Bool.not_eq_true', ← Bool.not_eq_true, Admitted.hasKey_iff]
          exact hmem
        rw [List.filter_cons_of_pos hfresh, List.filter_cons_of_pos hkept, blocksOf, hblock]
        exact .cons (resembles_of_block? hblock hother) (ih _ _)

theorem isRun_segmentBlock (span : Span) (line : Int) (number : Nat) (code : Text) :
    isRun span (segmentBlock span line number code) = false :=
  decide_eq_false fun heq => baseType_ne_segmentType span heq.symm

/-- Runs are numbered in the order in which they are emitted, and the first one is described. -/
theorem run_numbered (h : ((blocksOf span parts ds).filter (isRun span))[k]? = some block) :
    block.name = partName span (parts + k + 1) ∧
      block.doc = (if parts + k = 0 then span.doc else none) ∧
      block.signature = (if parts + k = 0 then span.signature else none) := by
  induction ds generalizing parts k with
  | nil => exact absurd h (by simp [blocksOf])
  | cons d later ih =>
    cases d with
    | note event => exact ih h
    | segment line number code =>
      rw [blocksOf, Draft.block?, Option.toList_some, List.singleton_append,
        List.filter_cons_of_neg (by simp [isRun_segmentBlock])] at h
      exact ih h
    | chunk first last code =>
      have hrun : isRun span (chunkBlock span parts first last code) = true := decide_eq_true rfl
      rw [blocksOf, Draft.block?, Option.toList_some, List.singleton_append,
        List.filter_cons_of_pos hrun] at h
      cases k with
      | zero =>
        obtain rfl := Option.some.inj h
        exact ⟨rfl, rfl, rfl⟩
      | succ k =>
        have hlater := ih h
        rwa [Draft.partsAfter, Nat.succ_add_eq_add_succ] at hlater

theorem segment_bare (h : block ∈ blocksOf span parts ds) (hsegment : isRun span block = false) :
    block.doc = none ∧ block.signature = none := by
  obtain ⟨d, -, k, hblock⟩ := exists_draft_of_mem_blocksOf h
  cases d with
  | note event => exact absurd hblock (by simp [Draft.block?])
  | chunk first last code =>
    obtain rfl := Option.some.inj hblock
    exact absurd rfl (of_decide_eq_false hsegment)
  | segment line number code =>
    obtain rfl := Option.some.inj hblock
    exact ⟨rfl, rfl⟩

/-- Drafts whose fingerprints are all there already become no blocks. -/
theorem settle_eq_nil (h : ∀ key ∈ keys span ds, key ∈ admitted.keys) :
    (settle span parts admitted ds).blocks = [] := by
  obtain ⟨kept, hkept⟩ := exists_keeps span parts admitted ds
  have hnone : keys span kept = [] := by
    rw [List.eq_nil_iff_forall_not_mem]
    intro key hkey
    exact hkept.new key hkey (h key ((hkept.sublist.filterMap _).subset hkey))
  rw [hkept.blocks_eq]
  apply List.eq_nil_of_length_eq_zero
  rw [length_blocksOf, hnone]
  rfl

/-- Fingerprints that were admitted before filter the blocks of a span and do nothing else, as long
as the digest does not collide on what is digested in one run. -/
theorem admitted_only_filters (s : Sizing) (span : Span) (lines : List Text) (admitted : Admitted)
    (hshort : ∀ line ∈ lines, line.length < 10 ^ 49)
    (hdigest : Fingerprint.CollisionFree (hashedIdentifiers s span lines)) :
    OnlyFilters s span lines admitted := by
  have hkeys : (keys span (spanDrafts s span lines)).Nodup :=
    nodup_keys (fun line hline _ => hshort line hline) hdigest
  have hfresh : (chunkLines s span lines .empty).blocks =
      blocksOf span 0 (spanDrafts s span lines) := settle_empty_of_nodup hkeys
  have hblocks : (chunkLines s span lines admitted).blocks =
      blocksOf span 0 ((spanDrafts s span lines).filter (Draft.isFresh span admitted)) :=
    (settle_of_nodup hkeys).1
  obtain ⟨kept, hkept⟩ := exists_keeps span 0 admitted (spanDrafts s span lines)
  have hadmitted : (chunkLines s span lines admitted).admitted.keys =
      (keys span kept).reverse ++ admitted.keys := hkept.keys_eq
  constructor
  · rw [hblocks, hfresh]
    exact blocksOf_filter_resembles span 0 0 admitted _
  · intro k block hblock
    rw [hblocks] at hblock
    simpa using run_numbered hblock
  · intro block hblock hsegment
    rw [hblocks] at hblock
    exact segment_bare hblock hsegment
  · intro key
    have hread : (∃ block ∈ (chunkLines s span lines .empty).blocks,
        admittedKey span block = key) ↔ key ∈ keys span (spanDrafts s span lines) := by
      rw [hfresh, ← map_admittedKey_blocksOf span 0, List.mem_map]
    rw [hread]
    constructor
    · intro hmem
      rw [hadmitted, List.mem_append, List.mem_reverse] at hmem
      rcases hmem with hmem | hmem
      · exact Or.inr ((hkept.sublist.filterMap _).subset hmem)
      · exact Or.inl hmem
    · rintro (hmem | hmem)
      · rw [hadmitted]
        exact List.mem_append_right _ hmem
      · exact hkept.recorded key hmem
  · rw [Admitted.size, hadmitted, List.length_append, List.length_reverse, Admitted.size,
      chunkLines_blocks, hkept.blocks_eq, length_blocksOf, Nat.add_comm]
  · exact settle_eq_nil hkept.recorded

/-! ## A span whose first run was emitted before -/

/-- A documented function from the first line of a file on. -/
def functionSpan : Span :=
  ⟨"a.js".toList, "a".toList, "function_chunk".toList, 1, some "f".toList, some "// f".toList,
    some "f()".toList⟩

/-- Two runs with a line of two segments between them. -/
def functionLines : List Text := ["012345678".toList, "0123456789ab".toList, "abcde".toList]

/-- What was admitted if the first run was emitted before. -/
def firstAdmitted : Admitted := ⟨[Fingerprint.compute "a.js".toList 1 1 "012345678".toList]⟩

theorem admitted_only_filters_firstAdmitted :
    (∀ line ∈ functionLines, line.length < 10 ^ 49) ∧
      Fingerprint.CollisionFree (hashedIdentifiers .tiny functionSpan functionLines) ∧
      (chunkLines .tiny functionSpan functionLines firstAdmitted).blocks.map Block.name =
        ["f (line 2 segment 1)", "f (line 2 segment 2)", "f (part 1)"].map
          (fun name => some name.toList) ∧
      OnlyFilters .tiny functionSpan functionLines firstAdmitted := by
  have hshort : ∀ line ∈ functionLines, line.length < 10 ^ 49 := by decide
  have hdigest : Fingerprint.CollisionFree (hashedIdentifiers .tiny functionSpan functionLines) := by
    unfold Fingerprint.CollisionFree
    decide +kernel
  exact ⟨hshort, hdigest, by decide +kernel,
    admitted_only_filters .tiny functionSpan functionLines firstAdmitted hshort hdigest⟩

end SourceBlocks.Chunking
