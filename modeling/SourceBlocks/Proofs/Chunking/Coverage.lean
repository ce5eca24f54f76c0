import SourceBlocks.Proofs.Chunking.Placement

/-!
# What becomes of each line

Every line of a packed span has exactly one fate: it stands in one block of a run, it is cut into
segments, it stands in a run that is reported as skipped, or it is an empty line that was a run by
itself.  The main statement is about blocks and events, from which the pieces can no longer be
seen; it is proved by following the one piece that a line lies in.
-/

namespace SourceBlocks.Chunking

open Packing Text

/-- What becomes of a line of a span. -/
inductive Fate where
  | chunked
  | segmented
  | skipped
  | blank
  deriving DecidableEq

/-- Whether a block is a run of the span that has the line numbered `x` in the file. -/
def isChunkAt (span : Span) (x : Int) (block : Block) : Bool :=
  decide (block.category = span.baseType ∧ block.startLine ≤ x ∧ x ≤ block.endLine)

/-- Whether a block is a segment of a line of the span that has the line numbered `x` in the
file. -/
def isSegmentAt (span : Span) (x : Int) (block : Block) : Bool :=
  decide (block.category = span.baseType ++ "_line_segment".toList ∧ block.startLine ≤ x ∧
    x ≤ block.endLine)

/-- Whether an event reports a skipped run that has the line numbered `x` in the file. -/
def isSkipAt (x : Int) : Event → Bool
  | .chunkBelowMinimumSkipped _ first last => decide (first ≤ x ∧ x ≤ last)
  | _ => false

/-- The runs of an emission that have line number `i` of the span. -/
def chunksAt (span : Span) (e : Emission) (i : Nat) : List Block :=
  e.blocks.filter (isChunkAt span (span.startLine + i))

/-- The segments of an emission that have line number `i` of the span. -/
def segmentsAt (span : Span) (e : Emission) (i : Nat) : List Block :=
  e.blocks.filter (isSegmentAt span (span.startLine + i))

/-- The reports of skipped runs of an emission that have line number `i` of the span. -/
def skipsAt (span : Span) (e : Emission) (i : Nat) : List Event :=
  e.events.filter (isSkipAt (span.startLine + i))

/-- An emission accounts for line number `i` of a span by the given fate, and by no other. -/
def Accounts (s : Sizing) (span : Span) (lines : List Text) (e : Emission) (i : Nat) :
    Fate → Prop
  | .chunked => segmentsAt span e i = [] ∧ skipsAt span e i = [] ∧
      ∃ block a b, chunksAt span e i = [block] ∧ a ≤ i ∧ i < b ∧ b ≤ lines.length ∧
        block.startLine = span.startLine + a ∧ block.endLine = span.startLine + b - 1 ∧
        block.code = joinLines (stretch lines a b)
  | .segmented => chunksAt span e i = [] ∧ skipsAt span e i = [] ∧
      ∃ line, lines[i]? = some line ∧ s.exceeds line.length = true ∧
        ((segmentsAt span e i).map Block.code).flatten = line ∧
        ∀ block ∈ segmentsAt span e i,
          block.startLine = span.startLine + i ∧ block.endLine = span.startLine + i
  | .skipped => chunksAt span e i = [] ∧ segmentsAt span e i = [] ∧
      ∃ a b, a ≤ i ∧ i < b ∧ b < lines.length ∧
        .run a (stretch lines a b) false ∈ pieces s lines ∧
        joinLines (stretch lines a b) ≠ [] ∧ stretchLength lines a b < s.limits.minChars ∧
        skipsAt span e i =
          [.chunkBelowMinimumSkipped span.file (span.startLine + a) (span.startLine + b - 1)]
  | .blank => chunksAt span e i = [] ∧ segmentsAt span e i = [] ∧ skipsAt span e i = [] ∧
      ∃ final, .run i [[]] final ∈ pieces s lines

/-- One block stands before another: on earlier lines, or on the same line as an earlier
segment. -/
def Precedes (span : Span) (block other : Block) : Prop :=
  block.endLine < other.startLine ∨
    ∃ line number number' code code', number < number' ∧
      block = segmentBlock span line number code ∧ other = segmentBlock span line number' code'

/-! ## The piece that a line lies in -/

/-- Line number `i` lies in the piece `p`, which is the lines from number `a` up to number `b`. -/
structure Owns (s : Sizing) (lines : List Text) (i : Nat) (p : Piece) (a b : Nat) : Prop where
  tile : Tile s lines a b p
  le : a ≤ i
  lt : i < b
  split : ∃ before after, pieces s lines = before ++ p :: after ∧ Tiles s lines 0 a before ∧
    Tiles s lines b lines.length after

variable {s : Sizing} {span : Span} {lines : List Text} {i a b : Nat} {p : Piece}

theorem exists_owns (s : Sizing) (hi : i < lines.length) : ∃ p a b, Owns s lines i p a b := by
  obtain ⟨before, p, after, a, b, hsplit, hbefore, htile, hafter, hle, hlt⟩ :=
    (pieces_tile s lines).exists_owner (Nat.zero_le i) hi
  exact ⟨p, a, b, htile, hle, hlt, before, after, hsplit, hbefore, hafter⟩

/-- Blocks that have a line come from the piece that owns it. -/
theorem Owns.filter_blocks (h : Owns s lines i p a b) (span : Span) (keep : Block → Bool)
    (hkeep : ∀ block, keep block = true →
      block.startLine ≤ span.startLine + i ∧ span.startLine + i ≤ block.endLine) :
    ∃ parts, (blocksOf span 0 (spanDrafts s span lines)).filter keep =
      (blocksOf span parts (drafts s.limits span p)).filter keep := by
  have hle := h.le
  have hlt := h.lt
  obtain ⟨before, after, hsplit, hbefore, hafter⟩ := h.split
  obtain ⟨parts, hfirst⟩ := blocksOf_append span 0 (before.flatMap (drafts s.limits span))
    (drafts s.limits span p ++ after.flatMap (drafts s.limits span))
  obtain ⟨parts', hsecond⟩ := blocksOf_append span parts (drafts s.limits span p)
    (after.flatMap (drafts s.limits span))
  have hnone : ∀ q c d k, Tiles s lines c d q → d ≤ i ∨ i < c →
      (blocksOf span k (q.flatMap (drafts s.limits span))).filter keep = [] := by
    intro q c d k htiles hout
    rw [List.filter_eq_nil_iff]
    intro block hmem hblock
    have hlines := block_lines htiles hmem
    have hcovers := hkeep block hblock
    omega
  refine ⟨parts, ?_⟩
  rw [spanDrafts, hsplit, List.flatMap_append, List.flatMap_cons, hfirst, hsecond,
    List.filter_append, List.filter_append, hnone _ _ _ _ hbefore (Or.inl hle),
    hnone _ _ _ _ hafter (Or.inr hlt), List.nil_append, List.append_nil]

/-- Reports of a skipped run that has a line come from the piece that owns it. -/
theorem Owns.filter_reports (h : Owns s lines i p a b) (span : Span) :
    (reports (spanDrafts s span lines)).filter (isSkipAt (span.startLine + i)) =
      (reports (drafts s.limits span p)).filter (isSkipAt (span.startLine + i)) := by
  have hle := h.le
  have hlt := h.lt
  obtain ⟨before, after, hsplit, hbefore, hafter⟩ := h.split
  have hnone : ∀ q c d, Tiles s lines c d q → d ≤ i ∨ i < c →
      (reports (q.flatMap (drafts s.limits span))).filter (isSkipAt (span.startLine + i)) = [] := by
    intro q c d htiles hout
    rw [List.filter_eq_nil_iff]
    intro event hmem hevent
    obtain ⟨d, hd, hnote⟩ := List.mem_filterMap.mp hmem
    have hlines := drafts_liesIn htiles d hd
    cases d with
    | chunk first last code => exact absurd hnote (by simp [Draft.event?])
    | segment line number code => exact absurd hnote (by simp [Draft.event?])
    | note reported =>
      obtain rfl := Option.some.inj hnote
      cases reported with
      | chunkBelowMinimumSkipped file first last =>
        obtain ⟨hfirst, -, hlast⟩ := hlines
        have hcovers := of_decide_eq_true hevent
        omega
      | _ => exact absurd hevent Bool.false_ne_true
  rw [spanDrafts, hsplit, List.flatMap_append, List.flatMap_cons]
  simp only [reports, List.filterMap_append, List.filter_append] at hnone ⊢
  rw [hnone _ _ _ hbefore (Or.inl hle), hnone _ _ _ hafter (Or.inr hlt), List.nil_append,
    List.append_nil]

/-! ## The fate of a line -/

theorem blocksOf_segments (span : Span) (parts : Nat) (line : Int) (codes : List (Text × Nat)) :
    blocksOf span parts (codes.map fun (code, number) => .segment line number code) =
      codes.map fun (code, number) => segmentBlock span line number code := by
  induction codes with
  | nil => rfl
  | cons first later ih => rw [List.map_cons, List.map_cons, blocksOf, ← ih]; rfl

theorem baseType_ne_segmentType (span : Span) :
    span.baseType ≠ span.baseType ++ "_line_segment".toList := by
  intro h
  have hlength := congrArg List.length h
  simp at hlength

theorem isChunkAt_covers {x : Int} {block : Block} (h : isChunkAt span x block = true) :
    block.startLine ≤ x ∧ x ≤ block.endLine :=
  (of_decide_eq_true h).2

theorem isSegmentAt_covers {x : Int} {block : Block} (h : isSegmentAt span x block = true) :
    block.startLine ≤ x ∧ x ≤ block.endLine :=
  (of_decide_eq_true h).2

/-- What an emission has at a line is what the piece that owns the line hands on. -/
theorem Owns.emission (h : Owns s lines i p a b) (span : Span)
    (hkeys : (keys span (spanDrafts s span lines)).Nodup) :
    (∃ parts, chunksAt span (chunkLines s span lines .empty) i =
        (blocksOf span parts (drafts s.limits span p)).filter
          (isChunkAt span (span.startLine + i))) ∧
      (∃ parts, segmentsAt span (chunkLines s span lines .empty) i =
        (blocksOf span parts (drafts s.limits span p)).filter
          (isSegmentAt span (span.startLine + i))) ∧
      skipsAt span (chunkLines s span lines .empty) i =
        (reports (drafts s.limits span p)).filter (isSkipAt (span.startLine + i)) := by
  have hblocks : (chunkLines s span lines .empty).blocks =
      blocksOf span 0 (spanDrafts s span lines) := settle_empty_of_nodup hkeys
  simp only [chunksAt, segmentsAt, skipsAt, hblocks, chunkLines_events, List.filter_append,
    h.filter_reports]
  refine ⟨h.filter_blocks span _ fun _ => isChunkAt_covers,
    h.filter_blocks span _ fun _ => isSegmentAt_covers, ?_⟩
  exact List.append_nil _

theorem Owns.mem_pieces (h : Owns s lines i p a b) : p ∈ pieces s lines := by
  obtain ⟨before, after, hsplit, -⟩ := h.split
  simp [hsplit]

/-- A blank run has no other line. -/
theorem Owns.accounts_blank {final : Bool}
    (h : Owns s lines i (.run a (stretch lines a b) final) a b) (span : Span)
    (hkeys : (keys span (spanDrafts s span lines)).Nodup) (hb : b ≤ lines.length)
    (hblank : joinLines (stretch lines a b) = []) :
    Accounts s span lines (chunkLines s span lines .empty) i .blank := by
  obtain ⟨⟨parts, hchunks⟩, ⟨parts', hsegments⟩, hskips⟩ := h.emission span hkeys
  have hle := h.le
  have hlt := h.lt
  have hab : a < b := by omega
  have hmem := h.mem_pieces
  have hrun := (joinLines_eq_nil_iff (stretch_ne_nil hab hb)).mp hblank
  have hone : b - a = 1 := by
    rw [← length_stretch hb, hrun]
    rfl
  obtain rfl : a = i := by omega
  rw [drafts_run hab hb, if_pos hblank] at hchunks hsegments hskips
  rw [hrun] at hmem
  exact ⟨hchunks, hsegments, hskips, final, hmem⟩

/-- A run below the smallest size is reported, unless it ends the span. -/
theorem Owns.accounts_skipped (h : Owns s lines i (.run a (stretch lines a b) false) a b)
    (span : Span) (hkeys : (keys span (spanDrafts s span lines)).Nodup) (hb : b < lines.length)
    (hfull : joinLines (stretch lines a b) ≠ [])
    (hsmall : stretchLength lines a b < s.limits.minChars) :
    Accounts s span lines (chunkLines s span lines .empty) i .skipped := by
  obtain ⟨⟨parts, hchunks⟩, ⟨parts', hsegments⟩, hskips⟩ := h.emission span hkeys
  have hle := h.le
  have hlt := h.lt
  rw [drafts_run (by omega) (Nat.le_of_lt hb), if_neg hfull, if_pos ⟨hsmall, rfl⟩]
    at hchunks hsegments hskips
  have hcovers : isSkipAt (span.startLine + i) (.chunkBelowMinimumSkipped span.file
      (span.startLine + a) (span.startLine + b - 1)) = true :=
    decide_eq_true ⟨by omega, by omega⟩
  refine ⟨hchunks, hsegments, a, b, hle, hlt, hb, h.mem_pieces, hfull, hsmall, ?_⟩
  rw [hskips]
  exact List.filter_cons_of_pos hcovers

/-- Any other run is a block, which has all its lines. -/
theorem Owns.accounts_chunked {final : Bool}
    (h : Owns s lines i (.run a (stretch lines a b) final) a b) (span : Span)
    (hkeys : (keys span (spanDrafts s span lines)).Nodup) (hb : b ≤ lines.length)
    (hfull : joinLines (stretch lines a b) ≠ [])
    (hlarge : ¬ (stretchLength lines a b < s.limits.minChars ∧ final = false)) :
    Accounts s span lines (chunkLines s span lines .empty) i .chunked := by
  obtain ⟨⟨parts, hchunks⟩, ⟨parts', hsegments⟩, hskips⟩ := h.emission span hkeys
  have hle := h.le
  have hlt := h.lt
  rw [drafts_run (by omega) hb, if_neg hfull, if_neg hlarge] at hchunks hsegments hskips
  have hlines : span.startLine + (a : Int) ≤ span.startLine + i ∧
      span.startLine + (i : Int) ≤ span.startLine + b - 1 := by omega
  refine ⟨?_, hskips, chunkBlock span parts (span.startLine + a) (span.startLine + b - 1)
    (joinLines (stretch lines a b)), a, b, ?_, hle, hlt, hb, rfl, rfl, rfl⟩
  · rw [hsegments]
    apply List.filter_cons_of_neg
    intro hsegment
    exact baseType_ne_segmentType span (of_decide_eq_true hsegment).1
  · rw [hchunks]
    exact List.filter_cons_of_pos (decide_eq_true ⟨rfl, hlines⟩)

/-- A line that is too long is cut into segments. -/
theorem Owns.accounts_longLine (hi : i < lines.length)
    (h : Owns s lines i (.longLine i lines[i]) i (i + 1)) (span : Span)
    (hkeys : (keys span (spanDrafts s span lines)).Nodup)
    (hlong : s.exceeds lines[i].length = true) :
    Accounts s span lines (chunkLines s span lines .empty) i .segmented := by
  obtain ⟨⟨parts, hchunks⟩, ⟨parts', hsegments⟩, hskips⟩ := h.emission span hkeys
  rw [drafts, blocksOf_segments] at hchunks hsegments
  have hall : segmentsAt span (chunkLines s span lines .empty) i =
      ((segments s.limits.maxChars lines[i]).zipIdx).map fun (code, number) =>
        segmentBlock span (span.startLine + i) number code := by
    rw [hsegments, List.filter_eq_self]
    intro block hblock
    obtain ⟨⟨code, number⟩, -, rfl⟩ := List.mem_map.mp hblock
    exact decide_eq_true ⟨rfl, Int.le_refl _, Int.le_refl _⟩
  refine ⟨?_, ?_, lines[i], List.getElem?_eq_getElem hi, hlong, ?_, ?_⟩
  · rw [hchunks, List.filter_eq_nil_iff]
    intro block hblock hcovers
    obtain ⟨⟨code, number⟩, -, rfl⟩ := List.mem_map.mp hblock
    exact baseType_ne_segmentType span (of_decide_eq_true hcovers).1.symm
  · rw [hskips, List.filter_eq_nil_iff]
    intro event hevent
    obtain ⟨d, hd, hnote⟩ := List.mem_filterMap.mp hevent
    obtain ⟨number, code, -, rfl⟩ := exists_of_mem_drafts_longLine hd
    exact absurd hnote (by simp [Draft.event?])
  · have hcodes : ((segments s.limits.maxChars lines[i]).zipIdx).map Prod.fst =
        segments s.limits.maxChars lines[i] := List.zipIdx_map_fst 0 _
    rw [hall, List.map_map]
    exact (congrArg List.flatten hcodes).trans (flatten_segments s.limits.maxChars_pos _)
  · rw [hall]
    intro block hblock
    obtain ⟨⟨code, number⟩, -, rfl⟩ := List.mem_map.mp hblock
    exact ⟨rfl, rfl⟩

theorem exists_accounts (hkeys : (keys span (spanDrafts s span lines)).Nodup)
    (hi : i < lines.length) :
    ∃ fate, Accounts s span lines (chunkLines s span lines .empty) i fate := by
  obtain ⟨p, a, b, howns⟩ := exists_owns s hi
  cases howns.tile with
  | run hab hb hfits =>
    by_cases hblank : joinLines (stretch lines a b) = []
    · exact ⟨.blank, howns.accounts_blank span hkeys hb hblank⟩
    by_cases hsmall : stretchLength lines a b < s.limits.minChars ∧
        decide (b = lines.length) = false
    · rw [hsmall.2] at howns
      have hlast : b < lines.length := Nat.lt_of_le_of_ne hb (of_decide_eq_false hsmall.2)
      exact ⟨.skipped, howns.accounts_skipped span hkeys hlast hblank hsmall.1⟩
    · exact ⟨.chunked, howns.accounts_chunked span hkeys hb hblank hsmall⟩
  | longLine ha hlong =>
    have hle := howns.le
    have hlt := howns.lt
    obtain rfl : a = i := by omega
    exact ⟨.segmented, howns.accounts_longLine ha span hkeys hlong⟩

theorem not_long_of_blank {line : Text} {final : Bool} (hline : lines[i]? = some line)
    (hmem : .run i [[]] final ∈ pieces s lines) : ¬ s.exceeds line.length = true := by
  intro hlong
  obtain ⟨stop, -, -, htile⟩ := (pieces_tile s lines).of_run_mem hmem
  generalize hrun : ([[]] : List Text) = run at htile
  cases htile with
  | run hab hb hfits =>
    obtain ⟨hi, rfl⟩ := List.getElem?_eq_some_iff.mp hline
    rw [line_fits hi (Nat.le_refl i) hab hb hfits] at hlong
    exact Bool.noConfusion hlong

/-- A line has at most one fate: what there is at the line tells runs and reports apart, and of the
lines at which there is nothing but segments, only those that are too long were cut. -/
theorem Accounts.unique {e : Emission} {fate other : Fate} (h : Accounts s span lines e i fate)
    (h' : Accounts s span lines e i other) : fate = other := by
  have hblank : ∀ {line : Text} {final : Bool}, lines[i]? = some line →
      .run i [[]] final ∈ pieces s lines → ¬ s.exceeds line.length = true := not_long_of_blank
  cases fate <;> cases other <;> simp_all [Accounts]

/-! ## The order of the blocks -/

theorem precedes_of_drafts {d e : Draft} {k m : Nat} {block other : Block} (h : d.Precedes e)
    (hblock : d.block? span k = some block) (hother : e.block? span m = some other) :
    Precedes span block other := by
  cases d with
  | note event => exact absurd hblock (by simp [Draft.block?])
  | chunk first last code =>
    obtain rfl := Option.some.inj hblock
    cases e with
    | note event => exact absurd hother (by simp [Draft.block?])
    | chunk first' last' code' =>
      obtain rfl := Option.some.inj hother
      exact Or.inl h.2
    | segment line' number' code' =>
      obtain rfl := Option.some.inj hother
      exact Or.inl h.2
  | segment line number code =>
    obtain rfl := Option.some.inj hblock
    cases e with
    | note event => exact absurd hother (by simp [Draft.block?])
    | chunk first' last' code' =>
      obtain rfl := Option.some.inj hother
      exact Or.inl h
    | segment line' number' code' =>
      obtain rfl := Option.some.inj hother
      rcases h with hline | ⟨rfl, hnumber⟩
      · exact Or.inl hline
      · exact Or.inr ⟨line, number, number', code, code', hnumber, rfl, rfl⟩

theorem blocksOf_pairwise {ds : List Draft} (h : ds.Pairwise Draft.Precedes) (parts : Nat) :
    (blocksOf span parts ds).Pairwise (Precedes span) := by
  induction h generalizing parts with
  | nil => exact .nil
  | cons hfirst _ ih =>
    have hsingle : ∀ block? : Option Block, block?.toList.Pairwise (Precedes span) := by
      rintro (_ | block)
      · exact .nil
      · exact List.pairwise_singleton _ _
    rw [blocksOf, List.pairwise_append]
    refine ⟨hsingle _, ih _, ?_⟩
    intro block hblock other hother
    obtain ⟨e, he, m, hm⟩ := exists_draft_of_mem_blocksOf hother
    exact precedes_of_drafts (hfirst e he) (Option.mem_toList.mp hblock) hm

/-- Whatever was admitted before, the blocks stand in the order of the lines. -/
theorem chunkLines_pairwise (s : Sizing) (span : Span) (lines : List Text) (admitted : Admitted) :
    (chunkLines s span lines admitted).blocks.Pairwise (Precedes span) := by
  obtain ⟨kept, hkept⟩ := exists_keeps span 0 admitted (spanDrafts s span lines)
  have hdrafts : (spanDrafts s span lines).Pairwise Draft.Precedes :=
    drafts_pairwise (pieces_tile s lines)
  rw [chunkLines_blocks, hkept.blocks_eq]
  exact blocksOf_pairwise (hdrafts.sublist hkept.sublist) 0

/-- Packing a span with nothing admitted before accounts for every line in exactly one way, and the
blocks stand in the order of the lines. -/
theorem lines_accounted (s : Sizing) (span : Span) (lines : List Text)
    (hshort : ∀ line ∈ lines, line.length < 10 ^ 49)
    (hdigest : Fingerprint.CollisionFree (hashedIdentifiers s span lines)) :
    (∀ i < lines.length,
        ∃! fate, Accounts s span lines (chunkLines s span lines .empty) i fate) ∧
      (chunkLines s span lines .empty).blocks.Pairwise (Precedes span) := by
  have hkeys : (keys span (spanDrafts s span lines)).Nodup :=
    nodup_keys (fun line hline _ => hshort line hline) hdigest
  constructor
  · intro i hi
    obtain ⟨fate, hfate⟩ := exists_accounts hkeys hi
    exact ⟨fate, hfate, fun other hother => hother.unique hfate⟩
  · exact chunkLines_pairwise s span lines .empty

/-- The fate of a line as the blocks and reports at that line show it. -/
def fateShown (span : Span) (e : Emission) (i : Nat) : Fate :=
  if chunksAt span e i ≠ [] then .chunked
  else if segmentsAt span e i ≠ [] then .segmented
  else if skipsAt span e i ≠ [] then .skipped
  else .blank

/-- What there is at a line shows its fate, unless empty lines are too long. -/
theorem Accounts.eq_fateShown {e : Emission} {fate : Fate} (h : Accounts s span lines e i fate)
    (hempty : s.exceeds 0 = false) : fate = fateShown span e i := by
  cases fate with
  | chunked =>
    obtain ⟨-, -, block, a, b, hchunks, -⟩ := h
    simp [fateShown, hchunks]
  | segmented =>
    obtain ⟨hchunks, -, line, -, hlong, hcodes, -⟩ := h
    have hsegments : segmentsAt span e i ≠ [] := by
      intro hnone
      rw [hnone] at hcodes
      rw [← hcodes] at hlong
      exact Bool.noConfusion (hempty.symm.trans hlong)
    simp [fateShown, hchunks, hsegments]
  | skipped =>
    obtain ⟨hchunks, hsegments, a, b, -, -, -, -, -, -, hskips⟩ := h
    simp [fateShown, hchunks, hsegments, hskips]
  | blank =>
    obtain ⟨hchunks, hsegments, hskips, -⟩ := h
    simp [fateShown, hchunks, hsegments, hskips]

/-- Two lines that fill a block, a short line alone, two lines that are too long with an empty line
between them, and a last line. -/
def mixedLines : List Text :=
  ["abc", "def", "ghi", "0123456789ab", "", "ABCDEFGHIJKL", "tail"].map String.toList

/-- What becomes of the mixed lines. -/
def mixedFates : List Fate :=
  [.chunked, .chunked, .skipped, .segmented, .blank, .segmented, .chunked]

theorem lines_accounted_mixedLines :
    (∀ line ∈ mixedLines, line.length < 10 ^ 49) ∧
      Fingerprint.CollisionFree (hashedIdentifiers .tiny .bare mixedLines) ∧
      (hashedIdentifiers .tiny .bare mixedLines).length = 6 ∧
      (chunkLines .tiny .bare mixedLines .empty).blocks.map Block.code =
        ["abc\ndef", "0123456789", "ab", "ABCDEFGHIJ", "KL", "tail"].map String.toList ∧
      (∀ i < mixedLines.length, ∃ fate, mixedFates[i]? = some fate ∧
        Accounts .tiny .bare mixedLines (chunkLines .tiny .bare mixedLines .empty) i fate) ∧
      (∀ i < mixedLines.length, ∃! fate, Accounts .tiny .bare mixedLines
        (chunkLines .tiny .bare mixedLines .empty) i fate) ∧
      (chunkLines .tiny .bare mixedLines .empty).blocks.Pairwise (Precedes .bare) := by
  have hshort : ∀ line ∈ mixedLines, line.length < 10 ^ 49 := by decide
  have hdigest : Fingerprint.CollisionFree (hashedIdentifiers .tiny .bare mixedLines) := by
    unfold Fingerprint.CollisionFree
    decide +kernel
  obtain ⟨hfates, horder⟩ := lines_accounted .tiny .bare mixedLines hshort hdigest
  have hshown : ∀ i < mixedLines.length, mixedFates[i]? =
      some (fateShown .bare (chunkLines .tiny .bare mixedLines .empty) i) := by
    decide +kernel
  refine ⟨hshort, hdigest, by decide +kernel, by decide +kernel, ?_, hfates, horder⟩
  intro i hi
  obtain ⟨fate, hfate, -⟩ := hfates i hi
  refine ⟨fate, ?_, hfate⟩
  rw [hshown i hi, hfate.eq_fateShown (by decide)]

end SourceBlocks.Chunking
