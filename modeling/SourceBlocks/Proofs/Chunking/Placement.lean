import Mathlib.Data.List.Nodup
import SourceBlocks.Proofs.Chunking.Admission
import SourceBlocks.Proofs.Packing.Scan

/-!
# Where drafts stand

The drafts of a piece stand on the lines of the piece, so the drafts of a tiling follow one another
in the span.  Two drafts of one call then have different identifiers, and with a digest that does
not collide on these, different fingerprints.
-/

namespace SourceBlocks

open Packing Text

/-- Blocks of ten characters, of which the smallest has five. -/
def Limits.tiny : Limits where
  maxChars := 10
  minChars := 5
  minRemainder := 1
  tolerance := .one
  minChars_pos := by decide
  minChars_le_maxChars := by decide
  minRemainder_pos := by decide
  tolerance_not_lt_one := by decide

/-- The sizing of the tiny limits. -/
def Sizing.tiny : Sizing :=
  ⟨.tiny, .finite false (10 * 2 ^ 49) (-49)⟩

theorem Sizing.ofLimits?_tiny : Sizing.ofLimits? .tiny = some .tiny := by
  have hthreshold : Limits.tiny.threshold? = some Sizing.tiny.threshold := by decide +kernel
  rw [Sizing.ofLimits?, hthreshold]
  rfl

/-- A span without a name, from the first line of a file on. -/
def Span.bare : Span := ⟨[], [], [], 1, none, none, none⟩

namespace Draft

/-- The lines of a draft, or of a run that it reports as skipped, are among the lines of the span
from number `a` up to, but without, number `b`. -/
def LiesIn (span : Span) (a b : Nat) : Draft → Prop
  | chunk first last _ =>
    span.startLine + a ≤ first ∧ first ≤ last ∧ last < span.startLine + b
  | segment line _ _ => span.startLine + a ≤ line ∧ line < span.startLine + b
  | note (.chunkBelowMinimumSkipped _ first last) =>
    span.startLine + a ≤ first ∧ first ≤ last ∧ last < span.startLine + b
  | note _ => True

/-- One draft stands before another: on earlier lines, or on the same line as an earlier segment. -/
def Precedes : Draft → Draft → Prop
  | chunk first last _, chunk first' _ _ => first ≤ last ∧ last < first'
  | chunk first last _, segment line' _ _ => first ≤ last ∧ last < line'
  | segment line _ _, chunk first' _ _ => line < first'
  | segment line number _, segment line' number' _ =>
    line < line' ∨ line = line' ∧ number < number'
  | _, _ => True

variable {span : Span} {a b c : Nat} {d e : Draft}

theorem LiesIn.mono {a' b' : Nat} (h : d.LiesIn span a b) (ha : a' ≤ a) (hb : b ≤ b') :
    d.LiesIn span a' b' := by
  cases d with
  | chunk first last code =>
    obtain ⟨hfirst, hlines, hlast⟩ := h
    exact ⟨by omega, hlines, by omega⟩
  | segment line number code =>
    obtain ⟨hfirst, hlast⟩ := h
    exact ⟨by omega, by omega⟩
  | note event =>
    cases event with
    | chunkBelowMinimumSkipped file first last =>
      obtain ⟨hfirst, hlines, hlast⟩ := h
      exact ⟨by omega, hlines, by omega⟩
    | _ => trivial

theorem LiesIn.precedes (hd : d.LiesIn span a b) (he : e.LiesIn span b c) : d.Precedes e := by
  cases d with
  | note event => trivial
  | chunk first last code =>
    obtain ⟨-, hlines, hlast⟩ := hd
    cases e with
    | note event => trivial
    | chunk first' last' code' => exact ⟨hlines, by have := he.1; omega⟩
    | segment line' number' code' => exact ⟨hlines, by have := he.1; omega⟩
  | segment line number code =>
    obtain ⟨-, hlast⟩ := hd
    cases e with
    | note event => trivial
    | chunk first' last' code' =>
      have hfirst := he.1
      simp only [Precedes]
      omega
    | segment line' number' code' =>
      have hfirst := he.1
      exact Or.inl (by omega)

/-- Drafts that follow one another have different identifiers. -/
theorem Precedes.identifier_ne (h : d.Precedes e) {x y : Text} (hx : d.identifier? span = some x)
    (hy : e.identifier? span = some y)
    (hd : ∀ line number code, d = segment line number code → number < 10 ^ 49)
    (he : ∀ line number code, e = segment line number code → number < 10 ^ 49) : x ≠ y := by
  rintro rfl
  rw [← hy] at hx
  cases d with
  | note event => exact absurd (hx.trans hy) (by simp [identifier?])
  | chunk first last code =>
    cases e with
    | note event => exact absurd hx (by simp [identifier?])
    | chunk first' last' code' =>
      have hlines := Fingerprint.identifier_inj (Option.some.inj hx)
      obtain ⟨hle, hlt⟩ := h
      omega
    | segment line' number' code' =>
      have hlines := Fingerprint.identifier_inj (Option.some.inj hx)
      obtain ⟨hle, hlt⟩ := h
      omega
  | segment line number code =>
    cases e with
    | note event => exact absurd hx (by simp [identifier?])
    | chunk first' last' code' =>
      have hlines := Fingerprint.identifier_inj (Option.some.inj hx)
      simp only [Precedes] at h
      omega
    | segment line' number' code' =>
      obtain ⟨hline, -, hcode⟩ := Fingerprint.identifier_inj (Option.some.inj hx)
      have hnumber := Fingerprint.numbered_take_inj (hd _ _ _ rfl) (he _ _ _ rfl) hcode
      rcases h with hlt | ⟨-, hlt⟩
      · omega
      · omega

end Draft

namespace Chunking

/-! ## Segments -/

/-- Segments put together are the line. -/
theorem flatten_segments {size : Nat} (hsize : 0 < size) (line : Text) :
    (segments size line).flatten = line := by
  fun_induction segments size line with
  | case1 line hstop =>
    rcases hstop with rfl | rfl
    · exact absurd hsize (Nat.lt_irrefl 0)
    · rfl
  | case2 line _ ih => rw [List.flatten_cons, ih, List.take_append_drop]

/-- A segment is the slice of the line that its number says. -/
theorem segment_eq_slice {size k : Nat} {line code : Text}
    (h : (segments size line)[k]? = some code) :
    code = (line.drop (k * size)).take size ∧ k * size < line.length := by
  fun_induction segments size line generalizing k with
  | case1 line hstop => exact absurd h (by simp)
  | case2 line hgo ih =>
    have hline : 0 < line.length := List.length_pos_iff.mpr fun hnil => hgo (Or.inr hnil)
    cases k with
    | zero =>
      obtain rfl := Option.some.inj h
      rw [Nat.zero_mul, List.drop_zero]
      exact ⟨rfl, hline⟩
    | succ k =>
      obtain ⟨hcode, hlt⟩ := ih h
      rw [List.drop_drop] at hcode
      rw [List.length_drop] at hlt
      rw [Nat.succ_mul, Nat.add_comm]
      exact ⟨hcode, by omega⟩

/-! ## Drafts of a tile -/

variable {s : Sizing} {lines : List Text} {limits : Limits} {span : Span} {a b c : Nat}
  {p : Piece} {ps : List Piece} {d : Draft}

theorem drafts_run (hab : a < b) (hb : b ≤ lines.length) (final : Bool) :
    drafts limits span (.run a (stretch lines a b) final) =
      if joinLines (stretch lines a b) = [] then []
      else if stretchLength lines a b < limits.minChars ∧ final = false then
        [.note (.chunkBelowMinimumSkipped span.file (span.startLine + a) (span.startLine + b - 1))]
      else [.chunk (span.startLine + a) (span.startLine + b - 1) (joinLines (stretch lines a b))] := by
  have hlast : span.startLine + (a : Int) + ((stretch lines a b).length : Int) - 1 =
      span.startLine + b - 1 := by
    rw [length_stretch hb]
    omega
  rw [drafts, hlast]
  by_cases hblank : joinLines (stretch lines a b) = []
  · rw [if_pos hblank, if_pos (List.isEmpty_iff.mpr hblank)]
  rw [if_neg hblank, if_neg (fun h => hblank (List.isEmpty_iff.mp h))]
  have hskip : (decide ((joinLines (stretch lines a b)).length < limits.minChars) && !final) = true
      ↔ stretchLength lines a b < limits.minChars ∧ final = false := by
    rw [Bool.and_eq_true, decide_eq_true_eq, Bool.not_eq_true', stretchLength]
  by_cases hsmall : stretchLength lines a b < limits.minChars ∧ final = false
  · rw [if_pos hsmall, if_pos (hskip.mpr hsmall)]
  · rw [if_neg hsmall, if_neg fun h => hsmall (hskip.mp h)]

/-- A run hands on the report that it was skipped or its code. -/
theorem eq_of_mem_drafts_run (hab : a < b) (hb : b ≤ lines.length) {final : Bool}
    (hd : d ∈ drafts limits span (.run a (stretch lines a b) final)) :
    d = .note (.chunkBelowMinimumSkipped span.file (span.startLine + a) (span.startLine + b - 1)) ∨
      d = .chunk (span.startLine + a) (span.startLine + b - 1) (joinLines (stretch lines a b)) := by
  rw [drafts_run hab hb] at hd
  split at hd
  · exact absurd hd List.not_mem_nil
  split at hd
  · exact Or.inl (List.mem_singleton.mp hd)
  · exact Or.inr (List.mem_singleton.mp hd)

/-- A line that is too long hands on its segments. -/
theorem exists_of_mem_drafts_longLine {line : Text}
    (hd : d ∈ drafts limits span (.longLine a line)) :
    ∃ number code, (segments limits.maxChars line)[number]? = some code ∧
      d = .segment (span.startLine + a) number code := by
  obtain ⟨⟨code, number⟩, hzip, rfl⟩ := List.mem_map.mp hd
  exact ⟨number, code, List.mem_zipIdx_iff_getElem?.mp hzip, rfl⟩

theorem drafts_tile_liesIn (h : Tile s lines a b p) : ∀ d ∈ drafts limits span p,
    d.LiesIn span a b := by
  intro d hd
  cases h with
  | run hab hb hfits =>
    rcases eq_of_mem_drafts_run hab hb hd with rfl | rfl
    · exact ⟨by omega, by omega, by omega⟩
    · exact ⟨by omega, by omega, by omega⟩
  | longLine ha hlong =>
    obtain ⟨number, code, -, rfl⟩ := exists_of_mem_drafts_longLine hd
    exact ⟨Int.le_refl _, by omega⟩

theorem drafts_tile_pairwise (h : Tile s lines a b p) :
    (drafts limits span p).Pairwise Draft.Precedes := by
  cases h with
  | run hab hb hfits =>
    rw [drafts_run hab hb]
    split
    · exact .nil
    split
    · exact List.pairwise_singleton _ _
    · exact List.pairwise_singleton _ _
  | longLine ha hlong =>
    rw [drafts, List.pairwise_map, List.pairwise_iff_getElem]
    intro j k hj hk hjk
    simp only [List.getElem_zipIdx]
    exact Or.inr ⟨rfl, by omega⟩

/-- What a tiling hands on comes from one of its tiles, or is the report of a move. -/
theorem exists_tile_of_mem_drafts (h : Tiles s lines a c ps)
    (hd : d ∈ ps.flatMap (drafts limits span)) :
    (∃ p lo hi, a ≤ lo ∧ hi ≤ c ∧ Tile s lines lo hi p ∧ d ∈ drafts limits span p) ∨
      ∃ count index, d = .note (.chunkRebalanced span.file count index) := by
  induction h with
  | nil => exact absurd hd List.not_mem_nil
  | cons first rest ih =>
    rcases List.mem_append.mp hd with hd | hd
    · exact Or.inl ⟨_, _, _, Nat.le_refl _, rest.le, first, hd⟩
    · rcases ih hd with ⟨p, lo, hi, hlo, hhi, htile, hmem⟩ | hmove
      · exact Or.inl ⟨p, lo, hi, Nat.le_trans (Nat.le_of_lt first.lt) hlo, hhi, htile, hmem⟩
      · exact Or.inr hmove
  | moved count index rest ih =>
    rcases List.mem_append.mp hd with hd | hd
    · exact Or.inr ⟨count, span.startLine + index, List.mem_singleton.mp hd⟩
    · exact ih hd

theorem drafts_liesIn (h : Tiles s lines a c ps) : ∀ d ∈ ps.flatMap (drafts limits span),
    d.LiesIn span a c := by
  intro d hd
  rcases exists_tile_of_mem_drafts h hd with ⟨p, lo, hi, hlo, hhi, htile, hmem⟩ | ⟨_, _, rfl⟩
  · exact (drafts_tile_liesIn htile d hmem).mono hlo hhi
  · trivial

theorem drafts_pairwise (h : Tiles s lines a c ps) :
    (ps.flatMap (drafts limits span)).Pairwise Draft.Precedes := by
  induction h with
  | nil => exact .nil
  | cons first rest ih =>
    rw [List.flatMap_cons, List.pairwise_append]
    refine ⟨drafts_tile_pairwise first, ih, ?_⟩
    intro d hd e he
    exact (drafts_tile_liesIn first d hd).precedes (drafts_liesIn rest e he)
  | moved count index rest ih =>
    rw [List.flatMap_cons]
    exact List.pairwise_cons.mpr ⟨fun _ _ => trivial, ih⟩

/-- A segment is cut from a line that is too long, and has a number below its length. -/
theorem exists_long_of_segment_mem (h : Tiles s lines a c ps) {line : Int} {number : Nat}
    {code : Text} (hmem : .segment line number code ∈ ps.flatMap (drafts limits span)) :
    ∃ long ∈ lines, s.exceeds long.length = true ∧ number < long.length := by
  rcases exists_tile_of_mem_drafts h hmem with ⟨p, lo, hi, -, -, htile, hd⟩ | ⟨_, _, hmove⟩
  · cases htile with
    | run hab hb hfits =>
      rcases eq_of_mem_drafts_run hab hb hd with hnote | hchunk
      · exact Draft.noConfusion hnote
      · exact Draft.noConfusion hchunk
    | longLine ha hlong =>
      obtain ⟨number', code', hcode, heq⟩ := exists_of_mem_drafts_longLine hd
      obtain ⟨-, rfl, -⟩ := Draft.segment.inj heq
      refine ⟨_, List.getElem_mem ha, hlong, ?_⟩
      exact Nat.lt_of_le_of_lt (Nat.le_mul_of_pos_right _ limits.maxChars_pos)
        (segment_eq_slice hcode).2
  · exact Draft.noConfusion hmove

/-! ## Distinct fingerprints -/

/-- The drafts of a packed span, in order. -/
def spanDrafts (s : Sizing) (span : Span) (lines : List Text) : List Draft :=
  (pieces s lines).flatMap (drafts s.limits span)

/-- The texts that are digested when a packed span is emitted, in order. -/
def hashedIdentifiers (s : Sizing) (span : Span) (lines : List Text) : List Text :=
  (spanDrafts s span lines).filterMap (Draft.identifier? span)

theorem chunkLines_blocks (s : Sizing) (span : Span) (lines : List Text) (admitted : Admitted) :
    (chunkLines s span lines admitted).blocks =
      (settle span 0 admitted (spanDrafts s span lines)).blocks := rfl

theorem chunkLines_events (s : Sizing) (span : Span) (lines : List Text) (admitted : Admitted) :
    (chunkLines s span lines admitted).events =
      reports (spanDrafts s span lines) ++ [.spanChunked span.file span.baseType lines.length
        (chunkLines s span lines admitted).blocks.length] := by
  rw [← settle_events span 0 admitted]
  rfl

theorem keys_eq_map (span : Span) (ds : List Draft) :
    keys span ds = (ds.filterMap (Draft.identifier? span)).map
      fun identifier => Sha256.hex (Utf8.encode identifier) :=
  List.map_filterMap.symm

theorem nodup_hashedIdentifiers
    (hshort : ∀ line ∈ lines, s.exceeds line.length = true → line.length < 10 ^ 49) :
    (hashedIdentifiers s span lines).Nodup := by
  have htiles := pieces_tile s lines
  have hnumber : ∀ d ∈ spanDrafts s span lines,
      ∀ line number code, d = .segment line number code → number < 10 ^ 49 := by
    rintro d hd line number code rfl
    obtain ⟨long, hlong, hexceeds, hlt⟩ := exists_long_of_segment_mem htiles hd
    exact Nat.lt_trans hlt (hshort long hlong hexceeds)
  refine List.pairwise_filterMap.mpr (List.Pairwise.imp_of_mem ?_ (drafts_pairwise htiles))
  intro d e hd he hbefore x hx y hy
  exact hbefore.identifier_ne hx hy (hnumber d hd) (hnumber e he)

/-- The fingerprints of a call differ, as the digest does not collide on what it digests. -/
theorem nodup_keys
    (hshort : ∀ line ∈ lines, s.exceeds line.length = true → line.length < 10 ^ 49)
    (hdigest : Fingerprint.CollisionFree (hashedIdentifiers s span lines)) :
    (keys span (spanDrafts s span lines)).Nodup := by
  rw [keys_eq_map]
  exact (nodup_hashedIdentifiers hshort).map_on fun x hx y hy h => hdigest.eq hx hy h

/-! ## Blocks of drafts -/

theorem blocksOf_append (span : Span) (parts : Nat) (ds es : List Draft) :
    ∃ parts', blocksOf span parts (ds ++ es) = blocksOf span parts ds ++ blocksOf span parts' es := by
  induction ds generalizing parts with
  | nil => exact ⟨parts, rfl⟩
  | cons d ds ih =>
    obtain ⟨parts', h⟩ := ih (d.partsAfter parts)
    exact ⟨parts', by rw [List.cons_append, blocksOf, blocksOf, h, List.append_assoc]⟩

theorem exists_draft_of_mem_blocksOf {parts : Nat} {ds : List Draft} {block : Block}
    (h : block ∈ blocksOf span parts ds) : ∃ d ∈ ds, ∃ k, d.block? span k = some block := by
  induction ds generalizing parts with
  | nil => exact absurd h List.not_mem_nil
  | cons d ds ih =>
    rcases List.mem_append.mp h with h | h
    · exact ⟨d, List.mem_cons_self, parts, Option.mem_toList.mp h⟩
    · obtain ⟨e, he, k, hblock⟩ := ih h
      exact ⟨e, List.mem_cons_of_mem _ he, k, hblock⟩

theorem exists_draft_of_mem_settle {parts : Nat} {admitted : Admitted} {ds : List Draft}
    {block : Block} (h : block ∈ (settle span parts admitted ds).blocks) :
    ∃ d ∈ ds, ∃ k, d.block? span k = some block := by
  obtain ⟨kept, hkept⟩ := exists_keeps span parts admitted ds
  rw [hkept.blocks_eq] at h
  obtain ⟨d, hd, hblock⟩ := exists_draft_of_mem_blocksOf h
  exact ⟨d, hkept.sublist.subset hd, hblock⟩

theorem block_lines_of_liesIn {d : Draft} {k : Nat} {block : Block} (hd : d.LiesIn span a b)
    (hblock : d.block? span k = some block) :
    span.startLine + a ≤ block.startLine ∧ block.startLine ≤ block.endLine ∧
      block.endLine < span.startLine + b := by
  cases d with
  | note event => exact absurd hblock (by simp [Draft.block?])
  | chunk first last code =>
    obtain rfl := Option.some.inj hblock
    exact hd
  | segment line number code =>
    obtain rfl := Option.some.inj hblock
    exact ⟨hd.1, Int.le_refl _, hd.2⟩

/-- The blocks of a tiling stand on its lines. -/
theorem block_lines (h : Tiles s lines a c ps) {parts : Nat} {block : Block}
    (hmem : block ∈ blocksOf span parts (ps.flatMap (drafts limits span))) :
    span.startLine + a ≤ block.startLine ∧ block.startLine ≤ block.endLine ∧
      block.endLine < span.startLine + c := by
  obtain ⟨d, hd, k, hblock⟩ := exists_draft_of_mem_blocksOf hmem
  exact block_lines_of_liesIn (drafts_liesIn h d hd) hblock

end Chunking

end SourceBlocks
