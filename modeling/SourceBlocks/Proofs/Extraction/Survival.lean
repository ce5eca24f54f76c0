import SourceBlocks.Proofs.Chunking.Sizes
import SourceBlocks.Proofs.Extraction.Recall

/-!
# Every span leaves something

A run that is too small is dropped, and so is a run without text.  Yet a span with some text never
loses all of its lines: a last run without text is a single empty line, and the run before it was
closed because this line did not fit, so it was large enough.  A captured node that has to be split
leaves something, too, unless the parser refuses to look up its fields.
-/

namespace SourceBlocks

open Packing Text

namespace Chunking

variable {s : Sizing} {span : Span} {limits : Limits} {lines : List Text} {a b : Nat}
  {ps : List Piece} {moved : Nat → Nat → Nat}

/-- With nothing admitted before, the first draft with a fingerprint becomes a block. -/
theorem settle_ne_nil {parts : Nat} {ds : List Draft} (h : keys span ds ≠ []) :
    (settle span parts .empty ds).blocks ≠ [] := by
  obtain ⟨kept, hkept⟩ := exists_keeps span parts .empty ds
  obtain ⟨key, hkey⟩ := List.exists_mem_of_ne_nil _ h
  have hrecorded := hkept.recorded key hkey
  rw [hkept.keys_eq, Admitted.empty, List.append_nil, List.mem_reverse] at hrecorded
  intro hnil
  have hlength := length_blocksOf span parts kept
  rw [← hkept.blocks_eq, hnil, List.length_nil] at hlength
  rw [List.eq_nil_of_length_eq_zero hlength.symm] at hrecorded
  exact absurd hrecorded List.not_mem_nil

theorem keys_run_ne_nil {final : Bool} (hab : a < b) (hb : b ≤ lines.length)
    (hfull : joinLines (stretch lines a b) ≠ [])
    (hkept : ¬ (stretchLength lines a b < limits.minChars ∧ final = false)) :
    keys span (drafts limits span (.run a (stretch lines a b) final)) ≠ [] := by
  rw [drafts_run hab hb, if_neg hfull, if_neg hkept]
  exact List.cons_ne_nil _ _

theorem keys_longLine_ne_nil {line : Text} (hline : line ≠ []) :
    keys span (drafts limits span (.longLine a line)) ≠ [] := by
  have hsize : ¬ (limits.maxChars = 0 ∨ line = []) := by
    rintro (hzero | hnil)
    · exact absurd hzero (Nat.ne_of_gt limits.maxChars_pos)
    · exact hline hnil
  rw [drafts, segments, if_neg hsize, List.zipIdx_cons, List.map_cons]
  exact List.cons_ne_nil _ _

theorem joinLines_stretch_ne_nil {i : Nat} (hi : i < lines.length) (hai : a ≤ i) (hib : i < b)
    (hb : b ≤ lines.length) (hline : lines[i] ≠ []) : joinLines (stretch lines a b) ≠ [] := by
  intro hnil
  have hle : lines[i].length ≤ (joinLines (stretch lines a b)).length :=
    length_le_stretchLength hi hai hib hb
  rw [hnil] at hle
  exact hline (List.eq_nil_of_length_eq_zero (Nat.le_zero.mp hle))

theorem ne_nil_of_long (hmin : s.exceeds s.limits.minChars = false) {line : Text}
    (hlong : s.exceeds line.length = true) : line ≠ [] := by
  rintro rfl
  rw [List.length_nil, fits_of_le (Nat.zero_le s.limits.minChars) hmin] at hlong
  exact Bool.noConfusion hlong

/-- If what follows a run has no text, the run is all that came before an empty last line, and has
at least the smallest size. -/
theorem large_of_blank_rest {i k : Nat} (hmin : s.exceeds s.limits.minChars = false) (hbi : b < i)
    (hi : i < lines.length) (hover : s.exceeds (stretchLength lines b (i + 1)) = true)
    (hblank : joinLines (stretch lines (i - k) lines.length) = []) :
    i - k = i ∧ s.limits.minChars ≤ stretchLength lines b i := by
  have hnext : i - k < lines.length := Nat.lt_of_le_of_lt (Nat.sub_le i k) hi
  have hrest := (joinLines_eq_nil_iff (stretch_ne_nil hnext (Nat.le_refl _))).mp hblank
  have hone : lines.length - (i - k) = 1 := by
    rw [← length_stretch (Nat.le_refl lines.length), hrest]
    rfl
  have hlast : i - k = i := by omega
  refine ⟨hlast, ?_⟩
  rw [hlast, stretch_eq_cons hi (Nat.le_refl _)] at hrest
  have hempty : lines[i] = [] := (List.cons.inj hrest).1
  by_contra hsmall
  rw [stretchLength_succ_right hbi hi, hempty, List.length_nil,
    fits_of_le (by omega) hmin] at hover
  exact Bool.noConfusion hover

/-- Whatever rule moves the lines, the pieces of lines with some text hand on a draft with a
fingerprint. -/
theorem keys_ne_nil_of_settles (hmin : s.exceeds s.limits.minChars = false)
    (h : Settles s lines moved b ps) (hfull : joinLines (stretch lines b lines.length) ≠ []) :
    keys span (ps.flatMap (drafts s.limits span)) ≠ [] := by
  induction h with
  | done => exact absurd (congrArg joinLines (stretch_self lines _)) hfull
  | longLine hb hlong =>
    rw [List.flatMap_cons, keys_append]
    exact List.append_ne_nil_of_left_ne_nil (keys_longLine_ne_nil (ne_nil_of_long hmin hlong)) _
  | final hb hfits =>
    rw [List.flatMap_cons, keys_append]
    apply List.append_ne_nil_of_left_ne_nil
    exact keys_run_ne_nil hb (Nat.le_refl _) hfull fun hskip => Bool.noConfusion hskip.2
  | beforeLongLine hbi hi _ hlong _ ih =>
    rw [List.flatMap_cons, keys_append]
    apply List.append_ne_nil_of_right_ne_nil
    exact ih (joinLines_stretch_ne_nil hi (Nat.le_refl _) hi (Nat.le_refl _)
      (ne_nil_of_long hmin hlong))
  | @overflow b i ps hbi hi hfits _ hover hmoved _ _ ih =>
    rw [List.flatMap_append, List.flatMap_cons, keys_append, keys_append]
    apply List.append_ne_nil_of_right_ne_nil
    by_cases hblank : joinLines (stretch lines (i - moved b i) lines.length) = []
    · obtain ⟨hlast, hlarge⟩ := large_of_blank_rest hmin hbi hi hover hblank
      apply List.append_ne_nil_of_left_ne_nil
      rw [hlast]
      have hpos := s.limits.minChars_pos
      refine keys_run_ne_nil hbi (Nat.le_of_lt hi) ?_ fun hskip => ?_
      · exact List.ne_nil_of_length_pos (Nat.lt_of_lt_of_le hpos hlarge)
      · exact absurd hskip.1 (Nat.not_lt_of_le hlarge)
    · exact List.append_ne_nil_of_right_ne_nil _ (ih hblank)

theorem chunkLines_ne_nil (hmin : s.exceeds s.limits.minChars = false)
    (hfull : joinLines lines ≠ []) : (chunkLines s span lines .empty).blocks ≠ [] := by
  apply settle_ne_nil
  apply keys_ne_nil_of_settles hmin (pieces_settles s lines)
  rwa [stretch_zero_length]

end Chunking

/-! ## Nodes that have to be split -/

/-- The parser refuses a lookup for the name or for the signature of a node. -/
def Cursor.IsRefused (node : Cursor) (source : Octets) (refusal : LookupRefusal) : Prop :=
  node.name? = .error refusal ∨ node.signature? source = .error refusal

theorem nodePortion_oversized {file : SourceFile} {limits : Limits} {s : Sizing}
    {category : Category} {node : Cursor} (hs : Sizing.ofLimits? limits = some s)
    (htext : node.text ≠ []) (hlong : s.exceeds node.text.length = true) :
    (∃ span, file.nodePortion limits category node = [.ok (.packed s span node.text)]) ∨
      ∃ refusal, node.IsRefused file.octets refusal ∧
        file.nodePortion limits category node = [.error (.lookupRefused refusal)] := by
  rw [SourceFile.nodePortion, if_neg (by simpa using htext)]
  cases hname : node.name? with
  | error refusal => exact Or.inr ⟨refusal, Or.inl hname, rfl⟩
  | ok name =>
    cases hsignature : node.signature? file.octets with
    | error refusal => exact Or.inr ⟨refusal, Or.inr hsignature, rfl⟩
    | ok signature =>
      left
      refine ⟨file.nodeSpan category node name node.documentation? signature, ?_⟩
      simp only [hs, hlong, if_true]
      rfl

/-- With a threshold that is not below the smallest size, a span with some text has at least one
block.  So has a captured node that has to be split, unless a lookup is refused. -/
theorem spans_survive (limits : Limits) (s : Sizing) (hs : Sizing.ofLimits? limits = some s)
    (hthreshold : s.threshold = .nan ∨ s.threshold.AtLeast limits.minChars) :
    (∀ (span : Span) (lines : List Text), joinLines lines ≠ [] →
        (Chunking.chunkLines s span lines .empty).blocks ≠ []) ∧
      ∀ (rootPrefix path content : Text) (capture : Capture),
        (Category.ofNode? capture.kind capture.node).isSome → capture.kind ∉ Kind.declarations →
        Chunking.isOversized limits capture.node.text = some true →
          (∃ blocks, blocks ≠ [] ∧
            (extractBlocks limits rootPrefix path content [capture] .empty).outcome = .ok blocks) ∨
          ∃ refusal, capture.node.IsRefused (Utf8.encode content) refusal ∧
            (extractBlocks limits rootPrefix path content [capture] .empty).outcome =
              .error (.lookupRefused refusal) := by
  have hlimits : s.limits = limits := by
    obtain ⟨threshold, -, rfl⟩ := Option.map_eq_some_iff.mp hs
    rfl
  have hmin : s.exceeds s.limits.minChars = false := by
    rw [hlimits]
    rcases hthreshold with hnan | hleast
    · rw [Sizing.exceeds, hnan, Binary64.nan_ltNat]
    · exact hleast.ltNat_eq_false
  constructor
  · intro span lines hfull
    exact Chunking.chunkLines_ne_nil hmin hfull
  · intro rootPrefix path content capture hcategory hkind hsize
    obtain ⟨category, hcategory⟩ := Option.isSome_iff_exists.mp hcategory
    have hlong : s.exceeds capture.node.text.length = true := by
      rw [Chunking.isOversized_eq hs] at hsize
      exact Option.some.inj hsize
    have htext := Chunking.ne_nil_of_long hmin hlong
    rw [extractBlocks_captured (List.cons_ne_nil _ _), capturedPortions, List.flatMap_singleton,
      capturePortions_node hcategory hkind]
    rcases nodePortion_oversized hs htext hlong with ⟨span, hportion⟩ | ⟨refusal, hrefused, hportion⟩
    · left
      refine ⟨(Chunking.chunkLines s span (Text.lines capture.node.text) .empty).blocks, ?_, ?_⟩
      · apply Chunking.chunkLines_ne_nil hmin
        rwa [joinLines_lines]
      · rw [hportion]
        exact congrArg Except.ok (List.append_nil _)
    · right
      refine ⟨refusal, hrefused, ?_⟩
      rw [hportion]
      rfl

/-- A class on one line that is too long. -/
def wideClass : Capture :=
  .ofNode "class" (.root (.node ⟨"class_declaration", true, 0, 18, 0, 0, none,
    .plain "class A { int b; }".toList, none⟩ []))

theorem spans_survive_wideClass :
    Sizing.ofLimits? .tiny = some .tiny ∧ Sizing.tiny.threshold.AtLeast Limits.tiny.minChars ∧
      joinLines Chunking.mixedLines ≠ [] ∧
      (Chunking.chunkLines .tiny .bare Chunking.mixedLines .empty).blocks ≠ [] ∧
      (Category.ofNode? wideClass.kind wideClass.node).isSome ∧
      wideClass.kind ∉ Kind.declarations ∧
      Chunking.isOversized .tiny wideClass.node.text = some true ∧
      ((∃ blocks, blocks ≠ [] ∧ (extractBlocks .tiny [] "a.js".toList "class A { int b; }".toList
          [wideClass] .empty).outcome = .ok blocks) ∨
        ∃ refusal, wideClass.node.IsRefused (Utf8.encode "class A { int b; }".toList) refusal ∧
          (extractBlocks .tiny [] "a.js".toList "class A { int b; }".toList [wideClass]
            .empty).outcome = .error (.lookupRefused refusal)) := by
  have hleast : Sizing.tiny.threshold.AtLeast Limits.tiny.minChars :=
    Binary64.atLeast_of_ltNat_eq_false (by decide) (by decide)
  have hfull : joinLines Chunking.mixedLines ≠ [] := by decide
  have hkind : wideClass.kind ∉ Kind.declarations := by decide
  have hsize : Chunking.isOversized .tiny wideClass.node.text = some true := by
    rw [Chunking.isOversized_eq Sizing.ofLimits?_tiny]
    decide
  obtain ⟨hspans, hnodes⟩ := spans_survive .tiny .tiny Sizing.ofLimits?_tiny (Or.inr hleast)
  exact ⟨Sizing.ofLimits?_tiny, hleast, hfull, hspans .bare Chunking.mixedLines hfull, rfl, hkind,
    hsize, hnodes [] "a.js".toList "class A { int b; }".toList wideClass rfl hkind hsize⟩

end SourceBlocks
