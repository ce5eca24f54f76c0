import SourceBlocks.Chunking
import SourceBlocks.Proofs.Fingerprint

/-!
# Admitting drafts

Drafts are admitted one after the other, and the fingerprints admitted before decide which of them
become blocks.  When the fingerprints of the drafts differ, exactly the drafts whose fingerprint
was not there at the start become blocks; in any case no more of them do than there are
fingerprints, and all of them only if the fingerprints differ and are new.
-/

namespace SourceBlocks

namespace Draft

/-- The text whose digest is the fingerprint of a draft.  A note has none. -/
def identifier? (span : Span) : Draft → Option Text
  | chunk startLine endLine code =>
    some (Fingerprint.identifier span.file startLine endLine code)
  | segment line number code =>
    some (Fingerprint.identifier span.file line line (Text.ofNat number ++ '-' :: code))
  | note _ => none

/-- The fingerprint of a draft. -/
def key? (span : Span) (d : Draft) : Option Text :=
  (d.identifier? span).map fun identifier => Sha256.hex (Utf8.encode identifier)

/-- The block of a draft, after `parts` runs of the span were emitted. -/
def block? (span : Span) (parts : Nat) : Draft → Option Block
  | chunk startLine endLine code => some (Chunking.chunkBlock span parts startLine endLine code)
  | segment line number code => some (Chunking.segmentBlock span line number code)
  | note _ => none

/-- The number of emitted runs after a draft became a block. -/
def partsAfter (parts : Nat) : Draft → Nat
  | chunk .. => parts + 1
  | _ => parts

/-- The event that a draft reports. -/
def event? : Draft → Option Event
  | note event => some event
  | _ => none

/-- Whether a draft's fingerprint has not been admitted yet. -/
def isFresh (span : Span) (admitted : Admitted) (d : Draft) : Bool :=
  (d.key? span).all fun key => !admitted.hasKey key

end Draft

namespace Chunking

/-- The fingerprints of drafts. -/
def keys (span : Span) (drafts : List Draft) : List Text :=
  drafts.filterMap (Draft.key? span)

/-- The events that drafts report. -/
def reports (drafts : List Draft) : List Event :=
  drafts.filterMap Draft.event?

/-- The blocks of drafts that are all admitted, after `parts` runs of the span were emitted. -/
def blocksOf (span : Span) : Nat → List Draft → List Block
  | _, [] => []
  | parts, d :: later => (d.block? span parts).toList ++ blocksOf span (d.partsAfter parts) later

variable {span : Span} {parts : Nat} {admitted : Admitted} {d : Draft} {later drafts : List Draft}
  {key : Text}

theorem settle_note (event : Event) :
    settle span parts admitted (.note event :: later) =
      (settle span parts admitted later).withEvent event := rfl

/-- A draft with a fingerprint becomes a block if the fingerprint is new. -/
theorem settle_keyed (hkey : d.key? span = some key) :
    settle span parts admitted (d :: later) =
      if key ∈ admitted.keys then settle span parts admitted later
      else
        let rest := settle span (d.partsAfter parts) ⟨key :: admitted.keys⟩ later
        ⟨(d.block? span parts).toList ++ rest.blocks, rest.admitted, rest.events⟩ := by
  cases d with
  | note event => exact absurd hkey (by simp [Draft.key?, Draft.identifier?])
  | chunk startLine endLine code =>
    have hprint : (chunkBlock span parts startLine endLine code).fingerprint = key :=
      Option.some.inj hkey
    rw [settle, Admitted.accept, hprint, Admitted.admitKey]
    by_cases hmem : key ∈ admitted.keys
    · rw [if_pos (Admitted.hasKey_iff.mpr hmem), if_pos hmem]
    · rw [if_neg (fun h => hmem (Admitted.hasKey_iff.mp h)), if_neg hmem]
      rfl
  | segment line number code =>
    have hprint : segmentKey span line number code = key := Option.some.inj hkey
    rw [settle, hprint, Admitted.admitKey]
    by_cases hmem : key ∈ admitted.keys
    · rw [if_pos (Admitted.hasKey_iff.mpr hmem), if_pos hmem]
    · rw [if_neg (fun h => hmem (Admitted.hasKey_iff.mp h)), if_neg hmem]
      rfl

theorem exists_note_of_key?_eq_none (h : d.key? span = none) : ∃ event, d = .note event := by
  cases d with
  | note event => exact ⟨event, rfl⟩
  | chunk => exact absurd h (by simp [Draft.key?, Draft.identifier?])
  | segment => exact absurd h (by simp [Draft.key?, Draft.identifier?])

theorem event?_eq_none (h : d.key? span = some key) : d.event? = none := by
  cases d with
  | note event => exact absurd h (by simp [Draft.key?, Draft.identifier?])
  | chunk => rfl
  | segment => rfl

theorem exists_block (h : d.key? span = some key) (parts : Nat) :
    ∃ block, d.block? span parts = some block := by
  cases d with
  | note event => exact absurd h (by simp [Draft.key?, Draft.identifier?])
  | chunk => exact ⟨_, rfl⟩
  | segment => exact ⟨_, rfl⟩

theorem keys_cons_of_some (h : d.key? span = some key) :
    keys span (d :: later) = key :: keys span later := by
  simp [keys, h]

theorem keys_append (span : Span) (drafts more : List Draft) :
    keys span (drafts ++ more) = keys span drafts ++ keys span more :=
  List.filterMap_append

theorem isFresh_iff (h : d.key? span = some key) :
    d.isFresh span admitted = true ↔ key ∉ admitted.keys := by
  simp [Draft.isFresh, h, ← Admitted.hasKey_iff]

/-- Reports do not depend on what was admitted. -/
theorem settle_events (span : Span) (parts : Nat) (admitted : Admitted) (drafts : List Draft) :
    (settle span parts admitted drafts).events = reports drafts := by
  induction drafts generalizing parts admitted with
  | nil => rfl
  | cons d later ih =>
    cases hkey : d.key? span with
    | none =>
      obtain ⟨event, rfl⟩ := exists_note_of_key?_eq_none hkey
      rw [settle_note, Emission.withEvent, ih]
      rfl
    | some key =>
      have hreports : reports (d :: later) = reports later :=
        List.filterMap_cons_none (event?_eq_none hkey)
      rw [settle_keyed hkey, hreports]
      split <;> exact ih _ _

/-- Of drafts that are admitted one after the other some are kept: the notes, and the drafts whose
fingerprint is new when their turn comes.  The blocks are those of the kept drafts, whose
fingerprints are what is admitted in addition. -/
structure Keeps (span : Span) (parts : Nat) (admitted : Admitted) (drafts kept : List Draft) :
    Prop where
  sublist : kept.Sublist drafts
  blocks_eq : (settle span parts admitted drafts).blocks = blocksOf span parts kept
  keys_eq : (settle span parts admitted drafts).admitted.keys =
    (keys span kept).reverse ++ admitted.keys
  nodup : (keys span kept).Nodup
  new : ∀ key ∈ keys span kept, key ∉ admitted.keys
  recorded : ∀ key ∈ keys span drafts, key ∈ (settle span parts admitted drafts).admitted.keys

theorem exists_keeps (span : Span) (parts : Nat) (admitted : Admitted) (drafts : List Draft) :
    ∃ kept, Keeps span parts admitted drafts kept := by
  induction drafts generalizing parts admitted with
  | nil =>
    refine ⟨[], .slnil, rfl, rfl, .nil, ?_, ?_⟩
    · intro key hkey
      exact absurd hkey List.not_mem_nil
    · intro key hkey
      exact absurd hkey List.not_mem_nil
  | cons d later ih =>
    cases hkey : d.key? span with
    | none =>
      obtain ⟨event, rfl⟩ := exists_note_of_key?_eq_none hkey
      obtain ⟨kept, h⟩ := ih parts admitted
      exact ⟨.note event :: kept, h.sublist.cons_cons _, h.blocks_eq, h.keys_eq, h.nodup, h.new,
        h.recorded⟩
    | some key =>
      by_cases hmem : key ∈ admitted.keys
      · obtain ⟨kept, h⟩ := ih parts admitted
        have hsettle : settle span parts admitted (d :: later) =
            settle span parts admitted later := by
          rw [settle_keyed hkey, if_pos hmem]
        refine ⟨kept, h.sublist.cons d, ?_, ?_, h.nodup, h.new, ?_⟩
        · rw [hsettle, h.blocks_eq]
        · rw [hsettle, h.keys_eq]
        · intro other hother
          rw [hsettle]
          rw [keys_cons_of_some hkey] at hother
          rcases List.mem_cons.mp hother with rfl | hother
          · rw [h.keys_eq]
            exact List.mem_append_right _ hmem
          · exact h.recorded other hother
      · obtain ⟨kept, h⟩ := ih (d.partsAfter parts) ⟨key :: admitted.keys⟩
        have hnew : ∀ other ∈ keys span kept, other ≠ key ∧ other ∉ admitted.keys := by
          intro other hother
          have habsent := h.new other hother
          rwa [List.mem_cons, not_or] at habsent
        refine ⟨d :: kept, h.sublist.cons_cons d, ?_, ?_, ?_, ?_, ?_⟩
        · rw [settle_keyed hkey, if_neg hmem, blocksOf]
          dsimp only
          rw [h.blocks_eq]
        · rw [settle_keyed hkey, if_neg hmem, keys_cons_of_some hkey]
          dsimp only
          rw [h.keys_eq]
          simp
        · rw [keys_cons_of_some hkey]
          exact List.nodup_cons.mpr ⟨fun hother => (hnew key hother).1 rfl, h.nodup⟩
        · intro other hother
          rw [keys_cons_of_some hkey] at hother
          rcases List.mem_cons.mp hother with rfl | hother
          · exact hmem
          · exact (hnew other hother).2
        · intro other hother
          rw [keys_cons_of_some hkey] at hother
          rw [settle_keyed hkey, if_neg hmem]
          rcases List.mem_cons.mp hother with rfl | hother
          · rw [h.keys_eq]
            exact List.mem_append_right _ List.mem_cons_self
          · exact h.recorded other hother

/-- Drafts with fingerprints that differ become blocks exactly if their fingerprint is new. -/
theorem settle_of_nodup (hkeys : (keys span drafts).Nodup) :
    (settle span parts admitted drafts).blocks =
        blocksOf span parts (drafts.filter (Draft.isFresh span admitted)) ∧
      (settle span parts admitted drafts).admitted.keys =
        (keys span (drafts.filter (Draft.isFresh span admitted))).reverse ++ admitted.keys := by
  induction drafts generalizing parts admitted with
  | nil => exact ⟨rfl, rfl⟩
  | cons d later ih =>
    cases hkey : d.key? span with
    | none =>
      obtain ⟨event, rfl⟩ := exists_note_of_key?_eq_none hkey
      exact ih hkeys
    | some key =>
      rw [keys_cons_of_some hkey, List.nodup_cons] at hkeys
      rw [settle_keyed hkey]
      by_cases hmem : key ∈ admitted.keys
      · have hstale : ¬ d.isFresh span admitted = true := by
          rw [isFresh_iff hkey]
          exact fun h => h hmem
        rw [if_pos hmem, List.filter_cons_of_neg hstale]
        exact ih hkeys.2
      · have hfresh : d.isFresh span admitted = true := (isFresh_iff hkey).mpr hmem
        -- Admitting the draft changes nothing for the others, whose fingerprints differ from its.
        have hlater : later.filter (Draft.isFresh span ⟨key :: admitted.keys⟩) =
            later.filter (Draft.isFresh span admitted) := by
          apply List.filter_congr
          intro e he
          cases hother : e.key? span with
          | none => simp [Draft.isFresh, hother]
          | some other =>
            have hne : other ≠ key := by
              rintro rfl
              exact hkeys.1 (List.mem_filterMap.mpr ⟨e, he, hother⟩)
            simp [Draft.isFresh, hother, Admitted.hasKey, hne]
        obtain ⟨hblocks, hadmitted⟩ :=
          @ih (d.partsAfter parts) ⟨key :: admitted.keys⟩ hkeys.2
        rw [hlater] at hblocks hadmitted
        rw [if_neg hmem, List.filter_cons_of_pos hfresh, blocksOf, keys_cons_of_some hkey]
        dsimp only
        rw [hblocks, hadmitted]
        simp

theorem filter_isFresh_empty (drafts : List Draft) :
    drafts.filter (Draft.isFresh span .empty) = drafts := by
  rw [List.filter_eq_self]
  intro d _
  cases hkey : d.key? span <;> simp [Draft.isFresh, hkey, Admitted.hasKey, Admitted.empty]

/-- With nothing admitted before, all drafts with fingerprints that differ become blocks. -/
theorem settle_empty_of_nodup (hkeys : (keys span drafts).Nodup) :
    (settle span parts .empty drafts).blocks = blocksOf span parts drafts := by
  rw [(settle_of_nodup hkeys).1, filter_isFresh_empty]

theorem length_blocksOf (span : Span) (parts : Nat) (drafts : List Draft) :
    (blocksOf span parts drafts).length = (keys span drafts).length := by
  induction drafts generalizing parts with
  | nil => rfl
  | cons d later ih =>
    cases hkey : d.key? span with
    | none =>
      obtain ⟨event, rfl⟩ := exists_note_of_key?_eq_none hkey
      exact ih parts
    | some key =>
      obtain ⟨block, hblock⟩ := exists_block hkey parts
      rw [blocksOf, hblock, keys_cons_of_some hkey]
      exact congrArg Nat.succ (ih _)

/-- If every draft with a fingerprint became a block, the fingerprints differ and were new. -/
theorem nodup_of_settle_length
    (h : (settle span parts admitted drafts).blocks.length = (keys span drafts).length) :
    (keys span drafts).Nodup ∧ ∀ key ∈ keys span drafts, key ∉ admitted.keys := by
  obtain ⟨kept, hkept⟩ := exists_keeps span parts admitted drafts
  rw [hkept.blocks_eq, length_blocksOf] at h
  have hall : keys span kept = keys span drafts := (hkept.sublist.filterMap _).eq_of_length h
  rw [← hall]
  exact ⟨hkept.nodup, hkept.new⟩

end Chunking

end SourceBlocks
