import Mathlib.Data.List.Nodup
import SourceBlocks.Capture

/-!
# Captures in the order of the file

The captures of a report are its first reports of each stretch and kind, sorted so that an outer
node stands before the nodes it contains; the sort is stable.  The first reports are found in the
order of the report, so everything about them is said by their positions there.
-/

namespace SourceBlocks.Capture

/-- The captures of a report, one after the other. -/
def reports (report : List (String × List Cursor)) : List Capture :=
  report.flatMap fun (name, nodes) => nodes.map (ofNode name)

/-- A capture stands at position `i` of a list, and none before it has its key. -/
structure IsFirst (captures : List Capture) (i : Nat) (c : Capture) : Prop where
  getElem?_eq : captures[i]? = some c
  unseen : ∀ j < i, ∀ earlier, captures[j]? = some earlier → earlier.key ≠ c.key

/-- The stretch of the file that a capture covers. -/
def range (c : Capture) : Nat × Nat := (c.node.info.startByte, c.node.info.endByte)

/-- The stretch of one capture contains that of another, and more. -/
structure ProperlyContains (c d : Capture) : Prop where
  start_le : c.node.info.startByte ≤ d.node.info.startByte
  end_le : d.node.info.endByte ≤ c.node.info.endByte
  range_ne : c.range ≠ d.range

/-- A list holds the first captures of a report, each key once, in the order of the file. -/
structure Arranges (report : List (String × List Cursor)) (captures : List Capture) : Prop where
  exists_first : ∀ c ∈ captures, ∃ i, IsFirst (reports report) i c
  keys_nodup : (captures.map key).Nodup
  mem_keys_iff : ∀ k, k ∈ captures.map key ↔ k ∈ (reports report).map key
  kind_eq : ∀ c ∈ captures, c.kind = c.node.kind
  sorted : captures.Pairwise fun c d => c.node.info.startByte < d.node.info.startByte ∨
    c.node.info.startByte = d.node.info.startByte ∧ d.node.info.endByte ≤ c.node.info.endByte
  stable : captures.Pairwise fun c d => c.range = d.range →
    ∃ i j, IsFirst (reports report) i c ∧ IsFirst (reports report) j d ∧ i < j
  outer_first : ∀ (i j : Nat) (c d : Capture), captures[i]? = some c → captures[j]? = some d →
    c.ProperlyContains d → i < j

variable {captures before later : List Capture} {seen : List (Nat × Nat × String)} {c d : Capture}
  {i j : Nat}

/-! ## First reports -/

theorem IsFirst.key_ne (hc : IsFirst captures i c) (hd : IsFirst captures j d) (hij : i < j) :
    c.key ≠ d.key :=
  hd.unseen i hij c hc.getElem?_eq

theorem isFirst_of_new (h : c.key ∉ before.map key) :
    IsFirst (before ++ c :: later) before.length c := by
  constructor
  · rw [List.getElem?_append_right (Nat.le_refl _), Nat.sub_self, List.getElem?_cons_zero]
  · intro j hj earlier hearlier hkey
    rw [List.getElem?_append_left hj] at hearlier
    exact h (hkey ▸ List.mem_map_of_mem (List.mem_of_getElem? hearlier))

/-- Past some captures, whose keys have been seen, the first reports are those of the whole list
that stand past them, in its order. -/
theorem firstReports_spec (hseen : ∀ k, k ∈ seen ↔ k ∈ before.map key) :
    (∀ c ∈ firstReports seen later, ∃ i, before.length ≤ i ∧ IsFirst (before ++ later) i c) ∧
      (firstReports seen later).Pairwise fun c d => ∃ i j,
        IsFirst (before ++ later) i c ∧ IsFirst (before ++ later) j d ∧ i < j := by
  induction later generalizing before seen with
  | nil => exact ⟨fun c hc => absurd hc List.not_mem_nil, List.Pairwise.nil⟩
  | cons c later ih =>
    have hsplit : before ++ c :: later = before ++ [c] ++ later := by simp
    rw [firstReports]
    split
    next hold =>
      have hkey : c.key ∈ before.map key := (hseen _).mp (List.contains_iff_mem.mp hold)
      have hsame : ∀ k, k ∈ seen ↔ k ∈ (before ++ [c]).map key := by
        intro k
        rw [hseen, List.map_append, List.mem_append, List.map_singleton, List.mem_singleton]
        exact (or_iff_left_of_imp fun h => h ▸ hkey).symm
      obtain ⟨hfirst, hpairs⟩ := ih hsame
      rw [hsplit]
      refine ⟨fun d hd => ?_, hpairs⟩
      obtain ⟨i, hi, hd⟩ := hfirst d hd
      rw [List.length_append] at hi
      exact ⟨i, by omega, hd⟩
    next hnew =>
      have hkey : c.key ∉ before.map key := fun h =>
        hnew (List.contains_iff_mem.mpr ((hseen _).mpr h))
      have hmore : ∀ k, k ∈ c.key :: seen ↔ k ∈ (before ++ [c]).map key := by
        intro k
        rw [List.mem_cons, hseen, List.map_append, List.mem_append, List.map_singleton,
          List.mem_singleton, or_comm]
      obtain ⟨hfirst, hpairs⟩ := ih hmore
      have hc : IsFirst (before ++ c :: later) before.length c := isFirst_of_new hkey
      rw [← hsplit] at hfirst hpairs
      have hpast : ∀ d ∈ firstReports (c.key :: seen) later,
          ∃ i, before.length < i ∧ IsFirst (before ++ c :: later) i d := by
        intro d hd
        obtain ⟨i, hi, hd⟩ := hfirst d hd
        rw [List.length_append, List.length_singleton] at hi
        exact ⟨i, hi, hd⟩
      constructor
      · intro d hd
        rcases List.mem_cons.mp hd with rfl | hd
        · exact ⟨before.length, Nat.le_refl _, hc⟩
        · obtain ⟨i, hi, hd⟩ := hpast d hd
          exact ⟨i, Nat.le_of_lt hi, hd⟩
      · refine List.Pairwise.cons (fun d hd => ?_) hpairs
        obtain ⟨i, hi, hd⟩ := hpast d hd
        exact ⟨before.length, i, hc, hd, hi⟩

/-- The captures that are kept are first reports, in their order. -/
theorem firstReports_firsts (captures : List Capture) :
    (∀ c ∈ firstReports [] captures, ∃ i, IsFirst captures i c) ∧
      (firstReports [] captures).Pairwise fun c d =>
        ∃ i j, IsFirst captures i c ∧ IsFirst captures j d ∧ i < j := by
  have hnone : ∀ k : Nat × Nat × String, k ∈ [] ↔ k ∈ ([] : List Capture).map key := by simp
  obtain ⟨hfirst, hpairs⟩ := firstReports_spec hnone
  refine ⟨fun c hc => ?_, hpairs⟩
  obtain ⟨i, -, hi⟩ := hfirst c hc
  exact ⟨i, hi⟩

theorem nodup_keys_firstReports (captures : List Capture) :
    ((firstReports [] captures).map key).Nodup := by
  rw [List.Nodup, List.pairwise_map]
  apply (firstReports_firsts captures).2.imp
  rintro c d ⟨i, j, hc, hd, hij⟩
  exact hc.key_ne hd hij

/-- The first reports have all keys but the ones that were seen before. -/
theorem mem_keys_firstReports_iff {k : Nat × Nat × String} :
    k ∈ (firstReports seen captures).map key ↔ k ∈ captures.map key ∧ k ∉ seen := by
  induction captures generalizing seen with
  | nil => simp [firstReports]
  | cons c later ih =>
    rw [firstReports, List.map_cons, List.mem_cons]
    split
    next hold =>
      have hkey : c.key ∈ seen := List.contains_iff_mem.mp hold
      rw [ih]
      constructor
      · rintro ⟨hlater, hk⟩
        exact ⟨Or.inr hlater, hk⟩
      · rintro ⟨rfl | hlater, hk⟩
        · exact absurd hkey hk
        · exact ⟨hlater, hk⟩
    next hnew =>
      have hkey : c.key ∉ seen := fun h => hnew (List.contains_iff_mem.mpr h)
      rw [List.map_cons, List.mem_cons, ih, List.mem_cons, not_or]
      constructor
      · rintro (rfl | ⟨hlater, -, hk⟩)
        · exact ⟨Or.inl rfl, hkey⟩
        · exact ⟨Or.inr hlater, hk⟩
      · rintro ⟨hmem, hk⟩
        by_cases heq : k = c.key
        · exact Or.inl heq
        · exact Or.inr ⟨hmem.resolve_left heq, heq, hk⟩

/-! ## The order of the file -/

theorem precedes_iff : precedes c d = true ↔
    c.node.info.startByte < d.node.info.startByte ∨
      c.node.info.startByte = d.node.info.startByte ∧
        d.node.info.endByte ≤ c.node.info.endByte := by
  rw [precedes, Bool.or_eq_true, Bool.and_eq_true, decide_eq_true_iff, decide_eq_true_iff,
    decide_eq_true_iff]

theorem precedes_total (c d : Capture) : (precedes c d || precedes d c) = true := by
  rw [Bool.or_eq_true, precedes_iff, precedes_iff]
  omega

theorem precedes_trans (b c d : Capture) (hbc : precedes b c = true) (hcd : precedes c d = true) :
    precedes b d = true := by
  rw [precedes_iff] at *
  omega

theorem precedes_of_range_eq (h : c.range = d.range) : precedes c d = true := by
  obtain ⟨hstart, hend⟩ := Prod.mk.inj h
  exact precedes_iff.mpr (Or.inr ⟨hstart, Nat.le_of_eq hend.symm⟩)

theorem mergeSort_pairwise (captures : List Capture) :
    (captures.mergeSort precedes).Pairwise fun c d => precedes c d = true :=
  List.pairwise_mergeSort precedes_trans precedes_total captures

/-- Sorting leaves the captures of one stretch as they were. -/
theorem filter_range_mergeSort (captures : List Capture) (range : Nat × Nat) :
    (captures.mergeSort precedes).filter (fun c => c.range = range) =
      captures.filter fun c => c.range = range := by
  have hpairs : (captures.filter fun c => c.range = range).Pairwise
      fun c d => precedes c d = true := by
    rw [List.pairwise_filter]
    apply List.pairwise_of_forall
    intro c d hc hd
    exact precedes_of_range_eq ((of_decide_eq_true hc).trans (of_decide_eq_true hd).symm)
  have hsublist : (captures.filter fun c => c.range = range).Sublist
      (captures.mergeSort precedes) :=
    List.sublist_mergeSort precedes_trans precedes_total hpairs List.filter_sublist
  have hkept := hsublist.filter fun c => decide (c.range = range)
  rw [List.filter_filter] at hkept
  simp only [Bool.and_self] at hkept
  exact (hkept.eq_of_length
    ((List.mergeSort_perm captures precedes).filter _).length_eq.symm).symm

/-- Two captures of one stretch stand in the order of their first reports. -/
theorem mergeSort_stable {R : Capture → Capture → Prop} (h : captures.Pairwise R) :
    (captures.mergeSort precedes).Pairwise fun c d => c.range = d.range → R c d := by
  rw [List.pairwise_iff_forall_sublist]
  intro c d hsublist hrange
  have hstretch : ((captures.mergeSort precedes).filter fun b => b.range = d.range).Pairwise R := by
    rw [filter_range_mergeSort]
    exact h.filter _
  rw [List.pairwise_filter, List.pairwise_iff_forall_sublist] at hstretch
  exact hstretch hsublist (decide_eq_true hrange) (decide_eq_true rfl)

/-- What contains a stretch properly comes before it in a sorted list. -/
theorem lt_of_properlyContains (hsorted : captures.Pairwise fun c d => precedes c d = true)
    (hc : captures[i]? = some c) (hd : captures[j]? = some d) (h : c.ProperlyContains d) :
    i < j := by
  obtain ⟨hi, rfl⟩ := List.getElem?_eq_some_iff.mp hc
  obtain ⟨hj, rfl⟩ := List.getElem?_eq_some_iff.mp hd
  by_contra hle
  rcases Nat.lt_or_eq_of_le (Nat.le_of_not_lt hle) with hlt | rfl
  · have hback := precedes_iff.mp (List.pairwise_iff_getElem.mp hsorted j i hj hi hlt)
    have hne := h.range_ne
    rw [range, range, ne_eq, Prod.mk.injEq] at hne
    have hstart := h.start_le
    have hend := h.end_le
    omega
  · exact h.range_ne rfl

/-- The captures of a report are its first reports of each stretch and kind, in the order of the
file. -/
theorem ofReport_arranges (report : List (String × List Cursor)) :
    Arranges report (ofReport report) := by
  have hperm : (ofReport report).Perm (firstReports [] (reports report)) :=
    List.mergeSort_perm _ precedes
  have hfirst : ∀ c ∈ ofReport report, ∃ i, IsFirst (reports report) i c := by
    intro c hc
    exact (firstReports_firsts _).1 c (hperm.mem_iff.mp hc)
  constructor
  · exact hfirst
  · exact (hperm.map key).nodup_iff.mpr (nodup_keys_firstReports _)
  · intro k
    rw [(hperm.map key).mem_iff, mem_keys_firstReports_iff]
    exact and_iff_left List.not_mem_nil
  · intro c hc
    obtain ⟨i, hi⟩ := hfirst c hc
    obtain ⟨⟨name, nodes⟩, -, hmem⟩ := List.mem_flatMap.mp (List.mem_of_getElem? hi.getElem?_eq)
    obtain ⟨node, -, rfl⟩ := List.mem_map.mp hmem
    rfl
  · exact (mergeSort_pairwise _).imp precedes_iff.mp
  · exact mergeSort_stable (firstReports_firsts _).2
  · intro i j c d hc hd
    exact lt_of_properlyContains (mergeSort_pairwise _) hc hd

end SourceBlocks.Capture
