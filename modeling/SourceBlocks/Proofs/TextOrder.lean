import SourceBlocks.Text.Basic

/-!
# The order of texts

The order by code points is total, so a list of texts has one sorted arrangement.
-/

namespace SourceBlocks.Text

theorem le_cons_cons_iff {c d : Char} {s t : Text} :
    le (c :: s) (d :: t) = true ↔ c.toNat < d.toNat ∨ c = d ∧ le s t = true := by
  simp [le]

theorem le_total (s t : Text) : (le s t || le t s) = true := by
  induction s generalizing t with
  | nil => simp [le]
  | cons c s ih =>
    cases t with
    | nil => simp [le]
    | cons d t =>
      rw [Bool.or_eq_true, le_cons_cons_iff, le_cons_cons_iff]
      rcases Nat.lt_trichotomy c.toNat d.toNat with hlt | heq | hgt
      · exact Or.inl (Or.inl hlt)
      · have hcd : c = d := Char.toNat_inj.mp heq
        rcases Bool.or_eq_true _ _ ▸ ih t with hst | hts
        · exact Or.inl (Or.inr ⟨hcd, hst⟩)
        · exact Or.inr (Or.inr ⟨hcd.symm, hts⟩)
      · exact Or.inr (Or.inl hgt)

theorem le_trans {s t u : Text} (hst : le s t = true) (htu : le t u = true) : le s u = true := by
  induction s generalizing t u with
  | nil => rfl
  | cons c s ih =>
    cases t with
    | nil => cases hst
    | cons d t =>
      cases u with
      | nil => cases htu
      | cons e u =>
        rw [le_cons_cons_iff] at hst htu ⊢
        rcases hst with hcd | ⟨rfl, hst⟩
        · rcases htu with hde | ⟨rfl, -⟩
          · exact Or.inl (Nat.lt_trans hcd hde)
          · exact Or.inl hcd
        · rcases htu with hde | ⟨rfl, htu⟩
          · exact Or.inl hde
          · exact Or.inr ⟨rfl, ih hst htu⟩

theorem le_antisymm {s t : Text} (hst : le s t = true) (hts : le t s = true) : s = t := by
  induction s generalizing t with
  | nil =>
    cases t with
    | nil => rfl
    | cons d t => cases hts
  | cons c s ih =>
    cases t with
    | nil => cases hst
    | cons d t =>
      rw [le_cons_cons_iff] at hst hts
      rcases hst with hcd | ⟨rfl, hst⟩
      · rcases hts with hdc | ⟨rfl, -⟩
        · exact absurd hdc (Nat.lt_asymm hcd)
        · exact absurd hcd (Nat.lt_irrefl _)
      · rcases hts with hcc | ⟨-, hts⟩
        · exact absurd hcc (Nat.lt_irrefl _)
        · rw [ih hst hts]

theorem pairwise_mergeSort (texts : List Text) :
    (texts.mergeSort le).Pairwise fun s t => le s t = true := by
  apply List.pairwise_mergeSort
  · intro s t u
    exact le_trans
  · exact le_total

/-- A list of texts that differ is strictly ascending once it is sorted. -/
theorem strictly_ascending_mergeSort {texts : List Text} (h : texts.Nodup) :
    (texts.mergeSort le).Pairwise fun s t => le s t = true ∧ s ≠ t := by
  have hnodup : (texts.mergeSort le).Nodup := (List.mergeSort_perm texts le).nodup_iff.mpr h
  exact (pairwise_mergeSort texts).and hnodup

theorem filter_mergeSort (p : Text → Bool) (texts : List Text) :
    (texts.mergeSort le).filter p = (texts.filter p).mergeSort le := by
  apply List.Perm.eq_of_pairwise (fun _ _ _ _ => le_antisymm)
  · exact (pairwise_mergeSort texts).filter p
  · exact pairwise_mergeSort _
  · exact ((List.mergeSort_perm texts le).filter p).trans (List.mergeSort_perm _ le).symm

/-- Strictly ascending lists of the same texts are the same. -/
theorem eq_of_ascending {texts other : List Text}
    (htexts : texts.Pairwise fun s t => le s t = true ∧ s ≠ t)
    (hother : other.Pairwise fun s t => le s t = true ∧ s ≠ t)
    (h : ∀ text, text ∈ texts ↔ text ∈ other) : texts = other := by
  have hperm : texts.Perm other :=
    (List.perm_ext_iff_of_nodup (htexts.imp And.right) (hother.imp And.right)).mpr h
  exact hperm.eq_of_pairwise (fun _ _ _ _ => le_antisymm) (htexts.imp And.left)
    (hother.imp And.left)

end SourceBlocks.Text
