import Mathlib.Data.List.TakeWhile
import SourceBlocks.Text.Basic

/-!
# Trimmed texts

Trimming takes white space off both ends of a text and nothing else.
-/

namespace SourceBlocks.Text

/-- A text neither begins nor ends with white space. -/
structure IsTrimmed (t : Text) : Prop where
  head_not_blank : ∀ c, t.head? = some c → isBlank c = false
  last_not_blank : ∀ c, t.getLast? = some c → isBlank c = false

/-- A text is made of white space, then `middle`, then `rest` with white space in it and around. -/
def Surrounds (t middle rest : Text) : Prop :=
  ∃ gap tail, t = gap ++ middle ++ tail ∧ (∀ c ∈ gap, isBlank c = true) ∧
    tail.filter (fun c => !isBlank c) = rest

variable {t middle rest inner : Text}

theorem filter_not_blank_eq_nil (h : ∀ c ∈ t, isBlank c = true) :
    t.filter (fun c => !isBlank c) = [] := by
  rw [List.filter_eq_nil_iff]
  intro c hc
  rw [h c hc]
  exact Bool.false_ne_true

theorem head_dropWhile_not_blank (t : Text) {c : Char}
    (h : (t.dropWhile isBlank).head? = some c) : isBlank c = false := by
  have hhead := List.head?_dropWhile_not isBlank t
  rw [h] at hhead
  exact hhead

/-- Trimming leaves the front of what follows the leading white space. -/
theorem exists_trim_append (t : Text) : ∃ tail, t.dropWhile isBlank = trim t ++ tail ∧
    ∀ c ∈ tail, isBlank c = true := by
  let u := t.dropWhile isBlank
  refine ⟨(u.reverse.takeWhile isBlank).reverse, ?_, ?_⟩
  · rw [trim, trimBy, ← List.reverse_append, List.takeWhile_append_dropWhile, List.reverse_reverse]
  · intro c hc
    exact List.mem_takeWhile_imp (List.mem_reverse.mp hc)

theorem surrounds_trim (t : Text) : Surrounds t (trim t) [] := by
  obtain ⟨tail, hsplit, htail⟩ := exists_trim_append t
  refine ⟨t.takeWhile isBlank, tail, ?_, ?_, filter_not_blank_eq_nil htail⟩
  · rw [List.append_assoc, ← hsplit, List.takeWhile_append_dropWhile]
  · exact fun c hc => List.mem_takeWhile_imp hc

theorem isTrimmed_trim (t : Text) : IsTrimmed (trim t) := by
  constructor
  · intro c hc
    obtain ⟨tail, hsplit, -⟩ := exists_trim_append t
    apply head_dropWhile_not_blank t
    rw [hsplit, List.head?_append, hc]
    rfl
  · intro c hc
    rw [trim, trimBy, List.getLast?_reverse] at hc
    exact head_dropWhile_not_blank (t.dropWhile isBlank).reverse hc

theorem Surrounds.mem (h : Surrounds t middle rest) {c : Char} (hc : c ∈ middle) : c ∈ t := by
  obtain ⟨gap, tail, rfl, -, -⟩ := h
  exact List.mem_append_left _ (List.mem_append_right _ hc)

/-- A trimmed text with white space before it begins a text whose leading white space is removed. -/
theorem isPrefix_dropWhile (hmiddle : IsTrimmed middle) (h : Surrounds inner middle rest)
    (hinner : inner <+: t) : middle <+: t.dropWhile isBlank := by
  obtain ⟨gap, tail, rfl, hgap, -⟩ := h
  obtain ⟨later, rfl⟩ := hinner
  rw [List.append_assoc, List.append_assoc, List.dropWhile_append_of_pos hgap]
  cases middle with
  | nil => exact List.nil_prefix
  | cons c letters =>
    have hc : ¬ isBlank c = true := by
      rw [hmiddle.head_not_blank c rfl]
      exact Bool.false_ne_true
    rw [List.cons_append, List.dropWhile_cons_of_neg hc, ← List.cons_append]
    exact List.prefix_append _ _

/-- A text that surrounds one that is not blank at its end, less its last character. -/
theorem Surrounds.of_concat {c : Char} (h : Surrounds t (inner ++ [c]) []) (hc : isBlank c = false)
    (hinner : Surrounds inner middle []) : Surrounds t middle [c] := by
  obtain ⟨gap, tail, rfl, hgap, htail⟩ := h
  obtain ⟨gap', tail', rfl, hgap', htail'⟩ := hinner
  refine ⟨gap ++ gap', tail' ++ c :: tail, by simp, ?_, ?_⟩
  · intro d hd
    exact (List.mem_append.mp hd).elim (hgap d) (hgap' d)
  · have hkept : (!isBlank c) = true := by rw [hc, Bool.not_false]
    rw [List.filter_append, htail', List.filter_cons, if_pos hkept, htail, List.nil_append]

end SourceBlocks.Text
