import Mathlib.Algebra.GroupWithZero.Nat
import SourceBlocks.Text.Basic

/-!
# Lines and their joined text

Facts on lines joined with line feeds: the length of the joined text, where a stretch of the lines
begins in it, and how many line feeds it holds.  The length that lines would have if a line feed
followed each of them adds up over any cut of the lines, so lengths are compared in that measure.
-/

namespace SourceBlocks.Text

/-- The length of lines that a line feed follows each. -/
def fedLength (lines : List Text) : Nat :=
  (lines.map fun line => line.length + 1).sum

@[simp] theorem fedLength_nil : fedLength [] = 0 := rfl

@[simp] theorem fedLength_cons (line : Text) (later : List Text) :
    fedLength (line :: later) = line.length + 1 + fedLength later := by
  simp [fedLength]

@[simp] theorem fedLength_append (lines more : List Text) :
    fedLength (lines ++ more) = fedLength lines + fedLength more := by
  simp [fedLength]

theorem joinLines_append {lines more : List Text} (hlines : lines ≠ []) (hmore : more ≠ []) :
    joinLines (lines ++ more) = joinLines lines ++ '\n' :: joinLines more := by
  induction lines with
  | nil => exact absurd rfl hlines
  | cons line later ih =>
    cases later with
    | nil =>
      cases more with
      | nil => exact absurd rfl hmore
      | cons first rest => rfl
    | cons next later =>
      have htail := ih (by simp)
      simp only [List.cons_append] at htail
      simp only [List.cons_append, joinLines, htail, List.append_assoc]

/-- Joined lines lack the last of the line feeds. -/
theorem length_joinLines_add_one {lines : List Text} (hlines : lines ≠ []) :
    (joinLines lines).length + 1 = fedLength lines := by
  induction lines with
  | nil => exact absurd rfl hlines
  | cons line later ih =>
    cases later with
    | nil => simp [joinLines]
    | cons next later =>
      have htail := ih (by simp)
      simp only [joinLines, List.length_append, List.length_cons, fedLength_cons] at htail ⊢
      omega

theorem joinLines_eq_nil_iff {lines : List Text} (hlines : lines ≠ []) :
    joinLines lines = [] ↔ lines = [[]] := by
  constructor
  · intro h
    have hfed := length_joinLines_add_one hlines
    rw [h] at hfed
    cases lines with
    | nil => exact absurd rfl hlines
    | cons line later =>
      cases later with
      | nil =>
        simp only [fedLength_cons, fedLength_nil, List.length_nil] at hfed
        have hline : line = [] := List.eq_nil_of_length_eq_zero (by omega)
        rw [hline]
      | cons next later =>
        simp only [fedLength_cons, List.length_nil] at hfed
        omega
  · rintro rfl
    rfl

/-- Lines may be joined group by group. -/
theorem joinLines_map_joinLines {runs : List (List Text)} (hruns : ∀ run ∈ runs, run ≠ []) :
    joinLines (runs.map joinLines) = joinLines runs.flatten := by
  induction runs with
  | nil => rfl
  | cons run later ih =>
    have hlater := ih fun run hrun => hruns run (List.mem_cons_of_mem _ hrun)
    cases later with
    | nil => simp [joinLines]
    | cons next later =>
      have hrun : run ≠ [] := hruns run List.mem_cons_self
      have hnext : next ≠ [] := hruns next (by simp)
      have hflat : (next :: later).flatten ≠ [] := by simp [hnext]
      rw [List.flatten_cons, joinLines_append hrun hflat, ← hlater]
      rfl

theorem fedLength_le_of_sublist {lines more : List Text} (h : lines.Sublist more) :
    fedLength lines ≤ fedLength more := by
  induction h with
  | slnil => exact Nat.le_refl _
  | cons line _ ih =>
    rw [fedLength_cons]
    omega
  | cons_cons line _ ih =>
    rw [fedLength_cons, fedLength_cons]
    omega

/-- Lines that are left out are missed in the length. -/
theorem eq_of_sublist_of_fedLength_le {lines more : List Text} (h : lines.Sublist more)
    (hle : fedLength more ≤ fedLength lines) : lines = more := by
  induction h with
  | slnil => rfl
  | cons line hsub _ =>
    have hlines := fedLength_le_of_sublist hsub
    rw [fedLength_cons] at hle
    omega
  | cons_cons line _ ih =>
    rw [fedLength_cons, fedLength_cons] at hle
    rw [ih (by omega)]

/-! ## Cutting a text into lines -/

theorem not_mem_of_mem_lines {t line : Text} (hline : line ∈ lines t) : '\n' ∉ line := by
  induction t generalizing line with
  | nil => simp_all [lines]
  | cons c rest ih =>
    simp only [lines] at hline
    split at hline
    · rcases List.mem_cons.mp hline with rfl | hline
      · simp
      · exact ih hline
    next hc =>
      split at hline
      · next hrest => exact absurd hrest (lines_ne_nil rest)
      · next first later hrest =>
        rcases List.mem_cons.mp hline with rfl | hline
        · have hfirst : '\n' ∉ first := ih (by simp [hrest])
          simp only [List.mem_cons, not_or]
          exact ⟨fun h => hc h.symm, hfirst⟩
        · exact ih (by simp [hrest, hline])

/-- Lines without line feeds are told apart by the line feeds between them. -/
theorem count_joinLines_add_one {lines : List Text} (hlines : lines ≠ [])
    (hfree : ∀ line ∈ lines, '\n' ∉ line) :
    (joinLines lines).count '\n' + 1 = lines.length := by
  induction lines with
  | nil => exact absurd rfl hlines
  | cons line later ih =>
    have hline : line.count '\n' = 0 := List.count_eq_zero.mpr (hfree line (by simp))
    cases later with
    | nil => simp [joinLines, hline]
    | cons next later =>
      have htail := ih (by simp) fun line hmem => hfree line (by simp [hmem])
      simp only [joinLines, List.count_append, List.count_cons_self, hline,
        List.length_cons] at htail ⊢
      omega

theorem length_lines (t : Text) : (lines t).length = t.count '\n' + 1 := by
  have h := count_joinLines_add_one (lines_ne_nil t) fun _ => not_mem_of_mem_lines
  rw [joinLines_lines] at h
  exact h.symm

theorem lines_eq_singleton {t : Text} (h : '\n' ∉ t) : lines t = [t] := by
  have hlength := length_lines t
  rw [List.count_eq_zero.mpr h] at hlength
  obtain ⟨line, hline⟩ := List.length_eq_one_iff.mp hlength
  have hjoined := joinLines_lines t
  rw [hline] at hjoined
  rw [hline, ← hjoined]
  rfl

/-! ## Stretches of lines -/

/-- The lines from number `a` up to, but without, number `c`. -/
def stretch (lines : List Text) (a c : Nat) : List Text :=
  (lines.take c).drop a

/-- Where line number `i` begins in the joined text. -/
def lineOffset (lines : List Text) (i : Nat) : Nat :=
  fedLength (lines.take i)

theorem length_stretch {lines : List Text} {a c : Nat} (hc : c ≤ lines.length) :
    (stretch lines a c).length = c - a := by
  simp [stretch, Nat.min_eq_left hc]

theorem stretch_ne_nil {lines : List Text} {a c : Nat} (hac : a < c) (hc : c ≤ lines.length) :
    stretch lines a c ≠ [] := by
  intro h
  have hlength := length_stretch (a := a) hc
  rw [h, List.length_nil] at hlength
  omega

@[simp] theorem stretch_self (lines : List Text) (a : Nat) : stretch lines a a = [] := by
  simp [stretch]

theorem stretch_zero_length (lines : List Text) : stretch lines 0 lines.length = lines := by
  simp [stretch]

theorem stretch_succ_right {lines : List Text} {a i : Nat} (hai : a ≤ i) (hi : i < lines.length) :
    stretch lines a (i + 1) = stretch lines a i ++ [lines[i]] := by
  have hlength : a ≤ (lines.take i).length := by
    rw [List.length_take]
    omega
  simp only [stretch, List.take_add_one, List.getElem?_eq_getElem hi, Option.toList_some]
  exact List.drop_append_of_le_length hlength

theorem stretch_eq_cons {lines : List Text} {a c : Nat} (hac : a < c) (hc : c ≤ lines.length) :
    stretch lines a c = lines[a] :: stretch lines (a + 1) c := by
  have ha : a < (lines.take c).length := by
    rw [List.length_take]
    omega
  rw [stretch, List.drop_eq_getElem_cons ha, List.getElem_take]
  rfl

theorem stretch_append_stretch {lines : List Text} {a b c : Nat} (hab : a ≤ b) (hbc : b ≤ c) :
    stretch lines a b ++ stretch lines b c = stretch lines a c := by
  obtain ⟨m, rfl⟩ := Nat.exists_eq_add_of_le hbc
  obtain ⟨k, rfl⟩ := Nat.exists_eq_add_of_le hab
  have hm : a + (k + m) - (a + k) = m := by omega
  simp only [stretch, List.drop_take, Nat.add_assoc, Nat.add_sub_cancel_left, hm]
  rw [← List.drop_drop, List.take_add]

theorem stretch_length_eq_drop (lines : List Text) (a : Nat) :
    stretch lines a lines.length = lines.drop a := by
  simp [stretch]

theorem mem_of_mem_stretch {lines : List Text} {a c : Nat} {line : Text}
    (h : line ∈ stretch lines a c) : line ∈ lines :=
  List.mem_of_mem_take (List.mem_of_mem_drop h)

theorem lineOffset_add_fedLength {lines : List Text} {a c : Nat} (hac : a ≤ c) :
    lineOffset lines a + fedLength (stretch lines a c) = lineOffset lines c := by
  have h : lines.take a ++ stretch lines a c = lines.take c := by
    have hcut := List.take_append_drop a (lines.take c)
    rwa [List.take_take, Nat.min_eq_left hac] at hcut
  simp only [lineOffset, ← h, fedLength_append]

theorem lineOffset_add_length {lines : List Text} {a c : Nat} (hac : a < c)
    (hc : c ≤ lines.length) :
    lineOffset lines a + (joinLines (stretch lines a c)).length + 1 = lineOffset lines c := by
  rw [Nat.add_assoc, length_joinLines_add_one (stretch_ne_nil hac hc)]
  exact lineOffset_add_fedLength (Nat.le_of_lt hac)

theorem lineOffset_succ {lines : List Text} {i : Nat} (hi : i < lines.length) :
    lineOffset lines (i + 1) = lineOffset lines i + lines[i].length + 1 := by
  simp only [lineOffset, List.take_add_one, List.getElem?_eq_getElem hi, Option.toList_some,
    fedLength_append, fedLength_cons, fedLength_nil]
  omega

theorem lineOffset_mono {lines : List Text} {a c : Nat} (hac : a ≤ c) :
    lineOffset lines a ≤ lineOffset lines c := by
  rw [← lineOffset_add_fedLength hac]
  exact Nat.le_add_right _ _

/-! ## Where a stretch stands in the text -/

theorem exists_joinLines_eq_append {lines : List Text} {c : Nat} (hc : 0 < c)
    (hlines : lines ≠ []) : ∃ after, joinLines lines = joinLines (lines.take c) ++ after := by
  have htake : lines.take c ≠ [] := by simp [hlines, Nat.ne_of_gt hc]
  by_cases hdrop : lines.drop c = []
  · refine ⟨[], ?_⟩
    have hall := List.take_append_drop c lines
    rw [hdrop, List.append_nil] at hall
    rw [hall, List.append_nil]
  · refine ⟨'\n' :: joinLines (lines.drop c), ?_⟩
    rw [← joinLines_append htake hdrop, List.take_append_drop]

theorem exists_joinLines_eq_drop {lines : List Text} {a : Nat} (ha : a < lines.length)
    (hfree : ∀ line ∈ lines, '\n' ∉ line) :
    ∃ before, joinLines lines = before ++ joinLines (lines.drop a) ∧ before.count '\n' = a := by
  rcases Nat.eq_zero_or_pos a with rfl | hpos
  · exact ⟨[], rfl, rfl⟩
  · have htake : lines.take a ≠ [] := by
      rw [Ne, List.take_eq_nil_iff]
      rintro (rfl | rfl)
      · omega
      · simp at ha
    have hdrop : lines.drop a ≠ [] := by simpa using ha
    have hcount := count_joinLines_add_one htake fun line hline =>
      hfree line (List.mem_of_mem_take hline)
    rw [List.length_take, Nat.min_eq_left (Nat.le_of_lt ha)] at hcount
    refine ⟨joinLines (lines.take a) ++ ['\n'], ?_, ?_⟩
    · have hall := joinLines_append htake hdrop
      rw [List.take_append_drop] at hall
      rw [hall, List.append_assoc]
      rfl
    · rw [List.count_append, List.count_singleton_self, hcount]

/-- A stretch of the lines of a text stands in the text after as many line feeds as there are lines
before it. -/
theorem exists_split_of_stretch {t : Text} {a c : Nat} (hac : a < c)
    (hc : c ≤ (lines t).length) :
    ∃ before after, t = before ++ joinLines (stretch (lines t) a c) ++ after ∧
      before.count '\n' = a ∧ (joinLines (stretch (lines t) a c)).count '\n' + 1 = c - a := by
  have hne := lines_ne_nil t
  obtain ⟨after, hafter⟩ := exists_joinLines_eq_append (Nat.zero_lt_of_lt hac) hne
  have hlength : ((lines t).take c).length = c := by rw [List.length_take, Nat.min_eq_left hc]
  obtain ⟨before, hbefore, hcount⟩ := @exists_joinLines_eq_drop ((lines t).take c) a
    (by omega) fun line hline => not_mem_of_mem_lines (List.mem_of_mem_take hline)
  refine ⟨before, after, ?_, hcount, ?_⟩
  · rw [stretch, ← hbefore, ← hafter, joinLines_lines]
  · rw [count_joinLines_add_one (stretch_ne_nil hac hc) fun line hline =>
      not_mem_of_mem_lines (mem_of_mem_stretch hline)]
    exact length_stretch hc

end SourceBlocks.Text
