import SourceBlocks.Proofs.Utf8
import SourceBlocks.Text.Case

/-!
# Lower case

A text in lower case stays as it is when lower case is taken again.  It comes down to the table of
runs: no run maps to a code point that a run maps away.  Dots and slashes are kept, and no other
character turns into one.
-/

namespace SourceBlocks.Text

/-! ## Runs of the table -/

/-- A code point is one of those that a run maps. -/
def CaseRun.Holds (run : CaseRun) (n : Nat) : Prop :=
  run.first ≤ n ∧ n ≤ run.last ∧ (n - run.first) % run.step = 0

instance (run : CaseRun) (n : Nat) : Decidable (run.Holds n) :=
  inferInstanceAs (Decidable (_ ∧ _))

/-- The code points that a run maps to, as a run.  A single one counts as every second one. -/
def CaseRun.image (run : CaseRun) : CaseRun :=
  { first := (run.first + run.shift).toNat
    last := (run.last + run.shift).toNat
    step := if run.first = run.last then 2 else run.step
    shift := 0 }

/-- Whether two runs are seen to hold no code point in common: one ends before the other begins, or
both take every second one and fall between each other. -/
def CaseRun.isApart (run other : CaseRun) : Bool :=
  other.last.blt run.first || run.last.blt other.first ||
    run.step.beq 2 && other.step.beq 2 && ((run.first + other.first) % 2).beq 1

variable {run other : CaseRun} {runs : List CaseRun} {n m : Nat} {c d : Char} {t : Text}

theorem CaseRun.not_holds_of_isApart (h : run.isApart other = true) (hn : run.Holds n) :
    ¬ other.Holds n := by
  rintro ⟨hfirst, hlast, hstep⟩
  obtain ⟨hfirst', hlast', hstep'⟩ := hn
  simp only [isApart, Bool.or_eq_true, Bool.and_eq_true, Nat.blt_eq, Nat.beq_eq] at h
  rcases h with (hbefore | hafter) | ⟨⟨htwo, htwo'⟩, hbetween⟩
  · omega
  · omega
  · rw [htwo] at hstep'
    rw [htwo'] at hstep
    omega

theorem CaseRun.image_holds (h : run.Holds n) (hpos : 0 < run.image.first) :
    run.image.Holds (n + run.shift).toNat := by
  obtain ⟨hfirst, hlast, hstep⟩ := h
  simp only [image] at hpos
  have hfirst' : (run.first + run.shift).toNat ≤ (n + run.shift).toNat := by omega
  have hlast' : (n + run.shift).toNat ≤ (run.last + run.shift).toNat := by omega
  have hoffset : (n + run.shift).toNat - (run.first + run.shift).toNat = n - run.first := by omega
  refine ⟨hfirst', hlast', ?_⟩
  simp only [image, hoffset]
  split
  · omega
  · exact hstep

theorem exists_run_of_shiftBy? (h : shiftBy? runs n = some m) :
    ∃ run ∈ runs, run.Holds n ∧ m = (n + run.shift).toNat := by
  obtain ⟨run, hfind, rfl⟩ := Option.map_eq_some_iff.mp h
  have hholds := List.find?_some hfind
  exact ⟨run, List.mem_of_find?_eq_some hfind, of_decide_eq_true hholds, rfl⟩

theorem shiftBy?_eq_none (h : ∀ run ∈ runs, ¬ run.Holds n) : shiftBy? runs n = none := by
  rw [shiftBy?, Option.map_eq_none_iff, List.find?_eq_none]
  intro run hrun hholds
  exact h run hrun (of_decide_eq_true hholds)

theorem isApart_lowerRuns : ∀ run ∈ lowerRuns, ∀ other ∈ lowerRuns,
    run.image.isApart other = true := by
  have hall : (lowerRuns.map CaseRun.image).all
      (fun image => lowerRuns.all image.isApart) = true := by decide +kernel
  intro run hrun other hother
  exact List.all_eq_true.mp (List.all_eq_true.mp hall _ (List.mem_map_of_mem hrun)) other hother

/-- Lower case maps to nothing below the letters of ASCII, and to nothing that has an expansion. -/
theorem image_lowerRuns : ∀ run ∈ lowerRuns, 0x60 < run.image.first ∧
    ∀ entry ∈ lowerExpansions, run.image.last < entry.1 ∨ entry.1 < run.image.first := by
  decide +kernel

/-! ## Characters that stay -/

/-- Lower case leaves a character as it is, wherever it stands. -/
structure IsSettled (c : Char) : Prop where
  ne_sigma : c ≠ 'Σ'
  lowerChar_eq : lowerChar c = [c]

/-- What lower case makes of a character out of context. -/
inductive LowersTo (c : Char) : Text → Prop where
  | ascii (hc : c.toNat < 128) : LowersTo c [c.toLower]
  | expansion {image : List Nat} (hc : 128 ≤ c.toNat) (hentry : (c.toNat, image) ∈ lowerExpansions) :
      LowersTo c (image.map Char.ofNat)
  | shifted {run : CaseRun} {m : Nat} (hc : 128 ≤ c.toNat) (hrun : run ∈ lowerRuns)
      (hm : run.image.Holds m) : LowersTo c [Char.ofNat m]
  | same (hc : 128 ≤ c.toNat) (hsame : lowerChar c = [c]) : LowersTo c [c]

theorem lowersTo_lowerChar (c : Char) : LowersTo c (lowerChar c) := by
  by_cases hascii : c.toNat < 128
  · rw [lowerChar, if_pos hascii]
    exact .ascii hascii
  · have hc : 128 ≤ c.toNat := Nat.le_of_not_lt hascii
    have hmap : lowerChar c = mapCase lowerExpansions lowerRuns c := by
      rw [lowerChar, if_neg hascii]
    cases hlookup : lowerExpansions.lookup c.toNat with
    | some image =>
      obtain ⟨before, after, hentries, -⟩ := List.lookup_eq_some_iff.mp hlookup
      rw [hmap, mapCase, hlookup]
      exact .expansion hc (hentries ▸ List.mem_append_right _ List.mem_cons_self)
    | none =>
      cases hshift : shiftBy? lowerRuns c.toNat with
      | some m =>
        obtain ⟨run, hrun, hholds, rfl⟩ := exists_run_of_shiftBy? hshift
        have hpos : 0 < run.image.first := Nat.zero_lt_of_lt (image_lowerRuns run hrun).1
        rw [hmap, mapCase, hlookup, hshift]
        exact .shifted hc hrun (CaseRun.image_holds hholds hpos)
      | none =>
        have hsame : lowerChar c = [c] := by
          rw [hmap, mapCase, hlookup, hshift]
          rfl
        rw [hsame]
        exact .same hc hsame

theorem toLower_ascii : ∀ n < 128, (Char.ofNat n).toLower.toNat < 128 ∧
    (Char.ofNat n).toLower.toLower = (Char.ofNat n).toLower := by
  decide

theorem exists_run_of_capital : ∀ n < 128,
    (Char.ofNat n).toLower = Char.ofNat n ∨ ∃ run ∈ lowerRuns, run.Holds n := by
  decide

theorem exists_run_of_sigma : ∃ run ∈ lowerRuns, run.Holds 'Σ'.toNat := by
  decide

theorem isSettled_of_ascii (hd : d.toNat < 128) (hlower : d.toLower = d) : IsSettled d := by
  refine ⟨?_, ?_⟩
  · rintro rfl
    exact absurd hd (by decide)
  · rw [lowerChar, if_pos hd, hlower]

theorem lowerChar_eq_of_unmapped (hfree : ∀ run ∈ lowerRuns, ¬ run.Holds c.toNat)
    (hexpansion : ∀ entry ∈ lowerExpansions, c.toNat ≠ entry.1) : lowerChar c = [c] := by
  by_cases hascii : c.toNat < 128
  · rw [lowerChar, if_pos hascii]
    rcases exists_run_of_capital c.toNat hascii with hlower | ⟨run, hrun, hholds⟩
    · rw [Char.ofNat_toNat] at hlower
      rw [hlower]
    · exact absurd hholds (hfree run hrun)
  · have hlookup : lowerExpansions.lookup c.toNat = none :=
      List.lookup_eq_none_iff.mpr fun entry hentry => bne_iff_ne.mpr (hexpansion entry hentry)
    rw [lowerChar, if_neg hascii, mapCase, hlookup, shiftBy?_eq_none hfree]
    rfl

/-- No run maps past the last code point, but the table need not be searched for that. -/
theorem ofNat_eq_null (h : ¬ m.isValidChar) : Char.ofNat m = '\x00' := by
  rw [Char.ofNat, dif_neg h]
  rfl

/-- What a run maps to stays. -/
theorem isSettled_of_image (hrun : run ∈ lowerRuns) (hm : run.image.Holds m) :
    IsSettled (Char.ofNat m) := by
  have hfree : ∀ other ∈ lowerRuns, ¬ other.Holds m := fun other hother =>
    CaseRun.not_holds_of_isApart (isApart_lowerRuns run hrun other hother) hm
  have hexpansion : ∀ entry ∈ lowerExpansions, m ≠ entry.1 := by
    intro entry hentry
    obtain ⟨hfirst, hlast, -⟩ := hm
    have hapart := (image_lowerRuns run hrun).2 entry hentry
    omega
  by_cases hvalid : m.isValidChar
  · have hvalue : (Char.ofNat m).toNat = m := Utf8.toNat_ofNat hvalid
    rw [← hvalue] at hfree hexpansion
    refine ⟨?_, lowerChar_eq_of_unmapped hfree hexpansion⟩
    intro hsigma
    obtain ⟨other, hother, hholds⟩ := exists_run_of_sigma
    rw [← hsigma] at hholds
    exact hfree other hother hholds
  · rw [ofNat_eq_null hvalid]
    exact isSettled_of_ascii (by decide) (by decide)

theorem isSettled_expansions : ∀ entry ∈ lowerExpansions, entry.2 ≠ [] ∧ ∀ n ∈ entry.2,
    Char.ofNat n ≠ 'Σ' ∧ lowerChar (Char.ofNat n) = [Char.ofNat n] ∧
      Char.ofNat n ≠ '.' ∧ Char.ofNat n ≠ '/' := by
  decide

theorem LowersTo.isSettled {image : Text} (h : LowersTo c image) (hc : c ≠ 'Σ') (hd : d ∈ image) :
    IsSettled d := by
  cases h with
  | ascii hascii =>
    obtain rfl := List.mem_singleton.mp hd
    obtain ⟨hlow, hlower⟩ := toLower_ascii c.toNat hascii
    rw [Char.ofNat_toNat] at hlow hlower
    exact isSettled_of_ascii hlow hlower
  | expansion _ hentry =>
    obtain ⟨n, hn, rfl⟩ := List.mem_map.mp hd
    obtain ⟨hsigma, hlower, -⟩ := (isSettled_expansions _ hentry).2 n hn
    exact ⟨hsigma, hlower⟩
  | shifted _ hrun hm =>
    obtain rfl := List.mem_singleton.mp hd
    exact isSettled_of_image hrun hm
  | same _ hsame =>
    obtain rfl := List.mem_singleton.mp hd
    exact ⟨hc, hsame⟩

/-! ## Whole texts -/

/-- A text in lower case begins with the image of its first character, which for a capital sigma
depends on where it stands. -/
theorem exists_lowerFrom_cons (afterLetter : Bool) (c : Char) (rest : Text) :
    ∃ image later, lowerFrom afterLetter (c :: rest) = image ++ lowerFrom later rest ∧
      (c = 'Σ' ∧ (image = ['ς'] ∨ image = ['σ']) ∨ c ≠ 'Σ' ∧ LowersTo c image) := by
  refine ⟨_, _, rfl, ?_⟩
  by_cases hsigma : c = 'Σ'
  · left
    refine ⟨hsigma, ?_⟩
    rw [if_pos hsigma]
    split
    · exact Or.inl rfl
    · exact Or.inr rfl
  · right
    rw [if_neg hsigma]
    exact ⟨hsigma, lowersTo_lowerChar c⟩

theorem isSettled_of_mem_lowerFrom {afterLetter : Bool} (hd : d ∈ lowerFrom afterLetter t) :
    IsSettled d := by
  induction t generalizing afterLetter with
  | nil => exact absurd hd List.not_mem_nil
  | cons c rest ih =>
    obtain ⟨image, later, hlower, himage⟩ := exists_lowerFrom_cons afterLetter c rest
    rw [hlower] at hd
    rcases List.mem_append.mp hd with hd | hd
    · rcases himage with ⟨-, rfl | rfl⟩ | ⟨hsigma, himage⟩
      · obtain rfl := List.mem_singleton.mp hd
        exact ⟨by decide, by decide⟩
      · obtain rfl := List.mem_singleton.mp hd
        exact ⟨by decide, by decide⟩
      · exact himage.isSettled hsigma hd
    · exact ih hd

theorem lowerFrom_eq_self (afterLetter : Bool) (h : ∀ c ∈ t, IsSettled c) :
    lowerFrom afterLetter t = t := by
  induction t generalizing afterLetter with
  | nil => rfl
  | cons c rest ih =>
    obtain ⟨hsigma, hlower⟩ := h c List.mem_cons_self
    rw [lowerFrom, if_neg hsigma, hlower, ih _ fun d hd => h d (List.mem_cons_of_mem _ hd),
      List.singleton_append]

/-- Lower case taken twice is lower case. -/
theorem lower_lower (t : Text) : lower (lower t) = lower t :=
  lowerFrom_eq_self false fun _ hd => isSettled_of_mem_lowerFrom hd

end SourceBlocks.Text

namespace SourceBlocks.Path

open Text

/-! ## Dots and slashes -/

/-- A character that marks off the parts of a path. -/
def IsMark (c : Char) : Prop :=
  c = '.' ∨ c = '/'

instance (c : Char) : Decidable (IsMark c) :=
  inferInstanceAs (Decidable (_ ∨ _))

/-- One text with its dots and slashes where they are, and with some other characters in the place
of each of its other characters. -/
inductive Respelled : Text → Text → Prop where
  | nil : Respelled [] []
  | mark {c : Char} {t u : Text} (hc : IsMark c) (hrest : Respelled t u) :
      Respelled (c :: t) (c :: u)
  | other {c : Char} {image t u : Text} (hc : ¬ IsMark c) (hne : image ≠ [])
      (hfree : ∀ d ∈ image, ¬ IsMark d) (hrest : Respelled t u) : Respelled (c :: t) (image ++ u)

theorem toLower_not_isMark : ∀ n < 128, ¬ IsMark (Char.ofNat n) →
    ¬ IsMark (Char.ofNat n).toLower := by
  decide

theorem not_isMark_of_lt {c : Char} (h : 0x2F < c.toNat) : ¬ IsMark c := by
  rintro (rfl | rfl)
  · exact absurd h (by decide)
  · exact absurd h (by decide)

variable {c d : Char} {image t u : Text}

theorem eq_of_lowersTo (h : LowersTo c image) (hc : IsMark c) : image = [c] := by
  have hascii : c.toNat < 128 := by
    rcases hc with rfl | rfl
    · decide
    · decide
  cases h with
  | ascii =>
    rcases hc with rfl | rfl
    · rfl
    · rfl
  | expansion hhigh => omega
  | shifted hhigh => omega
  | same hhigh => rfl

theorem not_isMark_of_lowersTo (h : LowersTo c image) (hc : ¬ IsMark c) :
    image ≠ [] ∧ ∀ d ∈ image, ¬ IsMark d := by
  cases h with
  | ascii hascii =>
    refine ⟨List.cons_ne_nil _ _, ?_⟩
    intro d hd
    rw [List.mem_singleton.mp hd]
    have hlower := toLower_not_isMark c.toNat hascii
    rw [Char.ofNat_toNat] at hlower
    exact hlower hc
  | expansion _ hentry =>
    obtain ⟨hne, hsettled⟩ := isSettled_expansions _ hentry
    refine ⟨fun hnil => hne (List.map_eq_nil_iff.mp hnil), ?_⟩
    intro d hd hmark
    obtain ⟨n, hn, rfl⟩ := List.mem_map.mp hd
    obtain ⟨-, -, hdot, hslash⟩ := hsettled n hn
    exact hmark.elim hdot hslash
  | @shifted run m _ hrun hm =>
    refine ⟨List.cons_ne_nil _ _, ?_⟩
    intro d hd
    rw [List.mem_singleton.mp hd]
    by_cases hvalid : m.isValidChar
    · apply not_isMark_of_lt
      rw [Utf8.toNat_ofNat hvalid]
      have hfirst := (image_lowerRuns run hrun).1
      exact Nat.lt_of_lt_of_le (Nat.lt_trans (by decide) hfirst) hm.1
    · rw [ofNat_eq_null hvalid]
      decide
  | same hhigh =>
    refine ⟨List.cons_ne_nil _ _, ?_⟩
    intro d hd
    rwa [List.mem_singleton.mp hd]

/-- Lower case makes no dots or slashes and takes none away. -/
theorem respelled_lowerFrom (afterLetter : Bool) (t : Text) :
    Respelled t (lowerFrom afterLetter t) := by
  induction t generalizing afterLetter with
  | nil => exact .nil
  | cons c rest ih =>
    obtain ⟨image, later, hlower, himage⟩ := exists_lowerFrom_cons afterLetter c rest
    rw [hlower]
    rcases himage with ⟨rfl, rfl | rfl⟩ | ⟨-, himage⟩
    · exact .other (by decide) (by decide) (List.forall_mem_singleton.mpr (by decide)) (ih later)
    · exact .other (by decide) (by decide) (List.forall_mem_singleton.mpr (by decide)) (ih later)
    · by_cases hc : IsMark c
      · rw [eq_of_lowersTo himage hc]
        exact .mark hc (ih later)
      · obtain ⟨hne, hfree⟩ := not_isMark_of_lowersTo himage hc
        exact .other hc hne hfree (ih later)

end SourceBlocks.Path
