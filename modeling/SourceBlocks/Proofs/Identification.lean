import SourceBlocks.Proofs.Fingerprint

/-!
# Fingerprints of several files

For one file a fingerprint tells lines and the beginning of the code.  The name of the file comes
first, and nothing marks where it ends.  So a name that ends in a dash and a number may take in what
stands, after the name of another file, for a line.  The module says exactly when two fingerprints
agree: what they are computed from does, or one of the names goes on as the other identifier does.
-/

namespace SourceBlocks

namespace Text

/-- A text cut at a mark that its front does not hold: the cut is where the front ends, or later. -/
theorem append_cons_eq_iff {stop : Char} {u v x y : Text} (hu : stop ∉ u) :
    u ++ stop :: y = v ++ stop :: x ↔
      (v = u ∧ x = y) ∨ ∃ later, v = u ++ stop :: later ∧ y = later ++ stop :: x := by
  constructor
  · intro h
    rcases List.append_eq_append_iff.mp h with ⟨between, rfl, hrest⟩ | ⟨between, rfl, hrest⟩
    · cases between with
      | nil => exact Or.inl ⟨List.append_nil u, (List.cons.inj hrest).2.symm⟩
      | cons c later =>
        obtain ⟨rfl, htail⟩ := List.cons.inj hrest
        exact Or.inr ⟨later, rfl, htail⟩
    · cases between with
      | nil => exact Or.inl ⟨(List.append_nil v).symm, (List.cons.inj hrest).2⟩
      | cons c later =>
        obtain ⟨rfl, -⟩ := List.cons.inj hrest
        exact absurd List.mem_append_cons_self hu
  · rintro (⟨rfl, rfl⟩ | ⟨later, rfl, rfl⟩)
    · rfl
    · rw [List.append_assoc, List.cons_append]

/-- A line number before a dash, cut at any dash: at the minus sign, where the number ends, or
later. -/
theorem ofInt_append_eq_iff {n : Int} {front x y : Text} :
    ofInt n ++ '-' :: y = front ++ '-' :: x ↔
      (front = [] ∧ n < 0 ∧ x = ofInt (-n) ++ '-' :: y) ∨ (front = ofInt n ∧ x = y) ∨
        ∃ later, front = ofInt n ++ '-' :: later ∧ y = later ++ '-' :: x := by
  cases n with
  | ofNat n =>
    have hsign : ¬ Int.ofNat n < 0 := Int.not_lt.mpr (Int.natCast_nonneg n)
    rw [ofInt, append_cons_eq_iff (dash_not_mem_ofNat n)]
    constructor
    · exact Or.inr
    · exact fun h => h.resolve_left fun hminus => hsign hminus.2.1
  | negSucc n =>
    -- The sign is a dash too.  Behind it stands a number without one.
    have hopposite : ofInt (-Int.negSucc n) = ofNat (n + 1) := rfl
    rw [hopposite, ofInt]
    cases front with
    | nil =>
      constructor
      · intro h
        exact Or.inl ⟨rfl, Int.negSucc_lt_zero n, (List.cons.inj h).2.symm⟩
      · rintro (⟨-, -, rfl⟩ | ⟨hempty, -⟩ | ⟨later, hempty, -⟩)
        · rfl
        · cases hempty
        · cases hempty
    | cons c front =>
      rw [List.cons_append, List.cons_append, List.cons.injEq,
        append_cons_eq_iff (dash_not_mem_ofNat (n + 1))]
      constructor
      · rintro ⟨rfl, ⟨rfl, rfl⟩ | ⟨later, rfl, rfl⟩⟩
        · exact Or.inr (Or.inl ⟨rfl, rfl⟩)
        · exact Or.inr (Or.inr ⟨later, rfl, rfl⟩)
      · rintro (⟨hempty, -⟩ | ⟨hfront, rfl⟩ | ⟨later, hfront, rfl⟩)
        · cases hempty
        · obtain ⟨rfl, rfl⟩ := List.cons.inj hfront
          exact ⟨rfl, Or.inl ⟨rfl, rfl⟩⟩
        · obtain ⟨rfl, rfl⟩ := List.cons.inj hfront
          exact ⟨rfl, Or.inr ⟨later, rfl, rfl⟩⟩

end Text

namespace Fingerprint

open Text

/-- What a fingerprint is computed from. -/
structure Subject where
  file : Text
  startLine : Int
  endLine : Int
  code : Text

namespace Subject

/-- The text that the fingerprint digests. -/
def identifier (s : Subject) : Text :=
  Fingerprint.identifier s.file s.startLine s.endLine s.code

/-- The fingerprint. -/
def fingerprint (s : Subject) : Text :=
  compute s.file s.startLine s.endLine s.code

/-- The beginning of the code, as far as it is covered. -/
def covered (s : Subject) : Text := s.code.take coveredChars

/-- Two subjects are the same file, the same lines and the same beginning of the code. -/
structure Agrees (s t : Subject) : Prop where
  file_eq : s.file = t.file
  startLine_eq : s.startLine = t.startLine
  endLine_eq : s.endLine = t.endLine
  covered_eq : s.covered = t.covered

/-- The name of the second file is that of the first and goes on, after a dash, with a part of what
follows the first name in its identifier.  The rest is read as the lines and the code of the second
subject.  There is a case for each place where the second name may end. -/
inductive TakesIn (s t : Subject) : Prop where
  /-- Before the first line, whose minus sign is read as the dash. -/
  | dash (file_eq : t.file = s.file ++ ['-']) (negative : s.startLine < 0)
      (startLine_eq : t.startLine = -s.startLine) (endLine_eq : t.endLine = s.endLine)
      (covered_eq : t.covered = s.covered)
  /-- After the first line. -/
  | startLine (file_eq : t.file = s.file ++ '-' :: ofInt s.startLine)
      (startLine_eq : t.startLine = s.endLine)
      (covered_eq : s.covered = ofInt t.endLine ++ '-' :: t.covered)
  /-- Before the last line, whose minus sign is read as the dash. -/
  | startLineDash (file_eq : t.file = s.file ++ '-' :: (ofInt s.startLine ++ ['-']))
      (negative : s.endLine < 0) (startLine_eq : t.startLine = -s.endLine)
      (covered_eq : s.covered = ofInt t.endLine ++ '-' :: t.covered)
  /-- After the last line. -/
  | endLine (file_eq : t.file = s.file ++ '-' :: (ofInt s.startLine ++ '-' :: ofInt s.endLine))
      (covered_eq : s.covered =
        ofInt t.startLine ++ '-' :: (ofInt t.endLine ++ '-' :: t.covered))
  /-- Within the code, of which `front` belongs to the name. -/
  | code (front : Text)
      (file_eq : t.file =
        s.file ++ '-' :: (ofInt s.startLine ++ '-' :: (ofInt s.endLine ++ '-' :: front)))
      (covered_eq : s.covered =
        front ++ '-' :: (ofInt t.startLine ++ '-' :: (ofInt t.endLine ++ '-' :: t.covered)))

/-- The identifier after the name of the file and a dash. -/
def rest (s : Subject) : Text :=
  ofInt s.startLine ++ '-' :: (ofInt s.endLine ++ '-' :: s.covered)

variable {s t : Subject}

theorem identifier_eq (s : Subject) : s.identifier = s.file ++ '-' :: s.rest := rfl

theorem takesIn_iff : s.TakesIn t ↔
    ∃ front, t.file = s.file ++ '-' :: front ∧ s.rest = front ++ '-' :: t.rest := by
  constructor
  · intro h
    cases h with
    | dash hfile hnegative hstart hend hcovered =>
      refine ⟨[], hfile, ofInt_append_eq_iff.mpr (Or.inl ⟨rfl, hnegative, ?_⟩)⟩
      rw [rest, hstart, hend, hcovered]
    | startLine hfile hstart hcovered =>
      refine ⟨_, hfile, ofInt_append_eq_iff.mpr (Or.inr (Or.inl ⟨rfl, ?_⟩))⟩
      rw [rest, hstart, hcovered]
    | startLineDash hfile hnegative hstart hcovered =>
      refine ⟨_, hfile, ofInt_append_eq_iff.mpr (Or.inr (Or.inr ⟨[], rfl, ?_⟩))⟩
      refine ofInt_append_eq_iff.mpr (Or.inl ⟨rfl, hnegative, ?_⟩)
      rw [rest, hstart, hcovered]
    | endLine hfile hcovered =>
      refine ⟨_, hfile, ofInt_append_eq_iff.mpr (Or.inr (Or.inr ⟨_, rfl, ?_⟩))⟩
      exact ofInt_append_eq_iff.mpr (Or.inr (Or.inl ⟨rfl, hcovered.symm⟩))
    | code front hfile hcovered =>
      refine ⟨_, hfile, ofInt_append_eq_iff.mpr (Or.inr (Or.inr ⟨_, rfl, ?_⟩))⟩
      exact ofInt_append_eq_iff.mpr (Or.inr (Or.inr ⟨front, rfl, hcovered⟩))
  · rintro ⟨front, hfile, hrest⟩
    -- The second name ends by the first line, or else by the last line or in the code.
    rcases ofInt_append_eq_iff.mp hrest with ⟨rfl, hnegative, hminus⟩ | ⟨rfl, hend⟩ |
      ⟨later, rfl, hlater⟩
    · obtain ⟨hstart, hlines⟩ := ofInt_dash_inj hminus
      obtain ⟨hend, hcovered⟩ := ofInt_dash_inj hlines
      exact .dash hfile hnegative hstart hend hcovered
    · obtain ⟨hstart, hcovered⟩ := ofInt_dash_inj hend
      exact .startLine hfile hstart hcovered.symm
    · rcases ofInt_append_eq_iff.mp hlater with ⟨rfl, hnegative, hminus⟩ | ⟨rfl, hcovered⟩ |
        ⟨inner, rfl, hcovered⟩
      · obtain ⟨hstart, hcovered⟩ := ofInt_dash_inj hminus
        exact .startLineDash hfile hnegative hstart hcovered.symm
      · exact .endLine hfile hcovered.symm
      · exact .code inner hfile hcovered

/-- Two identifiers are equal if what they are made of is, or if one name takes in a part of the
other identifier. -/
theorem identifier_eq_iff :
    s.identifier = t.identifier ↔ s.Agrees t ∨ s.TakesIn t ∨ t.TakesIn s := by
  rw [takesIn_iff, takesIn_iff, identifier_eq, identifier_eq]
  constructor
  · intro h
    have hagrees : s.file = t.file → s.rest = t.rest → s.Agrees t := by
      intro hfile hrest
      obtain ⟨hstart, hlines⟩ := ofInt_dash_inj hrest
      obtain ⟨hend, hcovered⟩ := ofInt_dash_inj hlines
      exact ⟨hfile, hstart, hend, hcovered⟩
    rcases List.append_eq_append_iff.mp h with ⟨between, hfile, hrest⟩ | ⟨between, hfile, hrest⟩
    · cases between with
      | nil =>
        rw [List.append_nil] at hfile
        exact Or.inl (hagrees hfile.symm (List.cons.inj hrest).2)
      | cons c front =>
        obtain ⟨rfl, htail⟩ := List.cons.inj hrest
        exact Or.inr (Or.inl ⟨front, hfile, htail⟩)
    · cases between with
      | nil =>
        rw [List.append_nil] at hfile
        exact Or.inl (hagrees hfile (List.cons.inj hrest).2.symm)
      | cons c front =>
        obtain ⟨rfl, htail⟩ := List.cons.inj hrest
        exact Or.inr (Or.inr ⟨front, hfile, htail⟩)
  · rintro (⟨hfile, hstart, hend, hcovered⟩ | ⟨front, hfile, hrest⟩ | ⟨front, hfile, hrest⟩)
    · rw [rest, rest, hfile, hstart, hend, hcovered]
    · rw [hfile, hrest, List.append_assoc, List.cons_append]
    · rw [hfile, hrest, List.append_assoc, List.cons_append]

theorem TakesIn.isPrefix (h : s.TakesIn t) : s.file ++ ['-'] <+: t.file := by
  obtain ⟨front, hfile, -⟩ := takesIn_iff.mp h
  exact ⟨front, by rw [hfile, List.append_assoc, List.singleton_append]⟩

/-- Fingerprints agree exactly if what they are computed from does or one name takes in a part of
the other identifier, as long as the digest does not collide on the two identifiers.  The latter
does not happen for two files of which neither name begins with the other and a dash. -/
theorem fingerprint_eq_iff (s t : Subject) (hdigest : CollisionFree [s.identifier, t.identifier]) :
    (s.fingerprint = t.fingerprint ↔ s.Agrees t ∨ s.TakesIn t ∨ t.TakesIn s) ∧
      (¬ s.file ++ ['-'] <+: t.file → ¬ t.file ++ ['-'] <+: s.file →
        (s.fingerprint = t.fingerprint ↔ s.Agrees t)) := by
  have hiff : s.fingerprint = t.fingerprint ↔ s.Agrees t ∨ s.TakesIn t ∨ t.TakesIn s := by
    rw [← identifier_eq_iff]
    constructor
    · exact hdigest.eq List.mem_cons_self (List.mem_cons_of_mem _ List.mem_cons_self)
    · exact congrArg fun text => Sha256.hex (Utf8.encode text)
  refine ⟨hiff, fun hst hts => ?_⟩
  rw [hiff]
  constructor
  · rintro (hagrees | htakes | htakes)
    · exact hagrees
    · exact absurd htakes.isPrefix hst
    · exact absurd htakes.isPrefix hts
  · exact Or.inl

/-- The second and third line of a file whose name ends in a number. -/
def numbered : Subject := ⟨"a-1".toList, 2, 3, "x".toList⟩

/-- The first two lines of a file, the code of which begins with a number and a dash. -/
def subtraction : Subject := ⟨"a".toList, 1, 2, "3-x".toList⟩

theorem identifier_subtraction : subtraction.identifier = numbered.identifier := by
  decide

theorem collisionFree_subtraction :
    CollisionFree [subtraction.identifier, numbered.identifier] := by
  rw [identifier_subtraction]
  intro x hx y hy _
  obtain rfl : x = numbered.identifier := by simpa using hx
  obtain rfl : y = numbered.identifier := by simpa using hy
  rfl

theorem fingerprint_eq_iff_subtraction :
    CollisionFree [subtraction.identifier, { subtraction with endLine := 3 }.identifier] ∧
      subtraction.fingerprint ≠ { subtraction with endLine := 3 }.fingerprint ∧
      CollisionFree [subtraction.identifier, numbered.identifier] ∧
      (subtraction.TakesIn numbered ∨ numbered.TakesIn subtraction) := by
  have hlines : CollisionFree
      [subtraction.identifier, { subtraction with endLine := 3 }.identifier] := by
    unfold CollisionFree
    decide +kernel
  refine ⟨hlines, ?_, collisionFree_subtraction, ?_⟩
  · intro heq
    have hagrees := ((fingerprint_eq_iff _ _ hlines).2 (by decide) (by decide)).mp heq
    exact absurd hagrees.endLine_eq (by decide)
  · have heq : subtraction.fingerprint = numbered.fingerprint :=
      congrArg (fun text => Sha256.hex (Utf8.encode text)) identifier_subtraction
    rcases (fingerprint_eq_iff _ _ collisionFree_subtraction).1.mp heq with hagrees | htakes
    · exact absurd hagrees.file_eq (by decide)
    · exact htakes

/-- Different files, on different lines, with different code, may have one fingerprint. -/
theorem numbered_name_mistaken :
    CollisionFree [subtraction.identifier, numbered.identifier] ∧
      ¬ (subtraction.fingerprint = numbered.fingerprint ↔ subtraction.Agrees numbered) := by
  refine ⟨collisionFree_subtraction, fun hiff => ?_⟩
  have heq : subtraction.fingerprint = numbered.fingerprint :=
    congrArg (fun text => Sha256.hex (Utf8.encode text)) identifier_subtraction
  exact absurd (hiff.mp heq).file_eq (by decide)

end Subject

end Fingerprint

end SourceBlocks
