import SourceBlocks.Config.Settings
import SourceBlocks.Proofs.Binary64

/-!
# Accepted limits are usable

Limits are made of four numbers, in whatever spelling these are given, and only of numbers with
which a text can be cut.  A factor that is not a number is let through: the factor is refused for
being less than one, and not-a-number is less than nothing.
-/

namespace SourceBlocks

open Config (Value Fault Invalid)

/-! ## Reading the fields of a record -/

namespace Config

variable {α : Type} {fields : List (Text × Value)} {field : String}
  {convert : Value → Except Fault α} {value : Value} {a b : α}

/-- A record holds a value in a field that converts to `a`. -/
def Holds (fields : List (Text × Value)) (field : String) (convert : Value → Except Fault α)
    (a : α) : Prop :=
  ∃ value, fields.lookup field.toList = some value ∧ convert value = .ok a

theorem Holds.unique (ha : Holds fields field convert a) (hb : Holds fields field convert b) :
    a = b := by
  obtain ⟨value, hvalue, hconvert⟩ := ha
  obtain ⟨other, hother, hconvert'⟩ := hb
  obtain rfl : value = other := Option.some.inj (hvalue.symm.trans hother)
  exact Except.ok.inj (hconvert.symm.trans hconvert')

theorem required_eq_ok_iff :
    required fields field convert = .ok a ↔ Holds fields field convert a := by
  rw [required]
  constructor
  · intro h
    split at h
    next => cases h
    next value hvalue =>
      split at h
      next b hconvert =>
        obtain rfl := Except.ok.inj h
        exact ⟨value, hvalue, hconvert⟩
      next => cases h
  · rintro ⟨value, hvalue, hconvert⟩
    simp only [hvalue, hconvert]

theorem exists_of_invalids_eq_nil {result : Except Invalid α} (h : invalids result = []) :
    ∃ a, result = .ok a := by
  cases result with
  | error report => exact absurd h (List.cons_ne_nil _ _)
  | ok a => exact ⟨a, rfl⟩

theorem Value.toPositive_eq_ok_iff {p : { n : Nat // 0 < n }} :
    value.toPositive = .ok p ↔ value.toInteger = .ok (p.val : Int) := by
  rw [Value.toPositive]
  constructor
  · intro h
    split at h
    next => cases h
    next n hn =>
      split at h
      next hpos =>
        obtain rfl := Except.ok.inj h
        rw [hn, Int.toNat_of_nonneg (Int.le_of_lt hpos)]
      next => cases h
  · intro h
    have hpos : (0 : Int) < p.val := Int.natCast_pos.mpr p.property
    simp only [h, dif_pos hpos, Int.toNat_natCast]

theorem holds_toPositive_iff {p : { n : Nat // 0 < n }} :
    Holds fields field Value.toPositive p ↔ Holds fields field Value.toInteger (p.val : Int) := by
  simp only [Holds, Value.toPositive_eq_ok_iff]

end Config

/-! ## Numbers for limits -/

namespace Limits

/-- Four numbers that are offered as limits. -/
structure Numbers where
  maxChars : Int
  minChars : Int
  minRemainder : Int
  tolerance : Binary64

/-- The whole numbers are sizes that fit one another. -/
structure Numbers.Sized (numbers : Numbers) : Prop where
  one_le_minChars : 1 ≤ numbers.minChars
  minChars_le_maxChars : numbers.minChars ≤ numbers.maxChars
  one_le_minRemainder : 1 ≤ numbers.minRemainder

/-- Numbers with which a text can be cut. -/
structure Numbers.Usable (numbers : Numbers) : Prop extends numbers.Sized where
  one_le_tolerance : numbers.tolerance.AtLeast 1

/-- The numbers that a record of values spells, each in one of its spellings. -/
structure Numbers.ReadFrom (fields : List (Text × Value)) (numbers : Numbers) : Prop where
  maxChars : Config.Holds fields "max_block_chars" Value.toInteger numbers.maxChars
  minChars : Config.Holds fields "min_block_chars" Value.toInteger numbers.minChars
  minRemainder :
    Config.Holds fields "min_chunk_remainder_chars" Value.toInteger numbers.minRemainder
  tolerance : Config.Holds fields "max_chars_tolerance_factor" Value.toReal numbers.tolerance

/-- The numbers that limits hold. -/
def numbers (limits : Limits) : Numbers :=
  ⟨limits.maxChars, limits.minChars, limits.minRemainder, limits.tolerance⟩

variable {limits other : Limits} {numbers : Numbers} {fields : List (Text × Value)}
  {maxChars minChars minRemainder : { n : Nat // 0 < n }} {tolerance : Binary64}

theorem Numbers.ReadFrom.unique {other : Numbers} (h : numbers.ReadFrom fields)
    (hother : other.ReadFrom fields) : numbers = other := by
  obtain ⟨a, b, c, t⟩ := numbers
  obtain ⟨a', b', c', t'⟩ := other
  rw [Numbers.mk.injEq]
  exact ⟨h.maxChars.unique hother.maxChars, h.minChars.unique hother.minChars,
    h.minRemainder.unique hother.minRemainder, h.tolerance.unique hother.tolerance⟩

theorem numbers_sized (limits : Limits) : limits.numbers.Sized := by
  constructor
  · exact Int.ofNat_le.mpr limits.minChars_pos
  · exact Int.ofNat_le.mpr limits.minChars_le_maxChars
  · exact Int.ofNat_le.mpr limits.minRemainder_pos

/-- Of numbers that a size check lets through there are limits. -/
theorem exists_of_sized (hsized : numbers.Sized) (ht : numbers.tolerance.ltNat 1 = false) :
    ∃ limits : Limits, limits.numbers = numbers := by
  obtain ⟨hmin, hle, hremainder⟩ := hsized
  refine ⟨⟨numbers.maxChars.toNat, numbers.minChars.toNat, numbers.minRemainder.toNat,
    numbers.tolerance, ?_, Int.toNat_le_toNat hle, ?_, ht⟩, ?_⟩
  · omega
  · omega
  · rw [Limits.numbers, Int.toNat_of_nonneg (by omega), Int.toNat_of_nonneg (by omega),
      Int.toNat_of_nonneg (by omega)]

theorem check_eq_ok_iff :
    check maxChars minChars minRemainder tolerance = .ok limits ↔
      limits.numbers = ⟨maxChars.val, minChars.val, minRemainder.val, tolerance⟩ := by
  rw [check]
  constructor
  · intro h
    split at h
    next => cases h
    next =>
      split at h
      next => cases h
      next =>
        obtain rfl := Except.ok.inj h
        rfl
  · intro h
    obtain ⟨m, n, r, t, hn, hnm, hr, ht⟩ := limits
    rw [Limits.numbers, Numbers.mk.injEq] at h
    obtain ⟨hmax, hmin, hrem, rfl⟩ := h
    obtain rfl := Int.ofNat.inj hmax
    obtain rfl := Int.ofNat.inj hmin
    obtain rfl := Int.ofNat.inj hrem
    rw [dif_neg (by rw [ht]; exact Bool.false_ne_true), dif_neg (Nat.not_lt_of_le hnm)]

/-- Limits are given out for exactly the records that spell their numbers. -/
theorem ofFields_eq_ok_iff : ofFields fields = .ok limits ↔ limits.numbers.ReadFrom fields := by
  rw [ofFields]
  constructor
  · intro h
    split at h
    next maxChars minChars minRemainder tolerance hmax hmin hrem ht =>
      rw [Config.required_eq_ok_iff] at hmax hmin hrem ht
      rw [Config.holds_toPositive_iff] at hmax hmin hrem
      cases hcheck : check maxChars minChars minRemainder tolerance with
      | error fault =>
        rw [hcheck] at h
        cases h
      | ok checked =>
        rw [hcheck] at h
        obtain rfl : checked = limits := Except.ok.inj h
        rw [check_eq_ok_iff.mp hcheck]
        exact ⟨hmax, hmin, hrem, ht⟩
    next => cases h
  · intro h
    let maxChars : { n : Nat // 0 < n } := ⟨limits.maxChars, limits.maxChars_pos⟩
    let minChars : { n : Nat // 0 < n } := ⟨limits.minChars, limits.minChars_pos⟩
    let minRemainder : { n : Nat // 0 < n } := ⟨limits.minRemainder, limits.minRemainder_pos⟩
    have hmax : Config.required fields "max_block_chars" Value.toPositive = .ok maxChars :=
      Config.required_eq_ok_iff.mpr (Config.holds_toPositive_iff.mpr h.maxChars)
    have hmin : Config.required fields "min_block_chars" Value.toPositive = .ok minChars :=
      Config.required_eq_ok_iff.mpr (Config.holds_toPositive_iff.mpr h.minChars)
    have hrem : Config.required fields "min_chunk_remainder_chars" Value.toPositive =
        .ok minRemainder :=
      Config.required_eq_ok_iff.mpr (Config.holds_toPositive_iff.mpr h.minRemainder)
    have ht : Config.required fields "max_chars_tolerance_factor" Value.toReal =
        .ok limits.tolerance :=
      Config.required_eq_ok_iff.mpr h.tolerance
    have hcheck : check maxChars minChars minRemainder limits.tolerance = .ok limits :=
      check_eq_ok_iff.mpr rfl
    simp only [hmax, hmin, hrem, ht, hcheck]
    rfl

/-- A refusal names at least one fault. -/
theorem ne_nil_of_ofFields_eq_error {faults : List Invalid}
    (h : ofFields fields = .error faults) : faults ≠ [] := by
  rw [ofFields] at h
  rintro rfl
  split at h
  next maxChars minChars minRemainder tolerance _ _ _ _ =>
    cases hcheck : check maxChars minChars minRemainder tolerance with
    | error fault =>
      rw [hcheck] at h
      cases h
    | ok limits =>
      rw [hcheck] at h
      cases h
  next hnone =>
    have hempty := Except.error.inj h
    rw [List.append_eq_nil_iff, List.append_eq_nil_iff, List.append_eq_nil_iff] at hempty
    obtain ⟨⟨⟨hmax, hmin⟩, hrem⟩, ht⟩ := hempty
    obtain ⟨maxChars, hmax⟩ := Config.exists_of_invalids_eq_nil hmax
    obtain ⟨minChars, hmin⟩ := Config.exists_of_invalids_eq_nil hmin
    obtain ⟨minRemainder, hrem⟩ := Config.exists_of_invalids_eq_nil hrem
    obtain ⟨tolerance, ht⟩ := Config.exists_of_invalids_eq_nil ht
    exact hnone _ _ _ _ hmax hmin hrem ht

/-- What becomes of numbers that are offered as limits.  Usable numbers are accepted, and accepted
numbers are kept as they are; numbers that are not usable are refused with a report.  Of a factor
that is not a number nothing is said. -/
structure Numbers.Screened (numbers : Numbers) (outcome : Except (List Invalid) Limits) : Prop where
  accepted : numbers.Usable → ∃ limits, outcome = .ok limits
  usable : ∀ limits, outcome = .ok limits → limits.numbers = numbers ∧ numbers.Sized ∧
    (numbers.tolerance ≠ .nan → numbers.Usable)
  refused : ¬ numbers.Sized ∨ (numbers.tolerance ≠ .nan ∧ ¬ numbers.tolerance.AtLeast 1) →
    ∃ faults, outcome = .error faults ∧ faults ≠ []

theorem ofFields_screens (h : numbers.ReadFrom fields) : numbers.Screened (ofFields fields) := by
  have husable : ∀ limits, ofFields fields = .ok limits → limits.numbers = numbers ∧
      numbers.Sized ∧ (numbers.tolerance ≠ .nan → numbers.Usable) := by
    intro limits hlimits
    obtain rfl : limits.numbers = numbers := (ofFields_eq_ok_iff.mp hlimits).unique h
    refine ⟨rfl, limits.numbers_sized, fun ht => ⟨limits.numbers_sized, ?_⟩⟩
    exact Binary64.atLeast_of_ltNat_eq_false ht limits.tolerance_not_lt_one
  constructor
  · intro hnumbers
    obtain ⟨limits, rfl⟩ :=
      exists_of_sized hnumbers.toSized hnumbers.one_le_tolerance.ltNat_eq_false
    exact ⟨limits, ofFields_eq_ok_iff.mpr h⟩
  · exact husable
  · intro hbad
    cases houtcome : ofFields fields with
    | error faults => exact ⟨faults, rfl, ne_nil_of_ofFields_eq_error houtcome⟩
    | ok limits =>
      obtain ⟨-, hsized, hleast⟩ := husable limits houtcome
      rcases hbad with hsize | ⟨hnumber, hbelow⟩
      · exact absurd hsized hsize
      · exact absurd (hleast hnumber).one_le_tolerance hbelow

end Limits

/-! ## Limits from settings -/

namespace Settings

/-- The numbers among the settings that limits are made of. -/
def numbers (settings : Settings) : Limits.Numbers :=
  ⟨settings.maxBlockChars, settings.minBlockChars, settings.minChunkRemainderChars,
    settings.toleranceFactor⟩

/-- Each setting is the converted value of its source, or its default. -/
structure ReadFrom (sources : Sources) (settings : Settings) : Prop where
  maxBlockChars : sources.read "max_block_chars" Value.toInteger defaults.maxBlockChars =
    .ok settings.maxBlockChars
  minBlockChars : sources.read "min_block_chars" Value.toInteger defaults.minBlockChars =
    .ok settings.minBlockChars
  minChunkRemainderChars : sources.read "min_chunk_remainder_chars" Value.toInteger
    defaults.minChunkRemainderChars = .ok settings.minChunkRemainderChars
  toleranceFactor : sources.read "max_chars_tolerance_factor" Value.toReal
    defaults.toleranceFactor = .ok settings.toleranceFactor
  moduleRootPrefix : sources.read "module_root_prefix" Value.toText defaults.moduleRootPrefix =
    .ok settings.moduleRootPrefix
  extractionConcurrency : sources.read "extraction_concurrency" Value.toInteger
    defaults.extractionConcurrency = .ok settings.extractionConcurrency
  embeddingCodeChars : sources.read "embedding_code_prefix_chars" Value.toInteger
    defaults.embeddingCodeChars = .ok settings.embeddingCodeChars
  logLevel : sources.read "log_level" Value.toText defaults.logLevel = .ok settings.logLevel
  logFile : sources.read "log_file" Value.toOptionalText defaults.logFile = .ok settings.logFile

variable {sources : Sources} {settings : Settings}

theorem readFrom_of_ofSources (h : ofSources sources = .ok settings) :
    settings.ReadFrom sources := by
  rw [ofSources] at h
  split at h
  next hmax hmin hrem ht hroot hconcurrency hembedding hlevel hfile =>
    obtain rfl := Except.ok.inj h
    exact ⟨hmax, hmin, hrem, ht, hroot, hconcurrency, hembedding, hlevel, hfile⟩
  next => cases h

theorem limits_screens (settings : Settings) : settings.numbers.Screened settings.limits := by
  apply Limits.ofFields_screens
  exact ⟨⟨_, rfl, rfl⟩, ⟨_, rfl, rfl⟩, ⟨_, rfl, rfl⟩, ⟨_, rfl, rfl⟩⟩

end Settings

/-- Limits hold the numbers that their record spells, and records and settings give limits for
usable numbers only, unless the factor is not a number. -/
theorem limits_usable (fields : List (Text × Value)) (sources : Settings.Sources) :
    (∀ limits, Limits.ofFields fields = .ok limits → limits.numbers.ReadFrom fields) ∧
      (∀ numbers : Limits.Numbers, numbers.ReadFrom fields →
        numbers.Screened (Limits.ofFields fields)) ∧
      ∀ settings, Settings.ofSources sources = .ok settings →
        settings.ReadFrom sources ∧ settings.numbers.Screened settings.limits := by
  refine ⟨fun limits => Limits.ofFields_eq_ok_iff.mp, fun numbers => Limits.ofFields_screens, ?_⟩
  intro settings hsettings
  exact ⟨Settings.readFrom_of_ofSources hsettings, settings.limits_screens⟩

/-- Limits in four kinds of spelling: a numeral with a sign, spaces, an underscore and a fraction
of zeros, a truth value, a whole double, and a text for the factor. -/
def spelledFields (tolerance : Text) : List (Text × Value) :=
  [("max_block_chars".toList, .text " +1_0.00 ".toList), ("min_block_chars".toList, .flag true),
   ("min_chunk_remainder_chars".toList, .real (.finite false 5629499534213120 (-50))),
   ("max_chars_tolerance_factor".toList, .text tolerance)]

theorem spelled_read (tolerance : Text) (factor : Binary64)
    (h : Numeral.fieldReal? tolerance = some factor) :
    Limits.Numbers.ReadFrom (spelledFields tolerance) ⟨10, 1, 5, factor⟩ := by
  refine ⟨⟨_, rfl, rfl⟩, ⟨_, rfl, rfl⟩, ⟨_, rfl, rfl⟩, ⟨_, rfl, ?_⟩⟩
  rw [Value.toReal, h]

/-- The smallest size alone comes from the environment, and is above the largest. -/
def minimumFromEnvironment : Settings.Sources :=
  ⟨[], [("semseg_Min_Block_Chars".toList, " 2_000".toList)], "SEMSEG_".toList⟩

theorem limits_usable_spelled :
    (∃ limits, Limits.ofFields (spelledFields "Infinity".toList) = .ok limits) ∧
      (∃ faults, Limits.ofFields (spelledFields "0.9999999999999999".toList) = .error faults ∧
        faults ≠ []) ∧
      Settings.ofSources minimumFromEnvironment =
        .ok { Settings.defaults with minBlockChars := 2000 } ∧
      ∃ faults, Settings.limits { Settings.defaults with minBlockChars := 2000 } =
        .error faults ∧ faults ≠ [] := by
  have hsettings : Settings.ofSources minimumFromEnvironment =
      .ok { Settings.defaults with minBlockChars := 2000 } := rfl
  have hinfinite := spelled_read "Infinity".toList (.infinite false) rfl
  have hbelow :=
    spelled_read "0.9999999999999999".toList (.finite false 9007199254740991 (-53)) rfl
  refine ⟨?_, ?_, hsettings, ?_⟩
  · apply ((limits_usable _ minimumFromEnvironment).2.1 _ hinfinite).accepted
    exact ⟨⟨by decide, by decide, by decide⟩, rfl⟩
  · apply ((limits_usable _ minimumFromEnvironment).2.1 _ hbelow).refused
    exact Or.inr ⟨by decide, fun hleast => absurd hleast.ltNat_eq_false (by decide)⟩
  · apply ((limits_usable [] minimumFromEnvironment).2.2 _ hsettings).2.refused
    exact Or.inl fun hsized => absurd hsized.minChars_le_maxChars (by decide)

/-- A factor that is not a number is let through. -/
theorem nan_factor_accepted :
    ∃ limits, Limits.ofFields (spelledFields "nan".toList) = .ok limits ∧
      ¬ limits.numbers.Usable := by
  refine ⟨⟨10, 1, 5, .nan, by decide, by decide, by decide, rfl⟩, ?_, ?_⟩
  · exact Limits.ofFields_eq_ok_iff.mpr (spelled_read "nan".toList .nan rfl)
  · intro h
    exact h.one_le_tolerance

end SourceBlocks
