import SourceBlocks.Config.Sections

/-!
# Keys of a configuration table

Where sections are tables, the reading of a configuration table looks at nine keys and at nothing
else.  It makes one setting of each key that is there, and fails with the first of them, in the
order of reading, whose value cannot be converted.
-/

namespace SourceBlocks.Config

/-- The sections in which keys are looked for. -/
def sectionNames : List String := ["chunking", "modules", "extraction", "logging"]

/-- The sections of a configuration table are tables, as far as they are there. -/
def HasTables (table : List (Text × Value)) : Prop :=
  ∀ name ∈ sectionNames, ∀ content, table.lookup name.toList = some content →
    ∃ entries, content = .table entries

/-- The value of a key in a configuration table, if its section is there and has the key. -/
def Key.value? (k : Key) (table : List (Text × Value)) : Option Value :=
  match table.lookup k.sectionName.toList with
  | some (.table entries) => entries.lookup k.name.toList
  | _ => none

/-- The setting that a key makes in a configuration table, converted, if the table has the key and
its value can be converted. -/
def Key.made? (k : Key) (table : List (Text × Value)) : Option Value :=
  (k.value? table).bind fun value => (k.convert value).toOption

/-- The value of a key cannot be converted, for this reason, while those of the keys before it can,
as far as they are there. -/
structure FailsFirst (table : List (Text × Value)) (fault : SectionFault) (before : List Key)
    (k : Key) : Prop where
  passed : ∀ earlier ∈ before, ∀ value, earlier.value? table = some value →
    ∃ converted, earlier.convert value = .ok converted
  failed : ∃ value, k.value? table = some value ∧ k.convert value = .error fault

variable {table other : List (Text × Value)} {k : Key} {ks : List Key} {fault : SectionFault}
  {given : List (Text × Value)}

/-! ## One key -/

theorem sectionName_mem (hk : k ∈ keys) : k.sectionName ∈ sectionNames := by
  have hall : ∀ k ∈ keys, k.sectionName ∈ sectionNames := by decide
  exact hall k hk

/-- A key that is there makes its setting, and a key that is not there makes none. -/
theorem Key.read_eq (htables : HasTables table) (hk : k ∈ keys) :
    k.read table =
      match k.value? table with
      | none => .ok []
      | some value => (k.convert value).map fun converted => [(k.setting.toList, converted)] := by
  have hsection : ∃ entries, (table.lookup k.sectionName.toList).getD (.table []) = .table entries ∧
      k.value? table = entries.lookup k.name.toList := by
    rw [Key.value?]
    cases hlookup : table.lookup k.sectionName.toList with
    | none => exact ⟨[], rfl, rfl⟩
    | some content =>
      obtain ⟨entries, rfl⟩ := htables _ (sectionName_mem hk) content hlookup
      exact ⟨entries, rfl, rfl⟩
  obtain ⟨entries, hcontent, hvalue⟩ := hsection
  rw [Key.read, hcontent, sectionValue?, hvalue]
  cases entries.lookup k.name.toList with
  | none => rfl
  | some value =>
    cases hconvert : k.convert value with
    | error fault => simp [hconvert, bind, Except.bind, Except.map]
    | ok converted => simp [hconvert, bind, Except.bind, Except.map, pure, Except.pure]

theorem Key.read_eq_error_iff (htables : HasTables table) (hk : k ∈ keys) :
    k.read table = .error fault ↔
      ∃ value, k.value? table = some value ∧ k.convert value = .error fault := by
  rw [Key.read_eq htables hk]
  cases k.value? table with
  | none => simp
  | some value => cases hconvert : k.convert value <;> simp [hconvert, Except.map]

theorem Key.exists_read_iff (htables : HasTables table) (hk : k ∈ keys) :
    (∃ own, k.read table = .ok own) ↔
      ∀ value, k.value? table = some value → ∃ converted, k.convert value = .ok converted := by
  rw [Key.read_eq htables hk]
  cases k.value? table with
  | none => simp
  | some value => cases hconvert : k.convert value <;> simp [hconvert, Except.map]

theorem Key.eq_of_read_eq_ok (htables : HasTables table) (hk : k ∈ keys)
    {own : List (Text × Value)} (h : k.read table = .ok own) :
    own = ((k.made? table).map fun converted => (k.setting.toList, converted)).toList := by
  rw [Key.read_eq htables hk] at h
  rw [Key.made?]
  cases hvalue : k.value? table with
  | none =>
    rw [hvalue] at h
    exact (Except.ok.inj h).symm
  | some value =>
    rw [hvalue] at h
    dsimp only at h
    cases hconvert : k.convert value with
    | error fault =>
      rw [hconvert] at h
      cases h
    | ok converted =>
      rw [hconvert] at h
      rw [Option.bind_some, hconvert]
      exact (Except.ok.inj h).symm

/-! ## All keys -/

theorem readKeys_cons (table : List (Text × Value)) (k : Key) (later : List Key) :
    readKeys table (k :: later) =
      (k.read table).bind fun first => (readKeys table later).map fun rest => first ++ rest := by
  rw [readKeys]
  cases k.read table with
  | error fault => rfl
  | ok first => cases readKeys table later <;> rfl

/-- The reading of several keys fails with the first of them that fails. -/
theorem readKeys_eq_error_iff : readKeys table ks = .error fault ↔
    ∃ before k after, ks = before ++ k :: after ∧
      (∀ earlier ∈ before, ∃ own, earlier.read table = .ok own) ∧ k.read table = .error fault := by
  induction ks with
  | nil =>
    constructor
    · intro h
      cases h
    · rintro ⟨before, k, after, hsplit, -⟩
      cases before <;> cases hsplit
  | cons first later ih =>
    rw [readKeys_cons]
    cases hfirst : first.read table with
    | error firstFault =>
      constructor
      · intro h
        obtain rfl := Except.error.inj h
        exact ⟨[], first, later, rfl, fun _ hmem => absurd hmem List.not_mem_nil, hfirst⟩
      · rintro ⟨before, k, after, hsplit, hpassed, hfailed⟩
        cases before with
        | nil =>
          obtain ⟨rfl, -⟩ := List.cons.inj hsplit
          exact hfirst.symm.trans hfailed
        | cons earlier before =>
          obtain ⟨rfl, -⟩ := List.cons.inj hsplit
          obtain ⟨own, hown⟩ := hpassed first List.mem_cons_self
          rw [hfirst] at hown
          cases hown
    | ok own =>
      have hlater : ((readKeys table later).map fun rest => own ++ rest) = .error fault ↔
          readKeys table later = .error fault := by
        cases readKeys table later <;> simp [Except.map]
      rw [Except.bind, hlater, ih]
      constructor
      · rintro ⟨before, k, after, rfl, hpassed, hfailed⟩
        refine ⟨first :: before, k, after, rfl, fun earlier hmem => ?_, hfailed⟩
        rcases List.mem_cons.mp hmem with rfl | hmem
        · exact ⟨own, hfirst⟩
        · exact hpassed earlier hmem
      · rintro ⟨before, k, after, hsplit, hpassed, hfailed⟩
        cases before with
        | nil =>
          obtain ⟨rfl, -⟩ := List.cons.inj hsplit
          rw [hfirst] at hfailed
          cases hfailed
        | cons earlier before =>
          obtain ⟨rfl, rfl⟩ := List.cons.inj hsplit
          exact ⟨before, k, after, rfl, fun e he => hpassed e (List.mem_cons_of_mem _ he), hfailed⟩

/-- The settings that keys make stand in the order of the keys. -/
theorem readKeys_eq_ok (htables : HasTables table) (hks : ∀ k ∈ ks, k ∈ keys)
    (h : readKeys table ks = .ok given) :
    (∀ k ∈ ks, ∃ own, k.read table = .ok own) ∧
      given = ks.filterMap fun k =>
        (k.made? table).map fun converted => (k.setting.toList, converted) := by
  induction ks generalizing given with
  | nil =>
    obtain rfl := Except.ok.inj h
    exact ⟨fun _ hmem => absurd hmem List.not_mem_nil, rfl⟩
  | cons first later ih =>
    rw [readKeys_cons] at h
    cases hfirst : first.read table with
    | error fault =>
      rw [hfirst] at h
      cases h
    | ok own =>
      cases hlater : readKeys table later with
      | error fault =>
        rw [hfirst, hlater] at h
        cases h
      | ok rest =>
        rw [hfirst, hlater] at h
        obtain rfl : own ++ rest = given := Except.ok.inj h
        obtain ⟨hread, hrest⟩ := ih (fun k hk => hks k (List.mem_cons_of_mem _ hk)) hlater
        have hown := Key.eq_of_read_eq_ok htables (hks first List.mem_cons_self) hfirst
        constructor
        · intro k hk
          rcases List.mem_cons.mp hk with rfl | hk
          · exact ⟨own, hfirst⟩
          · exact hread k hk
        · rw [hown, hrest, List.filterMap_cons]
          cases first.made? table <;> rfl

/-- Keys that can all be read make settings. -/
theorem exists_readKeys (h : ∀ k ∈ ks, ∃ own, k.read table = .ok own) :
    ∃ given, readKeys table ks = .ok given := by
  cases hread : readKeys table ks with
  | ok given => exact ⟨given, rfl⟩
  | error fault =>
    obtain ⟨before, k, after, rfl, -, hfailed⟩ := readKeys_eq_error_iff.mp hread
    obtain ⟨own, hown⟩ := h k List.mem_append_cons_self
    rw [hfailed] at hown
    cases hown

/-- The reading of a table fails exactly with the first key whose value cannot be converted. -/
theorem flatten_eq_error_iff (htables : HasTables table) :
    flatten table = .error fault ↔
      ∃ before k after, keys = before ++ k :: after ∧ FailsFirst table fault before k := by
  rw [flatten, readKeys_eq_error_iff]
  refine exists_congr fun before => exists_congr fun k => exists_congr fun after => ?_
  refine and_congr_right fun hsplit => ?_
  have hbefore : ∀ earlier ∈ before, earlier ∈ keys := by
    intro earlier hmem
    rw [hsplit]
    exact List.mem_append_left _ hmem
  have hk : k ∈ keys := by
    rw [hsplit]
    exact List.mem_append_cons_self
  constructor
  · rintro ⟨hpassed, hfailed⟩
    refine ⟨fun earlier hmem => ?_, (Key.read_eq_error_iff htables hk).mp hfailed⟩
    exact (Key.exists_read_iff htables (hbefore earlier hmem)).mp (hpassed earlier hmem)
  · rintro ⟨hpassed, hfailed⟩
    refine ⟨fun earlier hmem => ?_, (Key.read_eq_error_iff htables hk).mpr hfailed⟩
    exact (Key.exists_read_iff htables (hbefore earlier hmem)).mpr (hpassed earlier hmem)

/-- The settings that a table makes when it can be read. -/
def madeSettings (table : List (Text × Value)) : List (Text × Value) :=
  keys.filterMap fun k => (k.made? table).map fun converted => (k.setting.toList, converted)

theorem flatten_eq_ok_iff (htables : HasTables table) :
    flatten table = .ok given ↔ given = madeSettings table ∧
      ∀ k ∈ keys, ∀ value, k.value? table = some value →
        ∃ converted, k.convert value = .ok converted := by
  constructor
  · intro h
    obtain ⟨hread, hgiven⟩ := readKeys_eq_ok htables (fun _ hk => hk) h
    exact ⟨hgiven, fun k hk => (Key.exists_read_iff htables hk).mp (hread k hk)⟩
  · rintro ⟨rfl, hconverted⟩
    obtain ⟨given, hgiven⟩ : ∃ given, readKeys table keys = .ok given :=
      exists_readKeys fun k hk => (Key.exists_read_iff htables hk).mpr (hconverted k hk)
    rw [flatten, hgiven, (readKeys_eq_ok htables (fun _ hk => hk) hgiven).2]
    rfl

/-- The reading of a table fails exactly when a key is there whose value cannot be converted. -/
theorem exists_flatten_eq_error_iff (htables : HasTables table) :
    (∃ fault, flatten table = .error fault) ↔
      ∃ k ∈ keys, ∃ value fault, k.value? table = some value ∧ k.convert value = .error fault := by
  constructor
  · rintro ⟨fault, hfault⟩
    obtain ⟨before, k, after, hsplit, hfails⟩ := (flatten_eq_error_iff htables).mp hfault
    obtain ⟨value, hvalue, hconvert⟩ := hfails.failed
    refine ⟨k, ?_, value, fault, hvalue, hconvert⟩
    rw [hsplit]
    exact List.mem_append_cons_self
  · rintro ⟨k, hk, value, fault, hvalue, hconvert⟩
    cases hread : flatten table with
    | error fault => exact ⟨fault, rfl⟩
    | ok given =>
      obtain ⟨converted, hconverted⟩ := ((flatten_eq_ok_iff htables).mp hread).2 k hk value hvalue
      rw [hconvert] at hconverted
      cases hconverted

/-- Nothing but the nine keys is looked at. -/
theorem flatten_congr (htables : HasTables table) (hother : HasTables other)
    (h : ∀ k ∈ keys, k.value? other = k.value? table) : flatten other = flatten table := by
  have hread : ∀ k ∈ keys, k.read other = k.read table := by
    intro k hk
    rw [Key.read_eq hother hk, Key.read_eq htables hk, h k hk]
  have hall : ∀ ks : List Key, (∀ k ∈ ks, k ∈ keys) → readKeys other ks = readKeys table ks := by
    intro ks hks
    induction ks with
    | nil => rfl
    | cons first later ih =>
      rw [readKeys_cons, readKeys_cons, hread first (hks first List.mem_cons_self),
        ih fun k hk => hks k (List.mem_cons_of_mem _ hk)]
  exact hall keys fun _ hk => hk

end SourceBlocks.Config
