import SourceBlocks.Proofs.Config.Sections
import SourceBlocks.Proofs.FileSystem.Tree
import SourceBlocks.Proofs.Limits

/-!
# Configuration reaches its fields

Each of the nine settings is drawn from its own key of the configuration file, else from its own
variable of the environment, else from its default.  What a load comes to is settled by this alone:
no other key, section or variable has a part in a field, and no further settings are made.
-/

namespace SourceBlocks

open Config (Value Fault Key HasTables madeSettings)

namespace Settings

/-- A setting: the key of the configuration file that makes it, the check of its values, and its
field. -/
structure Declaration where
  Carrier : Type
  key : Key
  check : Value → Except Fault Carrier
  field : Settings → Carrier

/-- The settings of the program, each with its key. -/
def declarations : List Declaration :=
  [⟨Int, ⟨"chunking", "max_block_chars", "max_block_chars", Config.integerValue⟩,
    Value.toInteger, maxBlockChars⟩,
   ⟨Int, ⟨"chunking", "min_block_chars", "min_block_chars", Config.integerValue⟩,
    Value.toInteger, minBlockChars⟩,
   ⟨Int, ⟨"chunking", "min_chunk_remainder_chars", "min_chunk_remainder_chars",
    Config.integerValue⟩, Value.toInteger, minChunkRemainderChars⟩,
   ⟨Binary64, ⟨"chunking", "tolerance_factor", "max_chars_tolerance_factor", Config.realValue⟩,
    Value.toReal, toleranceFactor⟩,
   ⟨Text, ⟨"modules", "root_prefix", "module_root_prefix", .ok⟩, Value.toText,
    moduleRootPrefix⟩,
   ⟨Int, ⟨"extraction", "concurrency", "extraction_concurrency", Config.integerValue⟩,
    Value.toInteger, extractionConcurrency⟩,
   ⟨Int, ⟨"extraction", "embedding_code_prefix_chars", "embedding_code_prefix_chars",
    Config.integerValue⟩, Value.toInteger, embeddingCodeChars⟩,
   ⟨Text, ⟨"logging", "level", "log_level", Config.upperTextValue⟩, Value.toText, logLevel⟩,
   ⟨Option Text, ⟨"logging", "file", "log_file", Config.textValue⟩, Value.toOptionalText,
    logFile⟩]

/-- The value of a setting's variable in an environment: of the variables that have its name, in
whatever case, the last one's. -/
def Declaration.variableValue? (d : Declaration) (start : Text) (environment : List (Text × Text)) :
    Option Text :=
  (environment.filter fun (name, _) =>
    Text.lower name = Text.lower (start ++ d.key.setting.toList)).getLast?.map Prod.snd

/-- A setting gets the value of its key, converted and checked, if the table has the key; else that
of its variable, checked, if it is set; else its default. -/
inductive Declaration.Draws (d : Declaration) (table : List (Text × Value))
    (variableValue : Option Text) (a : d.Carrier) : Prop where
  | ofKey (value converted : Value) (present : d.key.value? table = some value)
      (convert_eq : d.key.convert value = .ok converted) (check_eq : d.check converted = .ok a)
  | ofVariable (text : Text) (absent : d.key.value? table = none)
      (set : variableValue = some text) (check_eq : d.check (.text text) = .ok a)
  | ofDefault (absent : d.key.value? table = none) (unset : variableValue = none)
      (eq : d.field defaults = a)

/-- Settings are drawn from a table and an environment, each from its own key and variable, and
nothing is kept beside them. -/
structure DrawnFrom (start : Text) (environment : List (Text × Text))
    (table : List (Text × Value)) (settings : Settings) : Prop where
  draws : ∀ d ∈ declarations, d.Draws table (d.variableValue? start environment) (d.field settings)
  others_eq : settings.others = []

variable {d : Declaration} {table : List (Text × Value)} {variableValue : Option Text}
  {start : Text} {environment : List (Text × Text)} {sources : Sources} {settings : Settings}
  {k : Key} {ks : List Key}

/-- Every key makes one of the settings, in this order. -/
theorem map_key_declarations : declarations.map Declaration.key = Config.keys := rfl

theorem key_mem (hd : d ∈ declarations) : d.key ∈ Config.keys := by
  rw [← map_key_declarations]
  exact List.mem_map_of_mem hd

theorem Declaration.draws_iff_of_present {a : d.Carrier} {value : Value}
    (hvalue : d.key.value? table = some value) : d.Draws table variableValue a ↔
      ∃ converted, d.key.convert value = .ok converted ∧ d.check converted = .ok a := by
  constructor
  · intro h
    cases h with
    | ofKey other converted hother hconvert hcheck =>
      obtain rfl := Option.some.inj (hvalue.symm.trans hother)
      exact ⟨converted, hconvert, hcheck⟩
    | ofVariable text habsent => cases hvalue.symm.trans habsent
    | ofDefault habsent => cases hvalue.symm.trans habsent
  · rintro ⟨converted, hconvert, hcheck⟩
    exact .ofKey value converted hvalue hconvert hcheck

theorem Declaration.draws_iff_of_set {a : d.Carrier} {text : Text}
    (habsent : d.key.value? table = none) :
    d.Draws table (some text) a ↔ d.check (.text text) = .ok a := by
  constructor
  · intro h
    cases h with
    | ofKey value converted hvalue => cases hvalue.symm.trans habsent
    | ofVariable other _ hset hcheck =>
      obtain rfl := Option.some.inj hset
      exact hcheck
    | ofDefault _ hunset => cases hunset
  · exact .ofVariable text habsent rfl

theorem Declaration.draws_iff_of_unset {a : d.Carrier} (habsent : d.key.value? table = none) :
    d.Draws table none a ↔ d.field defaults = a := by
  constructor
  · intro h
    cases h with
    | ofKey value converted hvalue => cases hvalue.symm.trans habsent
    | ofVariable text _ hset => cases hset
    | ofDefault _ _ heq => exact heq
  · exact .ofDefault habsent rfl

/-- A setting draws no two values. -/
theorem Declaration.Draws.unique {a b : d.Carrier} (ha : d.Draws table variableValue a)
    (hb : d.Draws table variableValue b) : a = b := by
  cases ha with
  | ofKey value converted hvalue hconvert hcheck =>
    obtain ⟨other, hother, hcheck'⟩ := (draws_iff_of_present hvalue).mp hb
    obtain rfl := Except.ok.inj (hconvert.symm.trans hother)
    exact Except.ok.inj (hcheck.symm.trans hcheck')
  | ofVariable text habsent hset hcheck =>
    subst hset
    exact Except.ok.inj (hcheck.symm.trans ((draws_iff_of_set habsent).mp hb))
  | ofDefault habsent hunset heq =>
    subst hunset
    exact heq.symm.trans ((draws_iff_of_unset habsent).mp hb)

theorem Declaration.Draws.of_value?_eq {other : List (Text × Value)} {a : d.Carrier}
    (h : d.Draws other variableValue a) (heq : d.key.value? other = d.key.value? table) :
    d.Draws table variableValue a := by
  cases h with
  | ofKey value converted hvalue hconvert hcheck =>
    exact .ofKey value converted (heq ▸ hvalue) hconvert hcheck
  | ofVariable text habsent hset hcheck => exact .ofVariable text (heq ▸ habsent) hset hcheck
  | ofDefault habsent hunset hdefault => exact .ofDefault (heq ▸ habsent) hunset hdefault

/-! ## Sources -/

theorem fromEnvironment?_eq (d : Declaration) (sources : Sources) :
    sources.fromEnvironment? d.key.setting =
      d.variableValue? sources.variableStart sources.environment := by
  rw [Sources.fromEnvironment?, Declaration.variableValue?, List.getLast?_filter]

theorem lower_setting (hk : k ∈ Config.keys) :
    Text.lower k.setting.toList = k.setting.toList := by
  have hall : ∀ k ∈ Config.keys, Text.lower k.setting.toList = k.setting.toList := by
    decide +kernel
  exact hall k hk

/-- Of settings that keys make, the one of a certain key is found by its name. -/
theorem find?_made (hlower : ∀ k ∈ ks, Text.lower k.setting.toList = k.setting.toList)
    (hnodup : (ks.map fun k => k.setting.toList).Nodup) (hk : k ∈ ks) :
    ((ks.filterMap fun k => (k.made? table).map fun converted =>
        (k.setting.toList, converted)).find? fun (name, _) =>
          Text.lower name = k.setting.toList).map Prod.snd = k.made? table := by
  induction ks with
  | nil => exact absurd hk List.not_mem_nil
  | cons first later ih =>
    rw [List.map_cons, List.nodup_cons] at hnodup
    have hfirst := hlower first List.mem_cons_self
    have hrest : ∀ k ∈ later, Text.lower k.setting.toList = k.setting.toList :=
      fun k hk => hlower k (List.mem_cons_of_mem _ hk)
    rw [List.filterMap_cons]
    rcases List.mem_cons.mp hk with rfl | hlater
    · cases hmade : k.made? table with
      | some converted => simp [hfirst]
      | none =>
        -- A later key has another name, so it does not stand in for the missing one.
        have hnone : ∀ other ∈ later, other.setting.toList ≠ k.setting.toList :=
          fun other hother heq => hnodup.1 (heq ▸ List.mem_map_of_mem hother)
        simp only [Option.map_none, Option.map_eq_none_iff, List.find?_eq_none,
          List.mem_filterMap, Option.map_eq_some_iff, decide_eq_true_eq]
        rintro ⟨name, value⟩ ⟨other, hother, converted, -, hentry⟩
        obtain ⟨rfl, -⟩ := Prod.mk.inj hentry
        rw [hrest other hother]
        exact hnone other hother
    · have hne : first.setting.toList ≠ k.setting.toList :=
        fun heq => hnodup.1 (heq ▸ List.mem_map_of_mem hlater)
      cases hmade : first.made? table with
      | none => exact ih hrest hnodup.2 hlater
      | some converted =>
        simp only [Option.map_some, List.find?_cons, hfirst, hne, decide_false]
        exact ih hrest hnodup.2 hlater

theorem fromCaller?_made (hk : k ∈ Config.keys) :
    Sources.fromCaller? ⟨madeSettings table, environment, start⟩ k.setting = k.made? table := by
  have hnodup : (Config.keys.map fun k => k.setting.toList).Nodup := by decide
  exact find?_made (fun _ => lower_setting) hnodup hk

/-- The settings that keys make come before the variables. -/
theorem value?_made (table : List (Text × Value)) (environment : List (Text × Text)) (start : Text)
    (hk : d.key ∈ Config.keys) :
    Sources.value? ⟨madeSettings table, environment, start⟩ d.key.setting =
      (d.key.made? table).or ((d.variableValue? start environment).map Value.text) := by
  rw [Sources.value?, fromCaller?_made hk, fromEnvironment?_eq]
  cases d.key.made? table <;> rfl

theorem read_of_value? {α : Type} {name : String} {check : Value → Except Fault α} {default a : α}
    {value : Value} (h : sources.value? name = some value) :
    sources.read name check default = .ok a ↔ check value = .ok a := by
  rw [Sources.read, h]
  dsimp only
  cases check value <;> simp

/-- What is read of a setting is what it draws, as long as the value of its key can be converted. -/
theorem read_eq_ok_iff (hk : d.key ∈ Config.keys)
    (hconvert : ∀ value, d.key.value? table = some value →
      ∃ converted, d.key.convert value = .ok converted) {a : d.Carrier} :
    Sources.read ⟨madeSettings table, environment, start⟩ d.key.setting d.check
        (d.field defaults) = .ok a ↔
      d.Draws table (d.variableValue? start environment) a := by
  have hmade := value?_made table environment start hk
  rw [Key.made?] at hmade
  cases hvalue : d.key.value? table with
  | some value =>
    obtain ⟨converted, hconverted⟩ := hconvert value hvalue
    rw [hvalue, Option.bind_some, hconverted, Except.toOption, Option.some_or] at hmade
    rw [read_of_value? hmade, Declaration.draws_iff_of_present hvalue, hconverted]
    simp
  | none =>
    rw [hvalue, Option.bind_none, Option.none_or] at hmade
    cases hset : d.variableValue? start environment with
    | some text =>
      rw [hset, Option.map_some] at hmade
      rw [read_of_value? hmade, Declaration.draws_iff_of_set hvalue]
    | none =>
      rw [hset, Option.map_none] at hmade
      rw [Sources.read, hmade, Declaration.draws_iff_of_unset hvalue]
      exact ⟨Except.ok.inj, congrArg Except.ok⟩

theorem readFrom_iff : settings.ReadFrom sources ↔ ∀ d ∈ declarations,
    sources.read d.key.setting d.check (d.field defaults) = .ok (d.field settings) := by
  constructor
  · rintro ⟨hmax, hmin, hrem, ht, hroot, hconcurrency, hembedding, hlevel, hfile⟩
    simp only [declarations, List.forall_mem_cons, List.not_mem_nil, false_imp_iff, implies_true,
      and_true]
    exact ⟨hmax, hmin, hrem, ht, hroot, hconcurrency, hembedding, hlevel, hfile⟩
  · intro h
    simp only [declarations, List.forall_mem_cons, List.not_mem_nil, false_imp_iff, implies_true,
      and_true] at h
    obtain ⟨hmax, hmin, hrem, ht, hroot, hconcurrency, hembedding, hlevel, hfile⟩ := h
    exact ⟨hmax, hmin, hrem, ht, hroot, hconcurrency, hembedding, hlevel, hfile⟩

theorem ofSources_eq_ok_iff : ofSources sources = .ok settings ↔ settings.ReadFrom sources ∧
    settings.others =
      sources.given.filter fun (name, _) => !names.contains (String.ofList (Text.lower name)) := by
  constructor
  · intro h
    refine ⟨readFrom_of_ofSources h, ?_⟩
    rw [ofSources] at h
    split at h
    next => rw [← Except.ok.inj h]
    next => cases h
  · rintro ⟨⟨hmax, hmin, hrem, ht, hroot, hconcurrency, hembedding, hlevel, hfile⟩, hothers⟩
    rw [ofSources]
    simp only [hmax, hmin, hrem, ht, hroot, hconcurrency, hembedding, hlevel, hfile, ← hothers]

/-- The settings that keys make are settings of the program. -/
theorem filter_madeSettings (table : List (Text × Value)) :
    (madeSettings table).filter
      (fun (name, _) => !names.contains (String.ofList (Text.lower name))) = [] := by
  have hknown : ∀ k ∈ Config.keys,
      names.contains (String.ofList (Text.lower k.setting.toList)) = true := by
    decide +kernel
  rw [List.filter_eq_nil_iff]
  rintro ⟨name, value⟩ hentry
  obtain ⟨k, hk, hmade⟩ := List.mem_filterMap.mp hentry
  obtain ⟨converted, -, heq⟩ := Option.map_eq_some_iff.mp hmade
  obtain ⟨rfl, -⟩ := Prod.mk.inj heq
  simp only [hknown k hk, Bool.not_true, Bool.false_eq_true, not_false_eq_true]

/-- What is given and the variables of the settings decide what sources make up. -/
theorem ofSources_congr {other : Sources} (hgiven : other.given = sources.given)
    (hvariable : ∀ d ∈ declarations, d.variableValue? other.variableStart other.environment =
      d.variableValue? sources.variableStart sources.environment) :
    ofSources other = ofSources sources := by
  have hread : ∀ d ∈ declarations, other.read d.key.setting d.check (d.field defaults) =
      sources.read d.key.setting d.check (d.field defaults) := by
    intro d hd
    have hvalue : other.value? d.key.setting = sources.value? d.key.setting := by
      rw [Sources.value?, Sources.value?, Sources.fromCaller?, Sources.fromCaller?, hgiven,
        fromEnvironment?_eq, fromEnvironment?_eq, hvariable d hd]
    rw [Sources.read, Sources.read, hvalue]
  simp only [declarations, List.forall_mem_cons, List.not_mem_nil, false_imp_iff, implies_true,
    and_true] at hread
  obtain ⟨hmax, hmin, hrem, ht, hroot, hconcurrency, hembedding, hlevel, hfile⟩ := hread
  rw [ofSources, ofSources]
  simp only [hmax, hmin, hrem, ht, hroot, hconcurrency, hembedding, hlevel, hfile, hgiven]

end Settings

/-! ## Loads -/

/-- A load of settings: the names it depends on, the environment, the file system, and the tables
that files hold. -/
structure Load where
  names : Config.Names
  environment : List (Text × Text)
  fs : FileSystem
  tableOf : List Text → List (Text × Value)

namespace Load

open Config (LoadFault FailsFirst)
open Settings (Declaration declarations DrawnFrom)

/-- The settings that a load comes to. -/
def result (load : Load) : Except LoadFault Settings :=
  Config.loadSettings load.names load.environment load.fs load.tableOf

/-- A load reads a table: that of the configuration file, or an empty one where there is no such
file. -/
def Reads (load : Load) (table : List (Text × Value)) : Prop :=
  ∃ file, Config.configFile? load.names load.environment load.fs = .ok file ∧
    (file.map load.tableOf).getD [] = table

/-- A setting has the same key and the same variable in two loads. -/
structure SameSources (d : Declaration) (load : Load) (table : List (Text × Value))
    (other : Load) (otherTable : List (Text × Value)) : Prop where
  value?_eq : d.key.value? otherTable = d.key.value? table
  variableValue?_eq : d.variableValue? other.names.variableStart other.environment =
    d.variableValue? load.names.variableStart load.environment

/-- What a load makes of a table reaches the fields it belongs to, and nothing else. -/
structure ReachesFields (load : Load) (table : List (Text × Value)) : Prop where
  /-- A load comes to the settings that are drawn from the table and the environment. -/
  result_eq_ok_iff (settings : Settings) : load.result = .ok settings ↔
    DrawnFrom load.names.variableStart load.environment table settings
  /-- A field depends on its own key and variable alone. -/
  field_eq {d : Declaration} (hd : d ∈ declarations) {other : Load}
    {otherTable : List (Text × Value)} {settings otherSettings : Settings}
    (hreads : other.Reads otherTable) (htables : HasTables otherTable)
    (hsame : SameSources d load table other otherTable) (h : load.result = .ok settings)
    (hother : other.result = .ok otherSettings) : d.field otherSettings = d.field settings
  /-- Sections, keys and variables that belong to no setting change nothing. -/
  result_eq {other : Load} {otherTable : List (Text × Value)} (hreads : other.Reads otherTable)
    (htables : HasTables otherTable)
    (hsame : ∀ d ∈ declarations, SameSources d load table other otherTable) :
    other.result = load.result
  /-- Reading the table fails exactly when a key is there whose value cannot be converted. -/
  exists_error_iff : (∃ fault, Config.flatten table = .error fault) ↔
    ∃ k ∈ Config.keys, ∃ value fault, k.value? table = some value ∧
      k.convert value = .error fault
  /-- The fault is that of the first such key in the order of reading. -/
  error_iff (fault : Config.SectionFault) : Config.flatten table = .error fault ↔
    ∃ before k after, Config.keys = before ++ k :: after ∧ FailsFirst table fault before k

variable {load other : Load} {table otherTable : List (Text × Value)} {settings : Settings}
  {d : Declaration}

theorem result_eq_bind (hreads : load.Reads table) :
    load.result = ((Config.flatten table).mapError .table).bind fun given =>
      (Settings.ofSources ⟨given, load.environment, load.names.variableStart⟩).mapError
        .fields := by
  obtain ⟨file, hfile, rfl⟩ := hreads
  rw [result, Config.loadSettings, hfile]
  rfl

theorem result_eq_ok_iff_ofSources (hreads : load.Reads table) : load.result = .ok settings ↔
    ∃ given, Config.flatten table = .ok given ∧
      Settings.ofSources ⟨given, load.environment, load.names.variableStart⟩ = .ok settings := by
  rw [result_eq_bind hreads]
  cases Config.flatten table with
  | error fault => simp [Except.mapError, Except.bind]
  | ok given =>
    cases hsources : Settings.ofSources ⟨given, load.environment, load.names.variableStart⟩ <;>
      simp [hsources, Except.mapError, Except.bind]

theorem result_eq_ok_iff_drawnFrom (hreads : load.Reads table) (htables : HasTables table) :
    load.result = .ok settings ↔
      DrawnFrom load.names.variableStart load.environment table settings := by
  rw [result_eq_ok_iff_ofSources hreads]
  constructor
  · rintro ⟨given, hgiven, hsources⟩
    obtain ⟨rfl, hconvert⟩ := (Config.flatten_eq_ok_iff htables).mp hgiven
    obtain ⟨hreadFrom, hothers⟩ := Settings.ofSources_eq_ok_iff.mp hsources
    constructor
    · intro d hd
      have hk := Settings.key_mem hd
      have hread := Settings.readFrom_iff.mp hreadFrom d hd
      exact (Settings.read_eq_ok_iff hk (hconvert d.key hk)).mp hread
    · rw [hothers, Settings.filter_madeSettings]
  · rintro ⟨hdraws, hothers⟩
    -- A key that is there was drawn from, so its value can be converted.
    have hconvert : ∀ k ∈ Config.keys, ∀ value, k.value? table = some value →
        ∃ converted, k.convert value = .ok converted := by
      intro k hk value hvalue
      rw [← Settings.map_key_declarations] at hk
      obtain ⟨d, hd, rfl⟩ := List.mem_map.mp hk
      obtain ⟨converted, hconverted, -⟩ :=
        (Declaration.draws_iff_of_present hvalue).mp (hdraws d hd)
      exact ⟨converted, hconverted⟩
    refine ⟨madeSettings table, (Config.flatten_eq_ok_iff htables).mpr ⟨rfl, hconvert⟩, ?_⟩
    refine Settings.ofSources_eq_ok_iff.mpr ⟨Settings.readFrom_iff.mpr fun d hd => ?_, ?_⟩
    · have hk := Settings.key_mem hd
      exact (Settings.read_eq_ok_iff hk (hconvert d.key hk)).mpr (hdraws d hd)
    · rw [hothers, Settings.filter_madeSettings]

/-- Where the sections of a configuration file are tables, a load succeeds exactly with the settings
of which each has the value of its own key, else of its own variable, else its default; no other
key, section or variable has a part in it; and a value that cannot be converted is reported for the
first key that has one. -/
theorem settings_reach_fields (load : Load) (table : List (Text × Value))
    (hreads : load.Reads table) (htables : HasTables table) : load.ReachesFields table := by
  constructor
  case result_eq_ok_iff =>
    intro settings
    exact result_eq_ok_iff_drawnFrom hreads htables
  case field_eq =>
    intro d hd other otherTable settings otherSettings hotherReads hotherTables hsame h hother
    have hdraws := ((result_eq_ok_iff_drawnFrom hreads htables).mp h).draws d hd
    have hotherDraws := ((result_eq_ok_iff_drawnFrom hotherReads hotherTables).mp hother).draws d hd
    rw [hsame.variableValue?_eq] at hotherDraws
    exact (hotherDraws.of_value?_eq hsame.value?_eq).unique hdraws
  case result_eq =>
    intro other otherTable hotherReads hotherTables hsame
    have hflatten : Config.flatten otherTable = Config.flatten table := by
      refine Config.flatten_congr htables hotherTables fun k hk => ?_
      rw [← Settings.map_key_declarations] at hk
      obtain ⟨d, hd, rfl⟩ := List.mem_map.mp hk
      exact (hsame d hd).value?_eq
    have hsources : ∀ given,
        Settings.ofSources ⟨given, other.environment, other.names.variableStart⟩ =
          Settings.ofSources ⟨given, load.environment, load.names.variableStart⟩ :=
      fun given => Settings.ofSources_congr rfl fun d hd => (hsame d hd).variableValue?_eq
    rw [result_eq_bind hotherReads, result_eq_bind hreads, hflatten]
    simp only [hsources]
  case exists_error_iff => exact Config.exists_flatten_eq_error_iff htables
  case error_iff =>
    intro fault
    exact Config.flatten_eq_error_iff htables

/-- A configuration file with two of the four sections, and with entries that nothing reads. -/
def mixedTable : List (Text × Value) :=
  [("chunking".toList,
     .table [("max_block_chars".toList, .text " 2_000".toList), ("colour".toList, .flag true)]),
   ("logging".toList, .table [("level".toList, .text "warning".toList)]),
   ("editor".toList, .integer 3)]

/-- A load that finds this file under the absolute path that the environment gives. -/
def mixedLoad : Load where
  names := ⟨"SEMSEG_".toList, "SEMSEG_CONFIG_PATH".toList, "semseg_settings.toml".toList⟩
  environment :=
    [("SEMSEG_CONFIG_PATH".toList, "/etc/conf.toml".toList),
     ("semseg_min_block_chars".toList, "20".toList), ("SEMSEG_LOG_LEVEL".toList, "DEBUG".toList)]
  fs :=
    ⟨[("etc".toList, .directory [("conf.toml".toList, .file (.holding []))]),
      ("work".toList, .directory [])], ["work".toList]⟩
  tableOf _ := mixedTable

theorem mixedLoad_reads : mixedLoad.Reads mixedTable :=
  ⟨some ["etc".toList, "conf.toml".toList], by decide +kernel, rfl⟩

theorem mixedTable_hasTables : HasTables mixedTable := by
  intro name hname content hlookup
  simp only [Config.sectionNames, List.mem_cons, List.not_mem_nil, or_false] at hname
  rcases hname with rfl | rfl | rfl | rfl
  · exact ⟨_, (Option.some.inj hlookup).symm⟩
  · cases hlookup
  · cases hlookup
  · exact ⟨_, (Option.some.inj hlookup).symm⟩

/-- A value from the file, one from the environment, and one from the file in upper case that the
environment has too. -/
theorem mixedLoad_succeeds : ∃ settings, mixedLoad.result = .ok settings ∧
    settings.maxBlockChars = 2000 ∧ settings.minBlockChars = 20 ∧
    settings.logLevel = "WARNING".toList := by
  rw [result_eq_bind mixedLoad_reads]
  exact ⟨_, rfl, rfl, rfl, rfl⟩

theorem settings_reach_fields_mixed :
    mixedLoad.Reads mixedTable ∧ HasTables mixedTable ∧ mixedLoad.ReachesFields mixedTable ∧
      ∃ settings, mixedLoad.result = .ok settings ∧ settings.maxBlockChars = 2000 ∧
        settings.minBlockChars = 20 ∧ settings.logLevel = "WARNING".toList :=
  ⟨mixedLoad_reads, mixedTable_hasTables,
    settings_reach_fields mixedLoad mixedTable mixedLoad_reads mixedTable_hasTables,
    mixedLoad_succeeds⟩

end Load

end SourceBlocks
