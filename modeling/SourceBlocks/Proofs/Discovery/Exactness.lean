import SourceBlocks.Proofs.Discovery.Walk

/-!
# Discovery is exact

Discovery finds the files to index, all of them and no others, in ascending order.  Whether a file
belongs to them is told from the directories and names on the way to it, from its extension and
from what its path leads to.
-/

namespace SourceBlocks.Discovery

/-- A name is ignored for one of the default patterns, or for an extra one that is not blank. -/
def Ignores (extra : List Text) (name : Text) : Prop :=
  ∃ pattern,
    (pattern ∈ defaultPatterns ∨ pattern ≠ [] ∧ ∃ given ∈ extra, Text.trim given = pattern) ∧
      (Wildcard.ofText pattern).isMatch name = true

/-- A path below the root, whose entries are those of `directory`, is that of a file to index. -/
def IsSource (fs : FileSystem) (root : Text) (directory : Directory) (extra : List Text)
    (relative : Text) : Prop :=
  ∃ path entry address file, Directory.Holds directory path entry ∧
    (∀ entries, entry ≠ .directory entries) ∧ Path.ofComponents path = relative ∧
    (∀ name ∈ path, ¬ Ignores extra name) ∧ Extension.isScannable relative = true ∧
    fs.resolve (Path.join root relative) = .ok (.file address file) ∧ file.size ≠ 0

/-- The sorted files of a walk that ignores the names of some patterns. -/
def sources (fs : FileSystem) (root : Text) (directory : Directory) (patterns : List Text) :
    List Text :=
  ((walk ⟨patterns, Extension.scanned.map Text.lower⟩
    (fun relative => fs.resolve (Path.join root relative)) [] directory).filterMap
      Finding.file?).mergeSort Text.le

/-! ## Ignored names -/

section

variable {extra more : List Text} {name relative : Text} {path : List Text}

theorem mem_patternsWith_iff {pattern : Text} :
    pattern ∈ patternsWith extra ↔
      pattern ∈ defaultPatterns ∨ pattern ≠ [] ∧ ∃ given ∈ extra, Text.trim given = pattern := by
  simp only [patternsWith, List.mem_append, List.mem_filter, List.mem_map, Bool.not_eq_true',
    List.isEmpty_eq_false_iff]
  tauto

theorem isIgnored_patternsWith_iff :
    isIgnored (patternsWith extra) name = true ↔ Ignores extra name := by
  simp only [isIgnored_iff, mem_patternsWith_iff, Ignores]

theorem noneIgnored_patternsWith_iff :
    noneIgnored (patternsWith extra) path = true ↔ ∀ name ∈ path, ¬ Ignores extra name := by
  simp only [noneIgnored_iff, ← isIgnored_patternsWith_iff, Bool.not_eq_true]

theorem Ignores.mono (h : Ignores extra name) (hmore : ∀ pattern ∈ extra, pattern ∈ more) :
    Ignores more name := by
  obtain ⟨pattern, hpattern, hmatch⟩ := h
  refine ⟨pattern, ?_, hmatch⟩
  rcases hpattern with hdefault | ⟨hne, given, hgiven, htrim⟩
  · exact Or.inl hdefault
  · exact Or.inr ⟨hne, given, hmore given hgiven, htrim⟩

theorem mem_tails (t : Text) : [] ∈ Wildcard.tails t := by
  induction t with
  | nil => exact List.mem_singleton_self _
  | cons c rest ih => exact List.mem_cons_of_mem _ ih

/-- A name that begins with a dot is always ignored. -/
theorem ignores_of_dot (h : name.head? = some '.') : Ignores extra name := by
  obtain ⟨rest, rfl⟩ := List.head?_eq_some_iff.mp h
  refine ⟨".*".toList, Or.inl (by simp [defaultPatterns]), ?_⟩
  have htokens : (Wildcard.ofText ".*".toList).tokens = [.literal '.', .anyRun] := by
    simp [Wildcard.ofText, Wildcard.tokenize]
  rw [Wildcard.isMatch, htokens]
  apply List.any_eq_true.mpr
  exact ⟨[], mem_tails rest, rfl⟩

/-! ## The two rules for extensions -/

theorem map_lower_scanned : Extension.scanned.map Text.lower = Extension.scanned := by
  decide

/-- By its suffix a file that is not ignored is scanned exactly when it is by its extension. -/
theorem suffix_scanned_eq (hname : Path.IsName name) (hignored : ¬ Ignores extra name)
    (names : List Text) :
    (Extension.scanned.map Text.lower).contains (Text.lower (Path.suffix name)) =
      Extension.isScannable (Path.ofComponents (names ++ [name])) := by
  rw [Extension.isScannable, Extension.ofPath,
    Path.extension_ofComponents_concat names, map_lower_scanned]
  rcases Path.suffix_cases hname.no_slash (fun hdot => hignored (ignores_of_dot hdot)) with
    hsame | ⟨hsuffix, hextension⟩
  · rw [hsame]
  · rw [hsuffix, hextension]
    decide

theorem keeps_iff {locate : Text → Except FileFault Target}
    (hnames : ∀ name ∈ path, Path.IsName name) (hne : path ≠ [])
    (hignored : ∀ name ∈ path, ¬ Ignores extra name) :
    keeps (Extension.scanned.map Text.lower) locate path = true ↔
      Extension.isScannable (Path.ofComponents path) = true ∧
        ∃ address file, locate (Path.ofComponents path) = .ok (.file address file) ∧
          file.size ≠ 0 := by
  obtain ⟨names, name, rfl⟩ := (List.eq_nil_or_concat' path).resolve_left hne
  have hmem : name ∈ names ++ [name] := List.mem_append_right _ (List.mem_singleton_self _)
  rw [keeps, List.getLastD_concat, suffix_scanned_eq (hnames name hmem) (hignored name hmem),
    Bool.and_eq_true]
  apply and_congr_right
  intro _
  constructor
  · intro h
    split at h
    next address file htarget => exact ⟨address, file, htarget, bne_iff_ne.mp h⟩
    next => cases h
  · rintro ⟨address, file, htarget, hsize⟩
    rw [htarget]
    exact bne_iff_ne.mpr hsize

end

/-! ## The files to index -/

section

variable {fs other : FileSystem} {directory : Directory} {root relative : Text}
  {patterns extra more : List Text} {trail : Trail}

/-- Where the paths of the files of a walk come from. -/
theorem sources_eq (hproper : directory.Proper) (patterns : List Text) :
    sources fs root directory patterns =
      ((((directory.leaves.map Prod.fst).filter (noneIgnored patterns)).filter
        (keeps (Extension.scanned.map Text.lower)
          fun relative => fs.resolve (Path.join root relative))).map
            Path.ofComponents).mergeSort Text.le := by
  rw [sources, files_walk hproper]

theorem discover_eq (h : fs.resolve root = .ok (.directory trail))
    (extra : List Text) :
    ∃ events, discover fs root extra Extension.scanned =
      .ok (sources fs root trail.here (patternsWith extra), events) := by
  rw [discover, h]
  exact ⟨_, rfl⟩

/-- Different entries that are no directories have different paths. -/
theorem nodup_leafPaths (hproper : directory.Proper) :
    ((directory.leaves.map Prod.fst).map Path.ofComponents).Nodup := by
  apply hproper.nodup_leaves.map_on
  intro path hpath other hother heq
  obtain ⟨leaf, hleaf, rfl⟩ := List.mem_map.mp hpath
  obtain ⟨leaf', hleaf', rfl⟩ := List.mem_map.mp hother
  have hpieces := hproper.pieces_of_holds (Directory.mem_leaves_iff.mp hleaf).1
  have hpieces' := hproper.pieces_of_holds (Directory.mem_leaves_iff.mp hleaf').1
  rw [← hpieces, heq, hpieces']

theorem ascending_sources (hproper : directory.Proper) (patterns : List Text) :
    (sources fs root directory patterns).Pairwise fun s t => Text.le s t = true ∧ s ≠ t := by
  rw [sources_eq hproper]
  apply Text.strictly_ascending_mergeSort
  refine List.Sublist.nodup ?_ (nodup_leafPaths hproper)
  apply List.Sublist.map
  exact List.filter_sublist.trans List.filter_sublist

theorem mem_sources_iff (hproper : directory.Proper) :
    relative ∈ sources fs root directory (patternsWith extra) ↔
      IsSource fs root directory extra relative := by
  rw [sources_eq hproper, List.mem_mergeSort, List.mem_map]
  simp only [List.mem_filter, List.mem_map]
  constructor
  · rintro ⟨path, ⟨⟨⟨⟨own, entry⟩, hleaf, rfl⟩, hignored⟩, hkept⟩, rfl⟩
    obtain ⟨hholds, hentry⟩ := Directory.mem_leaves_iff.mp hleaf
    rw [noneIgnored_patternsWith_iff] at hignored
    obtain ⟨name, later, hpath, -⟩ := hholds.exists_head
    obtain ⟨hscannable, address, file, htarget, hsize⟩ :=
      (keeps_iff (hproper.names_of_holds hholds) (hpath ▸ List.cons_ne_nil _ _) hignored).mp hkept
    exact ⟨own, entry, address, file, hholds, hentry, rfl, hignored, hscannable, htarget, hsize⟩
  · rintro ⟨path, entry, address, file, hholds, hentry, rfl, hignored, hscannable, htarget, hsize⟩
    obtain ⟨name, later, hpath, -⟩ := hholds.exists_head
    refine ⟨path, ⟨⟨⟨(path, entry), ?_, rfl⟩, ?_⟩, ?_⟩, rfl⟩
    · exact Directory.mem_leaves_iff.mpr ⟨hholds, hentry⟩
    · exact noneIgnored_patternsWith_iff.mpr hignored
    · exact (keeps_iff (hproper.names_of_holds hholds) (hpath ▸ List.cons_ne_nil _ _) hignored).mpr
        ⟨hscannable, address, file, htarget, hsize⟩

/-- What discovery finds is known once the files of the walk are known in some order. -/
theorem discover_eq_of_perm {expected : List Text} (hproper : fs.Proper)
    (hroot : fs.resolve root = .ok (.directory trail))
    (hascending : expected.Pairwise fun s t => Text.le s t = true ∧ s ≠ t)
    (hperm : ((walk ⟨patternsWith extra, Extension.scanned.map Text.lower⟩
      (fun relative => fs.resolve (Path.join root relative)) [] trail.here).filterMap
        Finding.file?).Perm expected) :
    ∃ events, discover fs root extra Extension.scanned = .ok (expected, events) := by
  have hhere := FileSystem.proper_here hproper hroot
  have hsources : sources fs root trail.here (patternsWith extra) = expected := by
    apply Text.eq_of_ascending (ascending_sources hhere _) hascending
    intro relative
    rw [sources, List.mem_mergeSort]
    exact hperm.mem_iff
  obtain ⟨events, hdiscover⟩ := discover_eq hroot extra
  exact ⟨events, hsources ▸ hdiscover⟩

/-- Leaving out ignored directories at once comes to the same as leaving out, at the end, the paths
that have an ignored name. -/
theorem sources_pruned (hproper : directory.Proper) (patterns : List Text) :
    sources fs root directory patterns =
      (sources fs root directory []).filter fun relative =>
        noneIgnored patterns (Path.pieces relative) := by
  rw [sources_eq hproper, sources_eq hproper, Text.filter_mergeSort,
    List.filter_map (f := Path.ofComponents), List.filter_filter, List.filter_filter,
    List.filter_filter]
  congr 2
  apply List.filter_congr
  intro path hpath
  obtain ⟨leaf, hleaf, rfl⟩ := List.mem_map.mp hpath
  have hpieces := hproper.pieces_of_holds (Directory.mem_leaves_iff.mp hleaf).1
  have hnone : noneIgnored [] leaf.1 = true := noneIgnored_iff.mpr fun name _ => isIgnored_nil name
  rw [Function.comp_apply, hpieces, hnone, Bool.and_true, Bool.and_comm]

theorem sources_sublist (hproper : directory.Proper) (hmore : ∀ pattern ∈ extra, pattern ∈ more) :
    (sources fs root directory (patternsWith more)).Sublist
      (sources fs root directory (patternsWith extra)) := by
  rw [sources_pruned hproper (patternsWith more), sources_pruned hproper (patternsWith extra)]
  apply List.monotone_filter_right
  intro relative hrelative
  rw [noneIgnored_patternsWith_iff] at hrelative ⊢
  intro name hname hignored
  exact hrelative name hname (hignored.mono hmore)

theorem IsSource.relisted {own its : Directory} (hproper : fs.Proper)
    (hlisted : fs.Relisted other) (hinner : Directory.Relisted own its)
    (h : IsSource fs root own extra relative) : IsSource other root its extra relative := by
  obtain ⟨path, entry, address, file, hholds, hentry, hpath, hignored, hscannable, htarget,
    hsize⟩ := h
  have hagrees := FileSystem.resolve_agrees hproper hlisted (Path.join root relative)
  rw [htarget] at hagrees
  generalize htarget' : other.resolve (Path.join root relative) = target' at hagrees
  cases hagrees with
  | file =>
    exact ⟨path, entry, address, file, (hinner.holds_iff hentry).mp hholds, hentry, hpath,
      hignored, hscannable, htarget', hsize⟩

end

/-- The files that a discovery found are the files to index. -/
structure Discovers (fs : FileSystem) (root : Text) (directory : Directory)
    (extra found : List Text) : Prop where
  ascending : found.Pairwise fun s t => Text.le s t = true ∧ s ≠ t
  mem_iff : ∀ relative, relative ∈ found ↔ IsSource fs root directory extra relative
  fewer : ∀ more, (∀ pattern ∈ extra, pattern ∈ more) → ∃ remaining events,
    discover fs root more Extension.scanned = .ok (remaining, events) ∧
      remaining.Sublist found
  pruned : found = (sources fs root directory []).filter fun relative =>
    noneIgnored (patternsWith extra) (Path.pieces relative)
  one_rule : ∀ names name entry, Directory.Holds directory (names ++ [name]) entry →
    ¬ Ignores extra name →
      (Extension.scanned.map Text.lower).contains (Text.lower (Path.suffix name)) =
        Extension.isScannable (Path.ofComponents (names ++ [name]))
  any_listing : ∀ other, fs.Relisted other → ∃ events,
    discover other root extra Extension.scanned = .ok (found, events)

/-- Below a directory discovery finds the files to index, whatever the order in which directories
are listed. -/
theorem discovery_exact (fs : FileSystem) (root : Text) (trail : Trail) (extra : List Text)
    (hproper : fs.Proper) (hroot : fs.resolve root = .ok (.directory trail)) :
    ∃ found events, discover fs root extra Extension.scanned = .ok (found, events) ∧
      Discovers fs root trail.here extra found := by
  have hresolves : ∀ {other : FileSystem}, fs.Relisted other →
      ∃ trail', other.resolve root = .ok (.directory trail') ∧ trail.Relisted trail' := by
    intro other hlisted
    have hagrees := FileSystem.resolve_agrees hproper hlisted root
    rw [hroot] at hagrees
    generalize other.resolve root = target at hagrees
    cases hagrees with
    | directory htrail => exact ⟨_, rfl, htrail⟩
  have hhere : trail.here.Proper := FileSystem.proper_here hproper hroot
  obtain ⟨events, hdiscover⟩ := discover_eq hroot extra
  refine ⟨_, events, hdiscover, ?_⟩
  constructor
  case ascending => exact ascending_sources hhere _
  case mem_iff =>
    intro relative
    exact mem_sources_iff hhere
  case fewer =>
    intro more hmore
    obtain ⟨moreEvents, hmoreDiscover⟩ := discover_eq hroot more
    exact ⟨_, moreEvents, hmoreDiscover, sources_sublist hhere hmore⟩
  case pruned => exact sources_pruned hhere _
  case one_rule =>
    intro names name entry hholds hignored
    apply suffix_scanned_eq _ hignored
    exact hhere.names_of_holds hholds name (List.mem_append_right _ (List.mem_singleton_self _))
  case any_listing =>
    intro other hlisted
    obtain ⟨trail', hroot', htrail⟩ := hresolves hlisted
    obtain ⟨otherEvents, hotherDiscover⟩ := discover_eq hroot' extra
    obtain ⟨-, hinner⟩ := htrail.here
    have hhere' : trail'.here.Proper := hinner.proper hhere
    refine ⟨otherEvents, ?_⟩
    rw [hotherDiscover]
    congr 2
    apply Text.eq_of_ascending (ascending_sources hhere' _) (ascending_sources hhere _)
    intro relative
    rw [mem_sources_iff hhere', mem_sources_iff hhere]
    constructor
    · exact IsSource.relisted (hlisted.proper hproper) hlisted.symm hinner.symm
    · exact IsSource.relisted hproper hlisted hinner

/-- A project with links to a file and to a directory outside it, by absolute paths and by way of
the parent directory, a link to nothing, an empty file, names with dots at their ends, and a
directory whose name is ignored. -/
def linkedProject : Directory :=
  [("a.js".toList, .file (.holding [10])),
   ("B.PY".toList, .file (.holding [10])),
   ("empty.js".toList, .file (.holding [])),
   ("notes.md".toList, .file (.holding [10])),
   (".hidden.js".toList, .file (.holding [10])),
   ("dotted.js.".toList, .file (.holding [10])),
   ("up.ts".toList, .link "../lib/shared.ts".toList),
   ("root.ts".toList, .link "/lib/shared.ts".toList),
   ("gone.ts".toList, .link "/lib/gone.ts".toList),
   ("more.js".toList, .link "/lib/more".toList),
   ("venv".toList, .directory [("v.js".toList, .file (.holding [10]))]),
   ("src".toList, .directory
     [("d.tsx".toList, .file (.holding [10])),
      ("made.gen.js".toList, .file (.holding [10]))])]

/-- The project beside a library, which is the current directory. -/
def twoProjects : FileSystem where
  root :=
    [("lib".toList, .directory
       [("shared.ts".toList, .file (.holding [10])),
        ("more".toList, .directory [("m.js".toList, .file (.holding [10]))])]),
     ("work".toList, .directory linkedProject)]
  current := ["lib".toList]

theorem twoProjects_proper : twoProjects.Proper := by
  simp +decide [FileSystem.Proper, twoProjects, linkedProject, Directory.proper_cons_iff,
    Directory.Proper.nil]

/-- Two extra patterns, of which the second is blank. -/
def generatedPatterns : List Text := [" *.gen.js ".toList, "  ".toList]

/-- The files to index in the project. -/
def linkedSources : List Text :=
  ["B.PY".toList, "a.js".toList, "root.ts".toList, "src/d.tsx".toList, "up.ts".toList]

theorem discovery_exact_twoProjects :
    twoProjects.Proper ∧
      twoProjects.resolve "/work".toList =
        .ok (.directory ⟨[("work".toList, linkedProject)], twoProjects.root⟩) ∧
      ∃ events, discover twoProjects "/work".toList generatedPatterns Extension.scanned =
          .ok (linkedSources, events) ∧
        Discovers twoProjects "/work".toList linkedProject generatedPatterns linkedSources := by
  have hroot : twoProjects.resolve "/work".toList =
      .ok (.directory ⟨[("work".toList, linkedProject)], twoProjects.root⟩) := rfl
  obtain ⟨events, hdiscover⟩ : ∃ events, discover twoProjects "/work".toList generatedPatterns
      Extension.scanned = .ok (linkedSources, events) :=
    discover_eq_of_perm twoProjects_proper hroot (by decide) (by decide +kernel)
  obtain ⟨found, other, hfound, hdiscovers⟩ :=
    discovery_exact twoProjects "/work".toList _ generatedPatterns twoProjects_proper hroot
  obtain ⟨rfl, rfl⟩ := Prod.mk.inj (Except.ok.inj (hdiscover.symm.trans hfound))
  exact ⟨twoProjects_proper, hroot, events, hdiscover, hdiscovers⟩

end SourceBlocks.Discovery
