import SourceBlocks.Discovery
import SourceBlocks.Proofs.FileSystem.Tree
import SourceBlocks.Proofs.TextOrder

/-!
# What a walk comes upon

A walk goes through the entries below the root that are no directories, and leaves out those that
have an ignored name on their way.  So leaving out an ignored directory at once comes to the same
as going through it in vain.
-/

namespace SourceBlocks.Discovery

/-- None of the names is ignored. -/
def noneIgnored (patterns : List Text) (path : List Text) : Bool :=
  path.all fun name => !isIgnored patterns name

/-- Whether a walk that ignores nothing keeps the entry at a path. -/
def keeps (suffixes : List Text) (locate : Text → Except FileFault Target) (path : List Text) :
    Bool :=
  suffixes.contains (Text.lower (Path.suffix (path.getLastD []))) &&
    match locate (Path.ofComponents path) with
    | .ok (.file _ file) => file.size != 0
    | _ => false

section

variable {filter : Filter} {patterns suffixes : List Text}
  {locate : Text → Except FileFault Target} {relative name : Text} {directory : Directory}
  {path : List Text} {finding : Finding} {target : Except FileFault Target}

theorem isIgnored_nil (name : Text) : isIgnored [] name = false := rfl

theorem isIgnored_iff :
    isIgnored patterns name = true ↔
      ∃ pattern ∈ patterns, (Wildcard.ofText pattern).isMatch name = true :=
  List.any_eq_true

theorem noneIgnored_iff :
    noneIgnored patterns path = true ↔ ∀ name ∈ path, isIgnored patterns name = false := by
  simp [noneIgnored]

theorem noneIgnored_cons (name : Text) (path : List Text) :
    noneIgnored patterns (name :: path) = (!isIgnored patterns name && noneIgnored patterns path) :=
  rfl

/-! ## A walk is a list of judgements -/

theorem judge_of_ignored (h : isIgnored filter.patterns name = true) :
    judge filter name relative target = [] := by
  simp [judge, h]

theorem judge_of_not_ignored (h : isIgnored filter.patterns name = false) :
    judge filter name relative target = judge ⟨[], filter.suffixes⟩ name relative target := by
  simp [judge, h, isIgnored_nil]

/-- What an entry comes to that has no ignored name on its way. -/
def verdict (suffixes : List Text) (locate : Text → Except FileFault Target) (relative : Text)
    (path : List Text) : List Finding :=
  judge ⟨[], suffixes⟩ (path.getLastD []) (path.foldl below relative)
    (locate (path.foldl below relative))

theorem verdict_cons (hne : path ≠ []) :
    verdict suffixes locate relative (name :: path) =
      verdict suffixes locate (below relative name) path := by
  cases path with
  | nil => exact absurd rfl hne
  | cons next later => rfl

/-- A walk comes upon what the entries come to that have no ignored name on their way. -/
theorem walk_eq (filter : Filter) (locate : Text → Except FileFault Target) (relative : Text)
    (directory : Directory) :
    walk filter locate relative directory =
      ((directory.leaves.map Prod.fst).filter (noneIgnored filter.patterns)).flatMap
        (verdict filter.suffixes locate relative) := by
  induction directory using Directory.leaves.induct generalizing relative with
  | case1 =>
    rw [walk, Directory.leaves]
    rfl
  | case2 name entries rest hinner hrest =>
    rw [walk, walkEntry, Directory.map_fst_leaves_cons, List.filter_append, List.flatMap_append,
      hrest]
    congr 1
    rw [List.filter_map, List.flatMap_map]
    by_cases hname : isIgnored filter.patterns name = true
    · -- Below an ignored directory every path has an ignored name.
      rw [if_pos hname, List.filter_eq_nil_iff.mpr, List.flatMap_nil]
      intro path _
      simp [noneIgnored_cons, hname]
    · have hsame : noneIgnored filter.patterns ∘ (name :: ·) = noneIgnored filter.patterns := by
        funext path
        simp [noneIgnored_cons, hname]
      rw [if_neg hname, hinner, hsame]
      apply List.flatMap_congr
      intro path hpath
      obtain ⟨leaf, hleaf, rfl⟩ := List.mem_map.mp (List.mem_of_mem_filter hpath)
      obtain ⟨first, later, hfirst, -⟩ := (Directory.mem_leaves_iff.mp hleaf).1.exists_head
      rw [verdict_cons]
      rw [hfirst]
      exact List.cons_ne_nil _ _
  | case3 name entry rest hentry hrest =>
    rw [walk, walkEntry, Directory.leaves, List.map_cons, hrest]
    · by_cases hname : isIgnored filter.patterns name = true
      · rw [judge_of_ignored hname, List.filter_cons_of_neg]
        · rfl
        · simp [noneIgnored, hname]
      · rw [Bool.not_eq_true] at hname
        rw [judge_of_not_ignored hname, List.filter_cons_of_pos, List.flatMap_cons]
        · rfl
        · simp [noneIgnored, hname]
    all_goals exact hentry

/-! ## The files of a walk -/

theorem below_nil (name : Text) : below [] name = name := rfl

theorem foldl_below (hpath : ∀ name ∈ path, name ≠ []) (hne : relative ≠ []) :
    path.foldl below relative = relative ++ path.flatMap fun name => '/' :: name := by
  induction path generalizing relative with
  | nil => simp
  | cons name later ih =>
    have hbelow : below relative name = relative ++ '/' :: name := by
      rw [below, if_neg]
      exact fun hempty => hne (List.isEmpty_iff.mp hempty)
    rw [List.foldl_cons, hbelow, ih, List.flatMap_cons, List.append_assoc]
    · intro other hother
      exact hpath other (List.mem_cons_of_mem _ hother)
    · exact List.append_ne_nil_of_right_ne_nil _ (List.cons_ne_nil _ _)

/-- The path of an entry below the root is made of its names. -/
theorem foldl_below_nil (hpath : ∀ name ∈ path, name ≠ []) :
    path.foldl below [] = Path.ofComponents path := by
  cases path with
  | nil => rfl
  | cons name later =>
    rw [List.foldl_cons, below_nil, foldl_below, Path.ofComponents_cons]
    · intro other hother
      exact hpath other (List.mem_cons_of_mem _ hother)
    · exact hpath name List.mem_cons_self

theorem file?_judge (suffixes : List Text) (name relative : Text)
    (target : Except FileFault Target) :
    (judge ⟨[], suffixes⟩ name relative target).filterMap Finding.file? =
      if suffixes.contains (Text.lower (Path.suffix name)) &&
        (match target with
        | .ok (.file _ file) => file.size != 0
        | _ => false) then [relative] else [] := by
  rw [judge.eq_def, isIgnored_nil, Bool.false_or]
  cases suffixes.contains (Text.lower (Path.suffix name)) with
  | false => rfl
  | true =>
    match target with
    | .error fault => rfl
    | .ok (.vacant address) => rfl
    | .ok (.directory trail) => rfl
    | .ok (.file address file) =>
      by_cases hsize : file.size = 0
      · simp [hsize]
      · simp [hsize, Finding.file?]

theorem files_verdict (suffixes : List Text) (locate : Text → Except FileFault Target)
    (hpath : ∀ name ∈ path, name ≠ []) :
    (verdict suffixes locate [] path).filterMap Finding.file? =
      if keeps suffixes locate path then [Path.ofComponents path] else [] := by
  rw [verdict, file?_judge, foldl_below_nil hpath]
  rfl

/-- The files of a walk are the entries that it keeps and that have no ignored name on their way. -/
theorem files_walk (hproper : directory.Proper) (filter : Filter)
    (locate : Text → Except FileFault Target) :
    (walk filter locate [] directory).filterMap Finding.file? =
      (((directory.leaves.map Prod.fst).filter (noneIgnored filter.patterns)).filter
        (keeps filter.suffixes locate)).map Path.ofComponents := by
  rw [walk_eq, List.filterMap_flatMap]
  have hnames : ∀ path ∈ (directory.leaves.map Prod.fst).filter (noneIgnored filter.patterns),
      ∀ name ∈ path, name ≠ [] := by
    intro path hpath name hname
    obtain ⟨leaf, hleaf, rfl⟩ := List.mem_map.mp (List.mem_of_mem_filter hpath)
    exact (hproper.names_of_holds (Directory.mem_leaves_iff.mp hleaf).1 name hname).ne_nil
  generalize (directory.leaves.map Prod.fst).filter (noneIgnored filter.patterns) = paths
    at hnames ⊢
  induction paths with
  | nil => rfl
  | cons path later ih =>
    rw [List.flatMap_cons, files_verdict _ _ (hnames path List.mem_cons_self),
      ih fun other hother => hnames other (List.mem_cons_of_mem _ hother)]
    by_cases hkept : keeps filter.suffixes locate path = true
    · rw [if_pos hkept, List.filter_cons_of_pos hkept]
      rfl
    · rw [if_neg hkept, List.filter_cons_of_neg hkept]
      rfl

end

end SourceBlocks.Discovery
