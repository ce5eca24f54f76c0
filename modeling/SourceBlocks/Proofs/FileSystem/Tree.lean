import Mathlib.Data.List.Nodup
import SourceBlocks.FileSystem.Resolution
import SourceBlocks.Proofs.Path

/-!
# Directory trees

What a directory holds at a path, and the directories that a file system can have: names that
differ and hold no slash.  Two listings of one tree differ in the order of entries alone; a path
leads to the same file in both.
-/

namespace SourceBlocks

/-- An entry stands at a path, which leads through directories only, never through links. -/
inductive Directory.Holds : Directory → List Text → Entry → Prop where
  | entry {directory : Directory} {name : Text} {entry : Entry} :
      (name, entry) ∈ directory → Holds directory [name] entry
  | within {directory inner : Directory} {name : Text} {path : List Text} {entry : Entry} :
      (name, .directory inner) ∈ directory → Holds inner path entry →
        Holds directory (name :: path) entry

/-- The names in a directory differ and name something, there and further in. -/
inductive Directory.Proper : Directory → Prop where
  | intro {directory : Directory} :
      (directory.map Prod.fst).Nodup → (∀ name ∈ directory.map Prod.fst, Path.IsName name) →
        (∀ name inner, (name, .directory inner) ∈ directory → Proper inner) → Proper directory

/-- The same tree with its entries listed in some other order. -/
inductive Directory.Relisted : Directory → Directory → Prop where
  | nil : Relisted [] []
  | keep (named : Text × Entry) {directory other : Directory} :
      Relisted directory other → Relisted (named :: directory) (named :: other)
  | within (name : Text) {inner inner' directory other : Directory} :
      Relisted inner inner' → Relisted directory other →
        Relisted ((name, .directory inner) :: directory) ((name, .directory inner') :: other)
  | swap (first second : Text × Entry) (directory : Directory) :
      Relisted (first :: second :: directory) (second :: first :: directory)
  | trans {directory between other : Directory} :
      Relisted directory between → Relisted between other → Relisted directory other

/-- What two listings of one directory have under a name: nothing, the same file or link, or proper
directories that are listed in different orders. -/
inductive Entry.Alike : Option Entry → Option Entry → Prop where
  | absent : Alike none none
  | file (file : StoredFile) : Alike (some (.file file)) (some (.file file))
  | link (target : Text) : Alike (some (.link target)) (some (.link target))
  | directory {inner other : Directory} :
      Directory.Proper inner → Directory.Relisted inner other →
        Alike (some (.directory inner)) (some (.directory other))

/-- The paths of all entries that are no directories. -/
def Directory.leaves : Directory → List (List Text × Entry)
  | [] => []
  | (name, .directory entries) :: rest =>
    (leaves entries).map (fun leaf => (name :: leaf.1, leaf.2)) ++ leaves rest
  | (name, entry) :: rest => ([name], entry) :: leaves rest

namespace Directory

variable {directory other inner : Directory} {name : Text} {path : List Text} {entry : Entry}

/-! ## What a directory holds -/

theorem not_holds_nil : ¬ Holds [] path entry := by
  intro h
  cases h with
  | entry hmem => cases hmem
  | within hmem => cases hmem

theorem holds_cons_iff {named : Text × Entry} :
    Holds (named :: directory) path entry ↔
      path = [named.1] ∧ entry = named.2 ∨
      (∃ inner later, named.2 = .directory inner ∧ path = named.1 :: later ∧
        Holds inner later entry) ∨
      Holds directory path entry := by
  constructor
  · intro h
    cases h with
    | entry hmem =>
      rcases List.mem_cons.mp hmem with rfl | hmem
      · exact Or.inl ⟨rfl, rfl⟩
      · exact Or.inr (Or.inr (Holds.entry hmem))
    | within hmem hinner =>
      rcases List.mem_cons.mp hmem with rfl | hmem
      · exact Or.inr (Or.inl ⟨_, _, rfl, rfl, hinner⟩)
      · exact Or.inr (Or.inr (Holds.within hmem hinner))
  · obtain ⟨name, own⟩ := named
    rintro (⟨rfl, rfl⟩ | ⟨inner, later, rfl, rfl, hinner⟩ | h)
    · exact Holds.entry List.mem_cons_self
    · exact Holds.within List.mem_cons_self hinner
    · cases h with
      | entry hmem => exact Holds.entry (List.mem_cons_of_mem _ hmem)
      | within hmem hinner => exact Holds.within (List.mem_cons_of_mem _ hmem) hinner

theorem Holds.exists_head (h : Holds directory path entry) :
    ∃ name later, path = name :: later ∧ name ∈ directory.map Prod.fst := by
  cases h with
  | entry hmem => exact ⟨_, _, rfl, List.mem_map_of_mem hmem⟩
  | within hmem => exact ⟨_, _, rfl, List.mem_map_of_mem hmem⟩

theorem mem_leaves_iff :
    (path, entry) ∈ leaves directory ↔
      Holds directory path entry ∧ ∀ entries, entry ≠ .directory entries := by
  induction directory using leaves.induct generalizing path with
  | case1 => simp [leaves, not_holds_nil]
  | case2 name entries rest ihinner ihrest =>
    rw [leaves, List.mem_append, ihrest, holds_cons_iff, List.mem_map]
    constructor
    · rintro (⟨⟨later, own⟩, hleaf, heq⟩ | ⟨hrest, hentry⟩)
      · obtain ⟨rfl, rfl⟩ := Prod.mk.inj heq
        obtain ⟨hinner, hentry⟩ := ihinner.mp hleaf
        exact ⟨Or.inr (Or.inl ⟨_, _, rfl, rfl, hinner⟩), hentry⟩
      · exact ⟨Or.inr (Or.inr hrest), hentry⟩
    · rintro ⟨⟨rfl, rfl⟩ | ⟨inner, later, hinner, rfl, hlater⟩ | hrest, hentry⟩
      · exact absurd rfl (hentry entries)
      · obtain rfl := Entry.directory.inj hinner
        exact Or.inl ⟨(later, entry), ihinner.mpr ⟨hlater, hentry⟩, rfl⟩
      · exact Or.inr ⟨hrest, hentry⟩
  | case3 name own rest hown ihrest =>
    rw [leaves, List.mem_cons, ihrest, holds_cons_iff, Prod.mk.injEq]
    · constructor
      · rintro (⟨rfl, rfl⟩ | ⟨hrest, hentry⟩)
        · exact ⟨Or.inl ⟨rfl, rfl⟩, hown⟩
        · exact ⟨Or.inr (Or.inr hrest), hentry⟩
      · rintro ⟨⟨rfl, rfl⟩ | ⟨inner, later, hinner, -⟩ | hrest, hentry⟩
        · exact Or.inl ⟨rfl, rfl⟩
        · exact absurd hinner (hown inner)
        · exact Or.inr ⟨hrest, hentry⟩
    · exact hown

theorem map_fst_leaves_cons (name : Text) (entries rest : Directory) :
    (leaves ((name, .directory entries) :: rest)).map Prod.fst =
      ((leaves entries).map Prod.fst).map (name :: ·) ++ (leaves rest).map Prod.fst := by
  rw [leaves, List.map_append, List.map_map, List.map_map]
  rfl

/-! ## Proper directories -/

theorem Proper.nodup (h : Proper directory) : (directory.map Prod.fst).Nodup := by
  cases h with
  | intro hnodup => exact hnodup

theorem Proper.isName (h : Proper directory) (hname : name ∈ directory.map Prod.fst) :
    Path.IsName name := by
  cases h with
  | intro _ hnames => exact hnames name hname

theorem Proper.subdirectory (h : Proper directory) (hmem : (name, .directory inner) ∈ directory) :
    Proper inner := by
  cases h with
  | intro _ _ hinner => exact hinner name inner hmem

theorem Proper.nil : Proper [] := by
  apply Proper.intro
  · exact List.nodup_nil
  · intro name hname
    cases hname
  · intro name inner hmem
    cases hmem

theorem Proper.tail {named : Text × Entry} (h : Proper (named :: directory)) :
    Proper directory := by
  apply Proper.intro
  · exact (List.nodup_cons.mp h.nodup).2
  · intro name hname
    exact h.isName (List.mem_cons_of_mem _ hname)
  · intro name inner hmem
    exact h.subdirectory (List.mem_cons_of_mem _ hmem)

theorem proper_cons_iff : Proper ((name, entry) :: directory) ↔
    Path.IsName name ∧ name ∉ directory.map Prod.fst ∧
      (∀ inner, entry = .directory inner → Proper inner) ∧ Proper directory := by
  constructor
  · intro h
    refine ⟨h.isName List.mem_cons_self, (List.nodup_cons.mp h.nodup).1, ?_, h.tail⟩
    rintro inner rfl
    exact h.subdirectory List.mem_cons_self
  · rintro ⟨hname, hnew, hinner, hrest⟩
    apply Proper.intro
    · exact List.nodup_cons.mpr ⟨hnew, hrest.nodup⟩
    · intro other hother
      rcases List.mem_cons.mp hother with rfl | hother
      · exact hname
      · exact hrest.isName hother
    · intro other inner hmem
      rcases List.mem_cons.mp hmem with heq | hmem
      · exact hinner inner (Prod.mk.inj heq).2.symm
      · exact hrest.subdirectory hmem

theorem Proper.names_of_holds (h : Proper directory) (hholds : Holds directory path entry) :
    ∀ name ∈ path, Path.IsName name := by
  induction hholds with
  | entry hmem =>
    intro name hname
    obtain rfl := List.mem_singleton.mp hname
    exact h.isName (List.mem_map_of_mem hmem)
  | within hmem _ ih =>
    intro name hname
    rcases List.mem_cons.mp hname with rfl | hname
    · exact h.isName (List.mem_map_of_mem hmem)
    · exact ih (h.subdirectory hmem) name hname

/-- The path of an entry tells its names. -/
theorem Proper.pieces_of_holds (h : Proper directory) (hholds : Holds directory path entry) :
    Path.pieces (Path.ofComponents path) = path := by
  obtain ⟨name, later, hpath, -⟩ := hholds.exists_head
  apply Path.pieces_ofComponents
  · rw [hpath]
    exact List.cons_ne_nil _ _
  · intro name hname
    exact (h.names_of_holds hholds name hname).no_slash

/-- No two entries of a proper directory stand at one path. -/
theorem Proper.nodup_leaves (h : Proper directory) : (directory.leaves.map Prod.fst).Nodup := by
  -- The paths of different entries begin with different names.
  have hapart : ∀ {named : Text × Entry} {rest : Directory}, Proper (named :: rest) →
      ∀ later, named.1 :: later ∉ rest.leaves.map Prod.fst := by
    intro named rest hproper later hmem
    obtain ⟨⟨path, entry⟩, hleaf, rfl⟩ := List.mem_map.mp hmem
    obtain ⟨name, own, hpath, hname⟩ := (mem_leaves_iff.mp hleaf).1.exists_head
    obtain ⟨rfl, -⟩ := List.cons.inj hpath
    exact (List.nodup_cons.mp hproper.nodup).1 hname
  induction directory using leaves.induct with
  | case1 =>
    rw [leaves]
    exact List.nodup_nil
  | case2 name entries rest ihinner ihrest =>
    rw [map_fst_leaves_cons, List.nodup_append]
    refine ⟨?_, ihrest h.tail, ?_⟩
    · exact (ihinner (h.subdirectory List.mem_cons_self)).map fun _ _ => List.tail_eq_of_cons_eq
    · rintro path hpath _ hother rfl
      obtain ⟨later, -, rfl⟩ := List.mem_map.mp hpath
      exact hapart h later hother
  | case3 name own rest hown ihrest =>
    rw [leaves, List.map_cons, List.nodup_cons]
    · exact ⟨hapart h [], ihrest h.tail⟩
    · exact hown

/-! ## Listings -/

theorem Relisted.refl (directory : Directory) : Relisted directory directory := by
  induction directory with
  | nil => exact Relisted.nil
  | cons named directory ih => exact Relisted.keep named ih

theorem Relisted.symm (h : Relisted directory other) : Relisted other directory := by
  induction h with
  | nil => exact Relisted.nil
  | keep named _ ih => exact Relisted.keep named ih
  | within name _ _ ihinner ih => exact Relisted.within name ihinner ih
  | swap first second directory => exact Relisted.swap second first directory
  | trans _ _ ihleft ihright => exact Relisted.trans ihright ihleft

theorem Relisted.names_perm (h : Relisted directory other) :
    (directory.map Prod.fst).Perm (other.map Prod.fst) := by
  induction h with
  | nil => exact List.Perm.nil
  | keep named _ ih => exact ih.cons named.1
  | within name _ _ _ ih => exact ih.cons name
  | swap first second directory => exact List.Perm.swap second.1 first.1 (directory.map Prod.fst)
  | trans _ _ ihleft ihright => exact ihleft.trans ihright

/-- A subdirectory of one listing is a subdirectory of the other. -/
theorem Relisted.exists_subdirectory (h : Relisted directory other)
    (hmem : (name, .directory inner) ∈ other) :
    ∃ own, (name, .directory own) ∈ directory ∧ Relisted own inner := by
  induction h generalizing inner with
  | nil => cases hmem
  | keep named _ ih =>
    rcases List.mem_cons.mp hmem with rfl | hmem
    · exact ⟨inner, List.mem_cons_self, Relisted.refl inner⟩
    · obtain ⟨own, hown, hinner⟩ := ih hmem
      exact ⟨own, List.mem_cons_of_mem _ hown, hinner⟩
  | within _ hsame _ _ ih =>
    rcases List.mem_cons.mp hmem with heq | hmem
    · obtain ⟨rfl, hentry⟩ := Prod.mk.inj heq
      obtain rfl := Entry.directory.inj hentry
      exact ⟨_, List.mem_cons_self, hsame⟩
    · obtain ⟨own, hown, hinner⟩ := ih hmem
      exact ⟨own, List.mem_cons_of_mem _ hown, hinner⟩
  | swap first second directory =>
    exact ⟨inner, (List.Perm.swap first second directory).mem_iff.mp hmem, Relisted.refl inner⟩
  | trans _ _ ihleft ihright =>
    obtain ⟨between, hbetween, hright⟩ := ihright hmem
    obtain ⟨own, hown, hleft⟩ := ihleft hbetween
    exact ⟨own, hown, hleft.trans hright⟩

theorem Relisted.proper (h : Relisted directory other) (hproper : Proper directory) :
    Proper other := by
  induction hproper generalizing other with
  | intro hnodup hnames _ ih =>
    apply Proper.intro
    · exact h.names_perm.nodup_iff.mp hnodup
    · intro name hname
      exact hnames name (h.names_perm.mem_iff.mpr hname)
    · intro name inner hmem
      obtain ⟨own, hown, hinner⟩ := h.exists_subdirectory hmem
      exact ih name own hown hinner

theorem Proper.lookup_alike (h : Proper directory) (name : Text) :
    Entry.Alike (directory.lookup name) (directory.lookup name) := by
  cases hfound : directory.lookup name with
  | none => exact Entry.Alike.absent
  | some entry =>
    cases entry with
    | file file => exact Entry.Alike.file file
    | link target => exact Entry.Alike.link target
    | directory inner =>
      obtain ⟨before, after, hsplit, -⟩ := List.lookup_eq_some_iff.mp hfound
      have hmem : (name, .directory inner) ∈ directory := by
        rw [hsplit]
        exact List.mem_append_right _ List.mem_cons_self
      exact Entry.Alike.directory (h.subdirectory hmem) (Relisted.refl inner)

theorem alike_trans {found between last : Option Entry} (hleft : Entry.Alike found between)
    (hright : Entry.Alike between last) : Entry.Alike found last := by
  cases hleft with
  | absent | file | link => exact hright
  | directory hproper hlisted =>
    cases hright with
    | directory _ hlater => exact Entry.Alike.directory hproper (hlisted.trans hlater)

/-- Both listings have the same entry under a name, but for the order of what stands below it. -/
theorem Relisted.lookup (h : Relisted directory other) (hproper : Proper directory) (name : Text) :
    Entry.Alike (directory.lookup name) (other.lookup name) := by
  induction h with
  | nil => exact Entry.Alike.absent
  | keep named _ ih =>
    obtain ⟨own, entry⟩ := named
    by_cases hname : name = own
    · subst hname
      simpa using hproper.lookup_alike name
    · rw [List.lookup_cons, List.lookup_cons, beq_eq_false_iff_ne.mpr hname]
      exact ih hproper.tail
  | within own hinner _ _ ih =>
    rw [List.lookup_cons, List.lookup_cons]
    split
    · exact Entry.Alike.directory (hproper.subdirectory List.mem_cons_self) hinner
    · exact ih hproper.tail
  | swap first second directory =>
    have hne : second.1 ≠ first.1 := fun heq =>
      (List.nodup_cons.mp hproper.nodup).1 (heq ▸ List.mem_cons_self)
    have hsame : (second :: first :: directory).lookup name =
        (first :: second :: directory).lookup name := by
      rw [List.lookup_cons, List.lookup_cons, List.lookup_cons, List.lookup_cons]
      by_cases hfirst : name = first.1
      · have hsecond : name ≠ second.1 := hfirst ▸ hne.symm
        rw [beq_iff_eq.mpr hfirst, beq_eq_false_iff_ne.mpr hsecond]
      · rw [beq_eq_false_iff_ne.mpr hfirst]
    rw [hsame]
    exact hproper.lookup_alike name
  | trans hleft _ ihleft ihright =>
    exact alike_trans (ihleft hproper) (ihright (hleft.proper hproper))

theorem leaves_cons (named : Text × Entry) (directory : Directory) :
    leaves (named :: directory) = leaves [named] ++ leaves directory := by
  obtain ⟨name, entry⟩ := named
  cases entry with
  | directory inner => rw [leaves, leaves, leaves, List.append_nil]
  | file file => simp [leaves]
  | link target => simp [leaves]

theorem Relisted.leaves_perm (h : Relisted directory other) :
    directory.leaves.Perm other.leaves := by
  induction h with
  | nil => exact List.Perm.refl _
  | @keep named directory other _ ih =>
    rw [leaves_cons named directory, leaves_cons named other]
    exact ih.append_left _
  | within name _ _ ihinner ih =>
    rw [leaves, leaves]
    exact (ihinner.map _).append ih
  | swap first second directory =>
    rw [leaves_cons first (second :: directory), leaves_cons second directory,
      leaves_cons second (first :: directory), leaves_cons first directory, ← List.append_assoc,
      ← List.append_assoc]
    exact List.perm_append_comm.append_right _
  | trans _ _ ihleft ihright => exact ihleft.trans ihright

/-- Both listings hold the same at each path, directories apart. -/
theorem Relisted.holds_iff (h : Relisted directory other)
    (hentry : ∀ entries, entry ≠ .directory entries) :
    Holds directory path entry ↔ Holds other path entry := by
  have hiff := h.leaves_perm.mem_iff (a := (path, entry))
  rw [mem_leaves_iff, mem_leaves_iff] at hiff
  constructor
  · intro hholds
    exact (hiff.mp ⟨hholds, hentry⟩).1
  · intro hholds
    exact (hiff.mpr ⟨hholds, hentry⟩).1

end Directory

/-! ## Resolution -/

/-- The same name on two trails, with a directory that is listed in different orders. -/
structure Trail.StepRelisted (own its : Text × Directory) : Prop where
  name_eq : own.1 = its.1
  proper : Directory.Proper own.2
  listed : Directory.Relisted own.2 its.2

/-- Two trails by the same names whose directories are listed in different orders. -/
structure Trail.Relisted (trail other : Trail) : Prop where
  below : List.Forall₂ Trail.StepRelisted trail.below other.below
  proper : trail.root.Proper
  root : Directory.Relisted trail.root other.root

/-- The same tree of directories, listed in some other order, with the same current directory. -/
structure FileSystem.Relisted (fs other : FileSystem) : Prop where
  root : Directory.Relisted fs.root other.root
  current_eq : other.current = fs.current

/-- A file system whose directories are proper. -/
def FileSystem.Proper (fs : FileSystem) : Prop :=
  fs.root.Proper

namespace Trail.Relisted

variable {trail other : Trail}

theorem address_eq (h : trail.Relisted other) : trail.address = other.address := by
  have hnames : ∀ {own its : List (Text × Directory)},
      List.Forall₂ Trail.StepRelisted own its → own.map Prod.fst = its.map Prod.fst := by
    intro own its hbelow
    induction hbelow with
    | nil => rfl
    | cons hsame _ ih => rw [List.map_cons, List.map_cons, hsame.name_eq, ih]
  rw [address, address, hnames h.below]

theorem up (h : trail.Relisted other) : trail.up.Relisted other.up where
  below := by
    have hbelow := h.below
    dsimp only [Trail.up]
    generalize trail.below = own at hbelow
    generalize other.below = its at hbelow
    cases hbelow with
    | nil => exact List.Forall₂.nil
    | cons _ hrest => exact hrest
  proper := h.proper
  root := h.root

theorem top (h : trail.Relisted other) : trail.top.Relisted other.top :=
  ⟨List.Forall₂.nil, h.proper, h.root⟩

theorem enter (h : trail.Relisted other) (name : Text) {inner inner' : Directory}
    (hproper : inner.Proper) (hinner : Directory.Relisted inner inner') :
    (trail.enter name inner).Relisted (other.enter name inner') :=
  ⟨List.Forall₂.cons ⟨rfl, hproper, hinner⟩ h.below, h.proper, h.root⟩

theorem linkStart (h : trail.Relisted other) (target : Text) :
    (trail.linkStart target).Relisted (other.linkStart target) := by
  rw [Trail.linkStart, Trail.linkStart]
  split
  · exact h.top
  · exact h

theorem here (h : trail.Relisted other) :
    trail.here.Proper ∧ Directory.Relisted trail.here other.here := by
  have hbelow := h.below
  rw [Trail.here, Trail.here]
  cases hown : trail.below with
  | nil =>
    rw [hown, List.forall₂_nil_left_iff] at hbelow
    rw [hbelow]
    exact ⟨h.proper, h.root⟩
  | cons named rest =>
    rw [hown, List.forall₂_cons_left_iff] at hbelow
    obtain ⟨its, later, hsame, -, hother⟩ := hbelow
    rw [hother]
    exact ⟨hsame.proper, hsame.listed⟩

theorem lookup (h : trail.Relisted other) (name : Text) :
    Entry.Alike (trail.here.lookup name) (other.here.lookup name) := by
  obtain ⟨hproper, hlisted⟩ := h.here
  exact hlisted.lookup hproper name

theorem descend (h : trail.Relisted other) (name : Text) :
    (trail.descend name).Relisted (other.descend name) := by
  have hempty : (trail.enter name []).Relisted (other.enter name []) :=
    h.enter name Directory.Proper.nil Directory.Relisted.nil
  have hsame := h.lookup name
  rw [Trail.descend, Trail.descend]
  generalize trail.here.lookup name = own at hsame ⊢
  generalize other.here.lookup name = its at hsame ⊢
  cases hsame with
  | absent | file | link => exact hempty
  | directory hproper hlisted => exact h.enter name hproper hlisted

end Trail.Relisted

namespace FileSystem

/-- A path leads to the same file, to the same free address or to a directory at the same place, or
fails in the same way. -/
inductive Agrees : Except FileFault Target → Except FileFault Target → Prop where
  | error (fault : FileFault) : Agrees (.error fault) (.error fault)
  | file (address : List Text) (file : StoredFile) :
      Agrees (.ok (.file address file)) (.ok (.file address file))
  | vacant (address : List Text) : Agrees (.ok (.vacant address)) (.ok (.vacant address))
  | directory {trail other : Trail} :
      trail.Relisted other → Agrees (.ok (.directory trail)) (.ok (.directory other))

/-- Trails that are listed in different orders lead to the same places, if they do so from the first
link on. -/
theorem resolveUpTo_agrees (purpose : Purpose)
    {follow : Trail → List Text → Except FileFault Target}
    (hfollow : ∀ {trail other : Trail}, trail.Relisted other → ∀ components,
      Agrees (follow trail components) (follow other components))
    {trail other : Trail} (h : trail.Relisted other) (components : List Text) :
    Agrees (resolveUpTo purpose follow trail components)
      (resolveUpTo purpose follow other components) := by
  induction components generalizing trail other with
  | nil => exact Agrees.directory h
  | cons name rest ih =>
    rw [resolveUpTo, resolveUpTo]
    split
    · exact ih h
    split
    · exact ih h.up
    split
    · exact Agrees.error _
    split
    · exact Agrees.error _
    -- The entries that the two trails have under the name decide.
    rw [h.address_eq]
    have hsame := h.lookup name
    generalize trail.here.lookup name = own at hsame
    generalize other.here.lookup name = its at hsame
    cases hsame with
    | absent =>
      dsimp only
      split
      · exact Agrees.vacant _
      · exact Agrees.error _
    | file file =>
      dsimp only
      split
      · exact Agrees.file _ _
      · exact Agrees.error _
    | link target => exact hfollow (h.linkStart target) _
    | directory hproper hlisted => exact ih (h.enter name hproper hlisted)

theorem resolveFrom_agrees (purpose : Purpose) (links : Nat) {trail other : Trail}
    (h : trail.Relisted other) (components : List Text) :
    Agrees (resolveFrom purpose links trail components)
      (resolveFrom purpose links other components) := by
  induction links generalizing trail other components with
  | zero => exact resolveUpTo_agrees purpose (fun _ _ => Agrees.error _) h components
  | succ links ih =>
    exact resolveUpTo_agrees purpose (fun hsame later => ih hsame later) h components

variable {fs other : FileSystem} {trail : Trail}

theorem Relisted.refl (fs : FileSystem) : fs.Relisted fs :=
  ⟨Directory.Relisted.refl fs.root, rfl⟩

theorem Relisted.symm (h : fs.Relisted other) : other.Relisted fs :=
  ⟨h.root.symm, h.current_eq.symm⟩

theorem Relisted.proper (h : fs.Relisted other) (hproper : fs.Proper) : other.Proper :=
  Directory.Relisted.proper h.root hproper

theorem Relisted.trailAt (h : fs.Relisted other) (hproper : fs.Proper) (address : List Text) :
    (fs.trailAt address).Relisted (other.trailAt address) := by
  have hfold : ∀ {trail its : Trail}, trail.Relisted its →
      (address.foldl Trail.descend trail).Relisted (address.foldl Trail.descend its) := by
    induction address with
    | nil => exact id
    | cons name later ih => exact fun hsame => ih (hsame.descend name)
  exact hfold ⟨List.Forall₂.nil, hproper, h.root⟩

/-- In a file system that is listed in another order every path leads to the same place. -/
theorem resolve_agrees (hproper : fs.Proper) (h : fs.Relisted other) (path : Text) :
    Agrees (fs.resolve path) (other.resolve path) := by
  have hstart : other.startOf path = fs.startOf path := by
    rw [startOf, startOf, h.current_eq]
  rw [resolve, resolve, hstart]
  split
  · exact Agrees.error _
  · exact resolveFrom_agrees _ _ (h.trailAt hproper _) _

/-- The directories that paths lead to are proper. -/
theorem proper_here (hproper : fs.Proper) {path : Text}
    (h : fs.resolve path = .ok (.directory trail)) : trail.here.Proper := by
  have hagrees := resolve_agrees hproper (Relisted.refl fs) path
  rw [h] at hagrees
  cases hagrees with
  | directory htrail => exact htrail.here.1

end FileSystem

end SourceBlocks
