import SourceBlocks.Extension

/-!
# Names in paths

A path is made of names, which hold no slash, and the names can be read back.  What counts as the
extension of a path is a matter of its last name alone.  The suffix of a name and its extension
differ only for names that begin or end with a dot.

A module path is what a path keeps when a folder at its front and its extension are taken off.
-/

namespace SourceBlocks.Path

/-- A text that may name an entry of a directory. -/
structure IsName (name : Text) : Prop where
  ne_nil : name ≠ []
  no_slash : '/' ∉ name

instance (name : Text) : Decidable (IsName name) :=
  decidable_of_iff (name ≠ [] ∧ '/' ∉ name)
    ⟨fun h => ⟨h.1, h.2⟩, fun h => ⟨h.ne_nil, h.no_slash⟩⟩

variable {name path : Text} {names others : List Text}

/-! ## Pieces -/

theorem pieces_of_no_slash (h : '/' ∉ name) : pieces name = [name] := by
  induction name with
  | nil => rfl
  | cons c rest ih =>
    rw [List.mem_cons, not_or] at h
    rw [pieces, if_neg (Ne.symm h.1), ih h.2]

theorem pieces_append_slash (h : '/' ∉ name) (rest : Text) :
    pieces (name ++ '/' :: rest) = name :: pieces rest := by
  induction name with
  | nil => rfl
  | cons c letters ih =>
    rw [List.mem_cons, not_or] at h
    rw [List.cons_append, pieces, if_neg (Ne.symm h.1), ih h.2]

/-- The names that a path is made of are its pieces. -/
theorem pieces_ofComponents (hne : names ≠ []) (hnames : ∀ name ∈ names, '/' ∉ name) :
    pieces (ofComponents names) = names := by
  induction names with
  | nil => exact absurd rfl hne
  | cons name later ih =>
    have hname : '/' ∉ name := hnames name List.mem_cons_self
    cases later with
    | nil => exact pieces_of_no_slash hname
    | cons next later =>
      rw [ofComponents, pieces_append_slash hname,
        ih (List.cons_ne_nil _ _) fun other hother => hnames other (List.mem_cons_of_mem _ hother)]

theorem ofComponents_cons (name : Text) (names : List Text) :
    ofComponents (name :: names) = name ++ names.flatMap fun later => '/' :: later := by
  induction names generalizing name with
  | nil => simp [ofComponents]
  | cons next names ih => rw [ofComponents, ih, List.flatMap_cons, List.cons_append]

theorem ofComponents_concat (first : Text) (names : List Text) (last : Text) :
    ofComponents (first :: (names ++ [last])) = ofComponents (first :: names) ++ '/' :: last := by
  rw [ofComponents_cons, ofComponents_cons, List.flatMap_append, List.append_assoc]
  simp

/-! ## The last slash and the last dot -/

theorem ne_of_mem_reverse {mark : Char} {t : Text} (h : mark ∉ t) :
    ∀ c ∈ t.reverse, decide (c ≠ mark) = true := by
  intro c hc
  apply decide_eq_true
  rintro rfl
  exact h (List.mem_reverse.mp hc)

theorem exists_last_of_mem {mark : Char} {t : Text} (h : mark ∈ t) :
    ∃ front back, t = front ++ mark :: back ∧ mark ∉ back := by
  obtain ⟨back, front, hsplit, hback⟩ := List.eq_append_cons_of_mem (List.mem_reverse.mpr h)
  refine ⟨front.reverse, back.reverse, ?_, fun hmem => hback (List.mem_reverse.mp hmem)⟩
  rw [← List.reverse_reverse t, hsplit]
  simp

/-- A text that whole names may follow: nothing, or one that ends with a slash. -/
def IsFolder (folder : Text) : Prop :=
  folder = [] ∨ folder.getLast? = some '/'

variable {folder : Text}

theorem isFolder_concat (front : Text) : IsFolder (front ++ ['/']) :=
  Or.inr List.getLast?_concat

theorem IsFolder.cons_or (h : IsFolder folder) (c : Char) : folder = [] ∨ IsFolder (c :: folder) := by
  rcases h with hnil | hlast
  · exact Or.inl hnil
  · obtain ⟨front, rfl⟩ := List.getLast?_eq_some_iff.mp hlast
    exact Or.inr (isFolder_concat (c :: front))

/-- A path is a folder with a name after it. -/
theorem exists_folder_name (path : Text) :
    ∃ folder name, path = folder ++ name ∧ IsFolder folder ∧ '/' ∉ name := by
  by_cases hslash : '/' ∈ path
  · obtain ⟨front, name, rfl, hname⟩ := exists_last_of_mem hslash
    refine ⟨front ++ ['/'], name, ?_, isFolder_concat front, hname⟩
    rw [List.append_assoc, List.singleton_append]
  · exact ⟨[], path, rfl, Or.inl rfl, hslash⟩

theorem reversedName_of_no_slash (h : '/' ∉ name) : reversedName name = name.reverse := by
  rw [reversedName, ← List.append_nil name.reverse,
    List.takeWhile_append_of_pos (ne_of_mem_reverse h), List.takeWhile_nil]

theorem reversedName_folder_append (h : IsFolder folder) (path : Text) :
    reversedName (folder ++ path) = reversedName path := by
  have hfolder : folder.reverse.takeWhile (fun c => decide (c ≠ '/')) = [] := by
    rcases h with rfl | hlast
    · rfl
    · obtain ⟨front, rfl⟩ := List.getLast?_eq_some_iff.mp hlast
      rw [List.reverse_append, List.reverse_singleton, List.singleton_append,
        List.takeWhile_cons_of_neg (by decide)]
  rw [reversedName, reversedName, List.reverse_append, List.takeWhile_append, hfolder,
    List.append_nil]
  split
  next hall => exact ((List.takeWhile_prefix _).eq_of_length hall).symm
  next => rfl

/-! ## Extensions -/

/-- What stands before the last name does not matter to the extension. -/
theorem extension_folder_append (h : IsFolder folder) (path : Text) :
    extension (folder ++ path) = extension path := by
  rw [extension, extension, reversedName_folder_append h]

/-- The extension of a path is that of its last name. -/
theorem extension_ofComponents_concat (names : List Text) (name : Text) :
    extension (ofComponents (names ++ [name])) = extension name := by
  cases names with
  | nil => rfl
  | cons first names =>
    have hsplit : ofComponents (first :: (names ++ [name])) =
        (ofComponents (first :: names) ++ ['/']) ++ name := by
      rw [ofComponents_concat, List.append_assoc, List.singleton_append]
    rw [List.cons_append, hsplit, extension_folder_append (isFolder_concat _)]

/-- Reading a name backwards up to its last dot gives the letters after the dot. -/
theorem takeWhile_reverse_append_dot (stem : Text) {letters : Text} (h : '.' ∉ letters) :
    (stem ++ '.' :: letters).reverse.takeWhile (fun c => decide (c ≠ '.')) = letters.reverse := by
  rw [List.reverse_append, List.reverse_cons, List.append_assoc,
    List.takeWhile_append_of_pos (ne_of_mem_reverse h), List.singleton_append,
    List.takeWhile_cons_of_neg (by decide), List.append_nil]

theorem drop_reverse_append_dot (stem letters : Text) :
    (stem ++ '.' :: letters).reverse.drop (letters.reverse.length + 1) = stem.reverse := by
  rw [List.reverse_append, List.reverse_cons, List.append_assoc, ← List.drop_drop,
    List.drop_left]
  rfl

/-- An extension begins at the last dot of a name, unless nothing but dots stands before it. -/
theorem extension_append_dot {stem letters : Text} (hletters : '.' ∉ letters)
    (hslash : '/' ∉ stem ++ '.' :: letters) :
    extension (stem ++ '.' :: letters) =
      if stem.any (fun c => decide (c ≠ '.')) then '.' :: letters else [] := by
  have hshort : letters.reverse.length < (stem ++ '.' :: letters).reverse.length := by
    rw [List.length_reverse, List.length_reverse, List.length_append, List.length_cons]
    omega
  have hany : stem.reverse.any (fun c => decide (c ≠ '.')) =
      stem.any (fun c => decide (c ≠ '.')) := List.any_reverse
  simp only [extension, reversedName_of_no_slash hslash, takeWhile_reverse_append_dot stem hletters,
    drop_reverse_append_dot, decide_eq_true hshort, hany, Bool.true_and, List.reverse_reverse]

/-- A suffix begins at the last dot of a name, unless this is the first or the last character. -/
theorem suffix_append_dot {stem letters : Text} (hletters : '.' ∉ letters) :
    suffix (stem ++ '.' :: letters) =
      if letters.isEmpty || stem.isEmpty then [] else '.' :: letters := by
  simp only [suffix, takeWhile_reverse_append_dot stem hletters, drop_reverse_append_dot,
    List.isEmpty_reverse, List.reverse_reverse]

theorem takeWhile_reverse_of_no_dot (h : '.' ∉ name) :
    name.reverse.takeWhile (fun c => decide (c ≠ '.')) = name.reverse := by
  rw [← List.append_nil name.reverse, List.takeWhile_append_of_pos (ne_of_mem_reverse h),
    List.takeWhile_nil]

theorem extension_of_no_dot (hdot : '.' ∉ name) (hslash : '/' ∉ name) : extension name = [] := by
  simp only [extension, reversedName_of_no_slash hslash, takeWhile_reverse_of_no_dot hdot,
    Nat.lt_irrefl, decide_false, Bool.false_and, if_neg Bool.false_ne_true]

theorem suffix_of_no_dot (hdot : '.' ∉ name) : suffix name = [] := by
  have hdrop : name.reverse.drop (name.reverse.length + 1) = [] :=
    List.drop_eq_nil_of_le (Nat.le_succ _)
  simp only [suffix, takeWhile_reverse_of_no_dot hdot, hdrop, List.isEmpty_nil, Bool.or_true,
    if_true]

/-- A path without an extension ends with a name that has no dot, or in which only dots stand
before the last dot. -/
theorem extension_cases (path : Text) :
    (∃ folder name, path = folder ++ name ∧ IsFolder folder ∧ '/' ∉ name ∧ '.' ∉ name) ∨
      ∃ folder stem letters, path = folder ++ (stem ++ '.' :: letters) ∧ IsFolder folder ∧
        '/' ∉ stem ++ '.' :: letters ∧ '.' ∉ letters ∧
        extension path = if stem.any (fun c => decide (c ≠ '.')) then '.' :: letters else [] := by
  obtain ⟨folder, name, rfl, hfolder, hslash⟩ := exists_folder_name path
  by_cases hdot : '.' ∈ name
  · obtain ⟨stem, letters, rfl, hletters⟩ := exists_last_of_mem hdot
    refine Or.inr ⟨folder, stem, letters, rfl, hfolder, hslash, hletters, ?_⟩
    rw [extension_folder_append hfolder, extension_append_dot hletters hslash]
  · exact Or.inl ⟨folder, name, rfl, hfolder, hslash, hdot⟩

/-- An extension is empty or a dot with letters after it, which end the path. -/
theorem extension_eq_nil_or (path : Text) :
    extension path = [] ∨ ∃ front letters, path = front ++ '.' :: letters ∧
      extension path = '.' :: letters ∧ '.' ∉ letters ∧ '/' ∉ letters := by
  rcases extension_cases path with ⟨folder, name, rfl, hfolder, hslash, hdot⟩ |
    ⟨folder, stem, letters, rfl, hfolder, hslash, hletters, hextension⟩
  · left
    rw [extension_folder_append hfolder, extension_of_no_dot hdot hslash]
  · rw [hextension]
    split
    · refine Or.inr ⟨folder ++ stem, letters, ?_, rfl, hletters, fun hmem => hslash (by simp [hmem])⟩
      rw [List.append_assoc]
    · exact Or.inl rfl

theorem head?_extension (h : extension path ≠ []) : (extension path).head? = some '.' := by
  rcases extension_eq_nil_or path with hnil | ⟨front, letters, -, hextension, -, -⟩
  · exact absurd hnil h
  · rw [hextension]
    rfl

theorem extension_of_dot_first {letters : Text} (hdot : '.' ∉ letters) (hslash : '/' ∉ letters) :
    extension ('.' :: letters) = [] := by
  have hslash' : '/' ∉ [] ++ '.' :: letters := by simpa using hslash
  exact extension_append_dot hdot hslash'

/-- An extension has no extension of its own. -/
theorem extension_extension (path : Text) : extension (extension path) = [] := by
  rcases extension_eq_nil_or path with hnil | ⟨front, letters, -, hextension, hdot, hslash⟩
  · rw [hnil]
    rfl
  · rw [hextension]
    exact extension_of_dot_first hdot hslash

theorem extension_cons_dot (h : extension path = []) : extension ('.' :: path) = [] := by
  -- Without a folder the dot becomes part of the last name, but it is no letter of a stem.
  rcases extension_cases path with ⟨folder, name, rfl, hfolder, hslash, hdot⟩ |
    ⟨folder, stem, letters, rfl, hfolder, hslash, hletters, hextension⟩
  · rcases hfolder.cons_or '.' with rfl | hfolder
    · exact extension_of_dot_first hdot hslash
    · rw [← List.cons_append, extension_folder_append hfolder, extension_of_no_dot hdot hslash]
  · rcases hfolder.cons_or '.' with rfl | hfolder
    · have hslash' : '/' ∉ '.' :: stem ++ '.' :: letters := by simpa using hslash
      rw [List.nil_append, ← List.cons_append, extension_append_dot hletters hslash',
        List.any_cons, decide_eq_false (not_not_intro rfl), Bool.false_or, ← hextension, h]
    · rw [← List.cons_append, extension_folder_append hfolder,
        extension_append_dot hletters hslash, ← hextension, h]

theorem extension_of_stem {stem letters : Text} (hfolder : IsFolder folder) (hstem : '/' ∉ stem)
    (hletter : ∃ c ∈ stem, c ≠ '.') (hdot : '.' ∉ letters) (hslash : '/' ∉ letters) :
    extension (folder ++ stem ++ '.' :: letters) = '.' :: letters := by
  have hname : '/' ∉ stem ++ '.' :: letters := by
    rw [List.mem_append, List.mem_cons, not_or, not_or]
    exact ⟨hstem, by decide, hslash⟩
  have hany : stem.any (fun c => decide (c ≠ '.')) = true := by simpa using hletter
  rw [List.append_assoc, extension_folder_append hfolder,
    extension_append_dot hdot hname, if_pos hany]

/-- For a name that does not begin with a dot, the suffix is the extension unless the name ends
with a dot. -/
theorem suffix_cases (hslash : '/' ∉ name) (hfirst : name.head? ≠ some '.') :
    suffix name = extension name ∨ suffix name = [] ∧ extension name = ['.'] := by
  by_cases hdot : '.' ∈ name
  · obtain ⟨stem, letters, rfl, hletters⟩ := exists_last_of_mem hdot
    rw [suffix_append_dot hletters, extension_append_dot hletters hslash]
    -- The first character of the name belongs to the stem, and is no dot.
    cases stem with
    | nil => exact absurd rfl hfirst
    | cons c rest =>
      have hc : c ≠ '.' := fun heq => hfirst (congrArg some heq)
      have hany : (c :: rest).any (fun c => decide (c ≠ '.')) = true :=
        List.any_eq_true.mpr ⟨c, List.mem_cons_self, decide_eq_true hc⟩
      rw [if_pos hany]
      cases letters with
      | nil => exact Or.inr ⟨rfl, rfl⟩
      | cons => exact Or.inl rfl
  · exact Or.inl ((suffix_of_no_dot hdot).trans (extension_of_no_dot hdot hslash).symm)

/-! ## Module paths -/

/-- A path is its stem with its extension after it. -/
theorem stem_append_extension (path : Text) : stem path ++ extension path = path := by
  have hsuffix : extension path <:+ path := by
    rcases extension_eq_nil_or path with hnil | ⟨front, letters, hpath, hextension, -, -⟩
    · rw [hnil]
      exact List.nil_suffix
    · rw [hextension, hpath]
      exact List.suffix_append _ _
  obtain ⟨front, hfront⟩ := hsuffix
  have hlength : path.length - (extension path).length = front.length := by
    rw [← congrArg List.length hfront, List.length_append, Nat.add_sub_cancel]
  have htake : path.take front.length = front := by
    rw [← congrArg (List.take front.length) hfront, List.take_left]
  rw [stem, hlength, htake, hfront]

theorem modulePath_append (rootPrefix rest : Text) :
    modulePath (rootPrefix ++ rest) rootPrefix = stem rest := by
  have hbegins : rootPrefix.isPrefixOf (rootPrefix ++ rest) = true :=
    List.isPrefixOf_iff_prefix.mpr (List.prefix_append _ _)
  cases rootPrefix with
  | nil => rfl
  | cons c letters =>
    rw [modulePath, hbegins, List.isEmpty_cons, Bool.not_false, Bool.true_and, if_pos rfl,
      List.drop_left]

theorem modulePath_of_not_isPrefix {path rootPrefix : Text} (h : ¬ rootPrefix <+: path) :
    modulePath path rootPrefix = stem path := by
  have hbegins : rootPrefix.isPrefixOf path = false := by
    rw [Bool.eq_false_iff, Ne, List.isPrefixOf_iff_prefix]
    exact h
  rw [modulePath, hbegins, Bool.and_false, if_neg Bool.false_ne_true]

/-- The prefix of a root directory, the module path and the extension put together are the path. -/
theorem append_modulePath_append_extension {rootPrefix : Text} (h : IsFolder rootPrefix)
    (path : Text) :
    (if rootPrefix <+: path then rootPrefix else []) ++ modulePath path rootPrefix ++
      extension path = path := by
  split
  next hbegins =>
    obtain ⟨rest, rfl⟩ := hbegins
    rw [modulePath_append, extension_folder_append h, List.append_assoc, stem_append_extension]
  next hbegins =>
    rw [modulePath_of_not_isPrefix hbegins, List.nil_append, stem_append_extension]

/-- A module path lacks nothing of its path but the prefix of the root directory and the extension
that the whole path has, so with these two it determines the path. -/
theorem modulePath_loses_ends (path rootPrefix : Text)
    (hfolder : rootPrefix = [] ∨ rootPrefix.getLast? = some '/') :
    path = (if rootPrefix <+: path then rootPrefix else []) ++ modulePath path rootPrefix ++
        extension path ∧
      (∀ rest, path = rootPrefix ++ rest → extension rest = extension path) ∧
      ∀ other, (rootPrefix <+: other ↔ rootPrefix <+: path) → extension other = extension path →
        modulePath other rootPrefix = modulePath path rootPrefix → other = path := by
  have hpath := append_modulePath_append_extension hfolder path
  refine ⟨hpath.symm, ?_, ?_⟩
  · rintro rest rfl
    exact (extension_folder_append hfolder rest).symm
  · intro other hstatus hextension hmodule
    have hother := append_modulePath_append_extension hfolder other
    simp only [hextension, hmodule, hstatus] at hother
    exact hother.symm.trans hpath

/-- A path below the root directory whose last name begins with a dot and has two more. -/
def dottedPath : Text := "src/.cfg/.app.d.TS".toList

theorem modulePath_loses_ends_dotted :
    ("src/".toList = [] ∨ "src/".toList.getLast? = some '/') ∧
      modulePath dottedPath "src/".toList = ".cfg/.app.d".toList ∧
      extension dottedPath = ".TS".toList ∧
      dottedPath = (if "src/".toList <+: dottedPath then "src/".toList else []) ++
        modulePath dottedPath "src/".toList ++ extension dottedPath ∧
      extension ".cfg/.app.d.TS".toList = extension dottedPath ∧
      ("src/".toList <+: "src/app.TS".toList ↔ "src/".toList <+: dottedPath) ∧
      extension "src/app.TS".toList = extension dottedPath ∧
      modulePath "src/app.TS".toList "src/".toList ≠ modulePath dottedPath "src/".toList := by
  have hfolder : "src/".toList = [] ∨ "src/".toList.getLast? = some '/' := by decide
  have hstatus : "src/".toList <+: "src/app.TS".toList ↔ "src/".toList <+: dottedPath := by decide
  have hextension : extension "src/app.TS".toList = extension dottedPath := by decide
  obtain ⟨hsplit, hrest, hother⟩ := modulePath_loses_ends dottedPath "src/".toList hfolder
  refine ⟨hfolder, by decide, by decide, hsplit, hrest _ rfl, hstatus, hextension, ?_⟩
  intro hmodule
  exact absurd (hother _ hstatus hextension hmodule) (by decide)

end SourceBlocks.Path
