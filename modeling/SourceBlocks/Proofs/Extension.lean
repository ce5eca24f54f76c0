import SourceBlocks.Extractor
import SourceBlocks.Proofs.Chunking.Placement
import SourceBlocks.Proofs.Grammar.Interleaving
import SourceBlocks.Proofs.LowerCase
import SourceBlocks.Proofs.Path

/-!
# Spellings of an extension

An extension may be given bare, with its dot, or at the end of a path.  All of these have one normal
form, which is its own normal form, so a registry finds under any spelling what was registered under
another, and it finds everything that it lists.
-/

namespace SourceBlocks

namespace Path

/-! ## Extensions of respelled paths -/

variable {folder s t u : Text} {c : Char}

namespace Respelled

theorem eq_nil (h : Respelled [] u) : u = [] := by
  cases h
  rfl

theorem of_append (h : Respelled (s ++ t) u) :
    ∃ s' t', u = s' ++ t' ∧ Respelled s s' ∧ Respelled t t' := by
  induction s generalizing u with
  | nil => exact ⟨[], u, rfl, .nil, h⟩
  | cons c s ih =>
    cases h with
    | mark hc hrest =>
      obtain ⟨s', t', rfl, hs, ht⟩ := ih hrest
      exact ⟨c :: s', t', rfl, .mark hc hs, ht⟩
    | @other _ image _ _ hc hne hfree hrest =>
      obtain ⟨s', t', rfl, hs, ht⟩ := ih hrest
      exact ⟨image ++ s', t', (List.append_assoc _ _ _).symm, .other hc hne hfree hs, ht⟩

theorem of_mark_cons (h : Respelled (c :: t) u) (hc : IsMark c) :
    ∃ u', u = c :: u' ∧ Respelled t u' := by
  cases h with
  | mark _ hrest => exact ⟨_, rfl, hrest⟩
  | other hother => exact absurd hc hother

theorem mem_iff (h : Respelled t u) (hc : IsMark c) : c ∈ u ↔ c ∈ t := by
  induction h with
  | nil => exact Iff.rfl
  | mark _ _ ih => rw [List.mem_cons, List.mem_cons, ih]
  | @other d image t u hd _ hfree _ ih =>
    have hne : c ≠ d := fun hsame => hd (hsame ▸ hc)
    have himage : c ∉ image := fun hmem => hfree c hmem hc
    rw [List.mem_append, List.mem_cons, ih, or_iff_right himage, or_iff_right hne]

theorem isFolder (h : Respelled folder u) (hfolder : IsFolder folder) : IsFolder u := by
  rcases hfolder with rfl | hlast
  · exact Or.inl h.eq_nil
  · obtain ⟨front, rfl⟩ := List.getLast?_eq_some_iff.mp hlast
    obtain ⟨front', back, rfl, -, hback⟩ := h.of_append
    obtain ⟨rest, rfl, hrest⟩ := hback.of_mark_cons (Or.inr rfl)
    cases hrest
    exact isFolder_concat front'

theorem any_ne_dot (h : Respelled t u) :
    u.any (fun c => decide (c ≠ '.')) = t.any (fun c => decide (c ≠ '.')) := by
  induction h with
  | nil => rfl
  | mark _ _ ih => rw [List.any_cons, List.any_cons, ih]
  | @other c image t u hc hne hfree _ _ =>
    have hletter : ∀ d, ¬ IsMark d → decide (d ≠ '.') = true := fun d hd =>
      decide_eq_true fun hdot => hd (Or.inl hdot)
    obtain ⟨d, hd⟩ := List.exists_mem_of_ne_nil image hne
    have himage : image.any (fun c => decide (c ≠ '.')) = true :=
      List.any_eq_true.mpr ⟨d, hd, hletter d (hfree d hd)⟩
    rw [List.any_append, himage, List.any_cons, hletter c hc, Bool.true_or, Bool.true_or]

/-- The extension of a respelled path is the respelled extension. -/
theorem extension (h : Respelled t u) : Respelled (Path.extension t) (Path.extension u) := by
  have hdot : IsMark '.' := Or.inl rfl
  have hslash : IsMark '/' := Or.inr rfl
  rcases extension_cases t with ⟨folder, name, rfl, hfolder, hname, hnone⟩ |
    ⟨folder, stem, letters, rfl, hfolder, hname, hletters, hextension⟩
  · obtain ⟨folder', name', rfl, hfolder', hname'⟩ := h.of_append
    have hnone' : '.' ∉ name' := fun hmem => hnone ((hname'.mem_iff hdot).mp hmem)
    have hslash' : '/' ∉ name' := fun hmem => hname ((hname'.mem_iff hslash).mp hmem)
    rw [extension_folder_append hfolder, extension_of_no_dot hnone hname,
      extension_folder_append (hfolder'.isFolder hfolder), extension_of_no_dot hnone' hslash']
    exact .nil
  · obtain ⟨folder', name', rfl, hfolder', hname'⟩ := h.of_append
    have hslash' : '/' ∉ name' := fun hmem => hname ((hname'.mem_iff hslash).mp hmem)
    obtain ⟨stem', back, rfl, hstem', hback⟩ := hname'.of_append
    obtain ⟨letters', rfl, hletters'⟩ := hback.of_mark_cons hdot
    have hfree : '.' ∉ letters' := fun hmem => hletters ((hletters'.mem_iff hdot).mp hmem)
    rw [hextension, extension_folder_append (hfolder'.isFolder hfolder),
      extension_append_dot hfree hslash', hstem'.any_ne_dot]
    split
    · exact hback
    · exact .nil

end Respelled

end Path

namespace Extension

variable {given key path letters : Text}

/-! ## The normal form -/

/-- A normal extension begins with its dot, has no extension of its own and is in lower case. -/
structure IsNormal (key : Text) : Prop where
  head?_eq : key.head? = some '.'
  extension_eq : Path.extension key = []
  lower_eq : Text.lower key = key

theorem normalize_of_extension_ne_nil (h : Path.extension path ≠ []) :
    normalize path = ofPath path := by
  rw [normalize, ofPath]
  split
  next hnil => exact absurd hnil h
  next => rfl

theorem normalize_of_extension_eq_nil (h : Path.extension given = []) :
    normalize given = Text.lower (if given.head? = some '.' then given else '.' :: given) := by
  rw [normalize, h]

theorem IsNormal.normalize_eq (h : IsNormal key) : normalize key = key := by
  rw [normalize_of_extension_eq_nil h.extension_eq, if_pos h.head?_eq, h.lower_eq]

/-- Lower case touches neither the first dot nor the want of an extension. -/
theorem isNormal_lower {t : Text} (hhead : t.head? = some '.') (hextension : Path.extension t = []) :
    IsNormal (Text.lower t) := by
  have hrespelled : Path.Respelled t (Text.lower t) := Path.respelled_lowerFrom false t
  refine ⟨?_, ?_, Text.lower_lower t⟩
  · obtain ⟨rest, rfl⟩ := List.head?_eq_some_iff.mp hhead
    obtain ⟨rest', hrest, -⟩ := hrespelled.of_mark_cons (Or.inl rfl)
    rw [hrest]
    rfl
  · have hbare := hrespelled.extension
    rw [hextension] at hbare
    exact hbare.eq_nil

theorem isNormal_normalize (given : Text) : IsNormal (normalize given) := by
  by_cases h : Path.extension given = []
  · rw [normalize_of_extension_eq_nil h]
    split
    next hhead => exact isNormal_lower hhead h
    next => exact isNormal_lower rfl (Path.extension_cons_dot h)
  · rw [normalize_of_extension_ne_nil h]
    exact isNormal_lower (Path.head?_extension h) (Path.extension_extension given)

theorem normalize_normalize (given : Text) : normalize (normalize given) = normalize given :=
  (isNormal_normalize given).normalize_eq

/-! ## The three spellings -/

theorem normalize_bare (hdot : '.' ∉ letters) (hslash : '/' ∉ letters) :
    normalize letters = Text.lower ('.' :: letters) := by
  have hhead : letters.head? ≠ some '.' := fun hfirst => hdot (List.mem_of_mem_head? hfirst)
  rw [normalize_of_extension_eq_nil (Path.extension_of_no_dot hdot hslash), if_neg hhead]

theorem normalize_dotted (hdot : '.' ∉ letters) (hslash : '/' ∉ letters) :
    normalize ('.' :: letters) = Text.lower ('.' :: letters) :=
  normalize_of_extension_eq_nil (Path.extension_of_dot_first hdot hslash)

end Extension

namespace Registry

variable {γ : Type}

/-! ## Registries -/

/-- A registry supports the spellings of what it lists. -/
theorem supports_iff {r : Registry γ} {given : Text} :
    r.supports given = true ↔ Extension.normalize given ∈ r.extensions := by
  rw [supports, extensions, List.mem_mergeSort, List.mem_eraseDups]
  induction r.loaders with
  | nil => simp
  | cons entry loaders ih =>
    rw [List.lookup_cons, List.map_cons, List.mem_cons, ← ih]
    cases hfirst : Extension.normalize given == entry.1 with
    | true => simp [beq_iff_eq.mp hfirst]
    | false => simp [beq_eq_false_iff_ne.mp hfirst]

theorem isNormal_of_mem_extensions {loaders : List (Text × Loader γ)} {moves : List (Move γ)}
    {extension : Text} (h : extension ∈ ((ofLoaders loaders).run moves).1.extensions) :
    Extension.IsNormal extension := by
  rw [extensions, List.mem_mergeSort, List.mem_eraseDups, run_loaders] at h
  obtain ⟨entry, hentry, rfl⟩ := List.mem_map.mp h
  obtain ⟨⟨given, loader⟩, -, rfl⟩ := List.mem_map.mp (List.mem_reverse.mp hentry)
  exact Extension.isNormal_normalize given

theorem supports_normalize (r : Registry γ) (given : Text) :
    r.supports (Extension.normalize given) = r.supports given := by
  rw [supports, supports, Extension.normalize_normalize]

end Registry

namespace Extension

/-- However an extension is spelled, it comes to one key, and registries go by this key. -/
theorem spellings_meet :
    (∀ given, (normalize given).head? = some '.' ∧ normalize (normalize given) = normalize given) ∧
      (∀ folder stem letters : Text, folder = [] ∨ folder.getLast? = some '/' → '/' ∉ stem →
        (∃ c ∈ stem, c ≠ '.') → '.' ∉ letters → '/' ∉ letters →
        let path := folder ++ stem ++ '.' :: letters
        normalize letters = ofPath path ∧ normalize ('.' :: letters) = ofPath path ∧
          normalize path = ofPath path) ∧
      (∀ (γ : Type) (loaders : List (Text × Loader γ)) (moves : List (Registry.Move γ)),
        let r := ((Registry.ofLoaders loaders).run moves).1
        ∀ extension ∈ r.extensions, r.supports extension = true) ∧
      ∀ (x : Extractor) (path : Text), Path.extension path ≠ [] →
        x.supports path = x.registry.supports path ∧
          x.registry.supports (ofPath path) = x.registry.supports path := by
  refine ⟨?_, ?_, ?_, ?_⟩
  · intro given
    exact ⟨(isNormal_normalize given).head?_eq, normalize_normalize given⟩
  · intro folder stem letters hfolder hstem hletter hdot hslash path
    have hextension : Path.extension path = '.' :: letters :=
      Path.extension_of_stem hfolder hstem hletter hdot hslash
    have hpath : ofPath path = Text.lower ('.' :: letters) := by rw [ofPath, hextension]
    refine ⟨?_, ?_, ?_⟩
    · rw [hpath, normalize_bare hdot hslash]
    · rw [hpath, normalize_dotted hdot hslash]
    · apply normalize_of_extension_ne_nil
      rw [hextension]
      exact List.cons_ne_nil _ _
  · intro γ loaders moves r extension hmem
    apply Registry.supports_iff.mpr
    rwa [(Registry.isNormal_of_mem_extensions hmem).normalize_eq]
  · intro x path hne
    have hpath : normalize path = ofPath path := normalize_of_extension_ne_nil hne
    have hlookup : x.registry.supports (ofPath path) = x.registry.supports path := by
      rw [← hpath, Registry.supports_normalize]
    refine ⟨?_, hlookup⟩
    have hnonempty : (ofPath path).isEmpty = false := by
      have hhead := (isNormal_normalize path).head?_eq
      rw [hpath] at hhead
      exact List.isEmpty_eq_false_iff_exists_mem.mpr ⟨_, List.mem_of_mem_head? hhead⟩
    rw [Extractor.supports, hnonempty, hlookup, Bool.not_false, Bool.true_and]

/-- An extractor with one loader, which was registered in capitals. -/
def capitalExtractor : Extractor :=
  ⟨.tiny, "src/".toList, 1, .ofLoaders [("TS".toList, ⟨"TS".toList, .ok none, []⟩)]⟩

theorem spellings_meet_capitals :
    let path := "src/".toList ++ "app.d".toList ++ '.' :: "TS".toList
    let r := (capitalExtractor.registry.run [.arrive path]).1
    ("src/".toList = [] ∨ "src/".toList.getLast? = some '/') ∧ '/' ∉ "app.d".toList ∧
      (∃ c ∈ "app.d".toList, c ≠ '.') ∧ '.' ∉ "TS".toList ∧ '/' ∉ "TS".toList ∧
      ofPath path = ".ts".toList ∧ normalize "TS".toList = ".ts".toList ∧
      normalize ".TS".toList = ".ts".toList ∧ normalize path = ".ts".toList ∧
      ".ts".toList ∈ r.extensions ∧ r.supports ".ts".toList = true ∧
      Path.extension path ≠ [] ∧ capitalExtractor.registry.supports path = true ∧
      capitalExtractor.supports path = true ∧
      capitalExtractor.registry.supports (ofPath path) = true := by
  intro path r
  obtain ⟨-, hspellings, hlisted, hchecked⟩ := spellings_meet
  have hpath : ofPath path = ".ts".toList := by decide
  have hfolder : "src/".toList = [] ∨ "src/".toList.getLast? = some '/' := by decide
  have hletter : ∃ c ∈ "app.d".toList, c ≠ '.' := ⟨'a', by decide, by decide⟩
  obtain ⟨hbare, hdotted, hnormal⟩ := hspellings "src/".toList "app.d".toList "TS".toList hfolder
    (by decide) hletter (by decide) (by decide)
  have hmem : ".ts".toList ∈ r.extensions := List.mem_mergeSort.mpr (by decide)
  have hne : Path.extension path ≠ [] := by decide
  have hsupported : capitalExtractor.registry.supports path = true := by decide
  obtain ⟨hfile, hagain⟩ := hchecked capitalExtractor path hne
  exact ⟨hfolder, by decide, hletter, by decide, by decide, hpath, hbare.trans hpath,
    hdotted.trans hpath, hnormal.trans hpath, hmem, hlisted _ _ _ _ hmem, hne, hsupported,
    hfile.trans hsupported, hagain.trans hsupported⟩

end Extension

end SourceBlocks
