import SourceBlocks.Batch
import SourceBlocks.Proofs.Extractor.Conclusion

/-!
# A batch is pointwise

One file after the other, a batch gives each file the blocks that a new extractor gives for it.  A
file that was asked for twice stands once in the result, where it was asked for first.  Only a
reading that is not guarded can end the batch.
-/

namespace SourceBlocks.Batch

/-- How a batch treats its files: which of them it does not read, what comes of reading the others,
whether an unexpected failure of reading is caught, and where the work is interrupted. -/
structure Work where
  dismisses : Text → Bool
  read : Text → Except Extractor.Unread Text
  guardsReading : Bool
  interruptions : Interruptions

/-- How files are treated that are named by their paths. -/
def workMany (x : Extractor) (fs : FileSystem) (interruptions : Interruptions) : Work where
  dismisses path := !x.supports path
  read path := Extractor.readReporting fs path
  guardsReading := true
  interruptions := interruptions

/-- How files are treated that were discovered below a root. -/
def workDirectory (x : Extractor) (fs : FileSystem) (interruptions : Interruptions)
    (root : Text) : Work where
  dismisses path := !x.registry.supports (Extension.ofPath path)
  read path := Extractor.readReporting fs (Path.join root path)
  guardsReading := false
  interruptions := interruptions

/-- The blocks of a file: those of its text, or none if anything is in the way. -/
def Work.blocks (work : Work) (x : Extractor) (path : Text) : List Block :=
  if work.dismisses path then []
  else
    match work.read path with
    | .error _ => []
    | .ok content =>
      if (work.interruptions path).isSome then [] else (x.parseContent path content).blocks

/-- The failure that the work on a file ends in and that nothing catches, if there is one. -/
def Work.escape? (work : Work) (path : Text) : Option Text :=
  if work.dismisses path || work.guardsReading then none
  else
    match work.read path with
    | .error (.escaped message) => some message
    | _ => none

namespace Work

variable {work : Work} {path content message : Text}

theorem escape?_of_dismissed (h : work.dismisses path = true) : work.escape? path = none := by
  rw [escape?, h, Bool.true_or, if_pos rfl]

theorem escape?_of_guarded (h : work.guardsReading = true) (path : Text) :
    work.escape? path = none := by
  rw [escape?, h, Bool.or_true, if_pos rfl]

theorem escape?_of_read (h : work.read path = .ok content) : work.escape? path = none := by
  rw [escape?, h, ite_self]

theorem escape?_of_reported {event : Event} (h : work.read path = .error (.reported event)) :
    work.escape? path = none := by
  rw [escape?, h, ite_self]

theorem escape?_eq_some_iff : work.escape? path = some message ↔
    work.dismisses path = false ∧ work.guardsReading = false ∧
      work.read path = .error (.escaped message) := by
  cases hdismissed : work.dismisses path with
  | true => simp [escape?_of_dismissed hdismissed]
  | false =>
    cases hguards : work.guardsReading with
    | true => simp [escape?_of_guarded hguards]
    | false =>
      rw [escape?, hdismissed, hguards, Bool.or_false, if_neg Bool.false_ne_true]
      split
      next other hread => simp [hread]
      next hread =>
        simp only [reduceCtorEq, true_and, false_iff]
        exact hread message

theorem blocks_of_dismissed (h : work.dismisses path = true) (x : Extractor) :
    work.blocks x path = [] := by
  rw [blocks, if_pos h]

theorem blocks_of_unread {unread : Extractor.Unread} (h : work.read path = .error unread)
    (x : Extractor) : work.blocks x path = [] := by
  rw [blocks, h, ite_self]

theorem blocks_of_interrupted (h : work.interruptions path = some message) (x : Extractor) :
    work.blocks x path = [] := by
  rw [blocks, h]
  split
  · rfl
  · split <;> rfl

theorem blocks_of_read (hdismissed : work.dismisses path = false)
    (hread : work.read path = .ok content) (hquiet : work.interruptions path = none)
    (x : Extractor) : work.blocks x path = (x.parseContent path content).blocks := by
  rw [blocks, hdismissed, if_neg Bool.false_ne_true, hread, hquiet]
  rfl

/-- Without a grammar for its extension a file has no blocks. -/
theorem blocks_of_unsupported {x : Extractor} (h : x.supports path = false) :
    work.blocks x path = [] := by
  rw [blocks]
  split
  · rfl
  · split
    · rfl
    · rw [Extractor.parseContent_unsupported h, Extractor.unsupported, ite_self]

end Work

/-! ## The result list -/

section Collecting

variable {value : Text → List Block} {path : Text} {keys : List Text}

theorem record_of_mem (h : path ∈ keys) :
    record path (value path) (keys.map fun key => (key, value key)) =
      keys.map fun key => (key, value key) := by
  induction keys with
  | nil => cases h
  | cons key keys ih =>
    rw [List.map_cons, record]
    by_cases heq : key = path
    · rw [if_pos heq, heq]
    · rw [if_neg heq, ih]
      exact (List.mem_cons.mp h).resolve_left (Ne.symm heq)

theorem record_of_not_mem (h : path ∉ keys) :
    record path (value path) (keys.map fun key => (key, value key)) =
      (keys ++ [path]).map fun key => (key, value key) := by
  induction keys with
  | nil => rfl
  | cons key keys ih =>
    rw [List.mem_cons, not_or] at h
    rw [List.map_cons, record, if_neg (Ne.symm h.1), ih h.2]
    rfl

theorem eraseDups_concat (paths : List Text) (path : Text) :
    (paths ++ [path]).eraseDups =
      if path ∈ paths then paths.eraseDups else paths.eraseDups ++ [path] := by
  rw [List.eraseDups_append]
  split
  next hmem => simp [List.removeAll, hmem]
  next hmem => simp [List.removeAll, hmem, List.eraseDups_cons]

/-- A result list has each path once, where it came first. -/
theorem collect_map (value : Text → List Block) (paths : List Text) :
    collect (paths.map fun path => (path, value path)) =
      paths.eraseDups.map fun path => (path, value path) := by
  induction paths using List.reverseRecOn with
  | nil => rfl
  | append_singleton paths path ih =>
    rw [collect] at ih ⊢
    rw [List.map_append, List.foldl_append, ih, eraseDups_concat]
    split
    next hmem => exact record_of_mem (List.mem_eraseDups.mpr hmem)
    next hmem => exact record_of_not_mem fun h => hmem (List.mem_eraseDups.mp h)

end Collecting

/-! ## One file after the other -/

/-- An extractor that was new once and has been used since. -/
structure Serves (loaders : List (Text × Loader Grammar)) (fresh x : Extractor) : Prop where
  renewed_eq : x.renewed loaders = fresh
  reached : x.registry.Reached loaders

/-- The work on single files is done as described, by whatever extractor that serves. -/
structure Performs (loaders : List (Text × Loader Grammar)) (fresh : Extractor)
    (perform : Extractor → Text → Except Text FileReport) (work : Work) : Prop where
  ok : ∀ {y : Extractor} {path : Text}, Serves loaders fresh y → work.escape? path = none →
    ∃ report, perform y path = .ok report ∧ report.blocks = work.blocks fresh path ∧
      Serves loaders fresh report.extractor
  error : ∀ {y : Extractor} {path message : Text}, Serves loaders fresh y →
    work.escape? path = some message → perform y path = .error message

section

variable {loaders : List (Text × Loader Grammar)} {fresh x : Extractor} {fs : FileSystem}
  {interruptions : Interruptions} {path root content message : Text} {paths : List Text}
  {perform : Extractor → Text → Except Text FileReport} {work : Work}

theorem Serves.renewed (hx : x.registry.Reached loaders) :
    Serves loaders (x.renewed loaders) x :=
  ⟨rfl, hx⟩

theorem Serves.afterContent (h : Serves loaders fresh x) (path : Text) :
    Serves loaders fresh (x.afterContent path) :=
  ⟨(Extractor.renewed_afterContent x path loaders).trans h.renewed_eq,
    Extractor.reached_afterContent h.reached path⟩

theorem Serves.supports_eq (h : Serves loaders fresh x) (path : Text) :
    x.supports path = fresh.supports path := by
  rw [← h.renewed_eq, Extractor.supports_renewed h.reached]

theorem Serves.registry_supports_eq (h : Serves loaders fresh x) (extension : Text) :
    x.registry.supports extension = fresh.registry.supports extension := by
  rw [← h.renewed_eq, Registry.supports, h.reached.loaders_eq]
  rfl

theorem Serves.blocks_eq (h : Serves loaders fresh x) (path content : Text) :
    (x.parseContent path content).blocks = (fresh.parseContent path content).blocks := by
  rw [← h.renewed_eq, Extractor.blocks_parseContent_renewed h.reached]

theorem Serves.parseContent (h : Serves loaders fresh x) (path content : Text) :
    Serves loaders fresh (x.parseContent path content).extractor := by
  rw [Extractor.extractor_parseContent h.reached]
  exact h.afterContent path

/-- Work that nothing ends gives all files their blocks. -/
theorem Performs.workThrough_ok (hwork : Performs loaders fresh perform work)
    (h : Serves loaders fresh x) (hquiet : paths.findSome? work.escape? = none) :
    ∃ events, workThrough perform x paths =
      .ok (paths.map fun path => (path, work.blocks fresh path), events) := by
  induction paths generalizing x with
  | nil => exact ⟨[], rfl⟩
  | cons path later ih =>
    rw [List.findSome?_cons] at hquiet
    cases hescape : work.escape? path with
    | some message =>
      rw [hescape] at hquiet
      cases hquiet
    | none =>
      rw [hescape] at hquiet
      obtain ⟨report, hreport, hblocks, hserves⟩ := hwork.ok h hescape
      obtain ⟨events, hlater⟩ := ih hserves hquiet
      refine ⟨report.events ++ events, ?_⟩
      rw [workThrough, hreport]
      dsimp only [bind, Except.bind]
      rw [hlater, List.map_cons, ← hblocks]
      rfl

/-- The first failure that nothing catches ends the work. -/
theorem Performs.workThrough_error (hwork : Performs loaders fresh perform work)
    (h : Serves loaders fresh x) (hloud : paths.findSome? work.escape? = some message) :
    workThrough perform x paths = .error message := by
  induction paths generalizing x with
  | nil => cases hloud
  | cons path later ih =>
    rw [List.findSome?_cons] at hloud
    rw [workThrough]
    cases hescape : work.escape? path with
    | some first =>
      rw [hescape] at hloud
      obtain rfl := Option.some.inj hloud
      rw [hwork.error h hescape]
      rfl
    | none =>
      rw [hescape] at hloud
      obtain ⟨report, hreport, -, hserves⟩ := hwork.ok h hescape
      rw [hreport]
      dsimp only [bind, Except.bind]
      rw [ih hserves hloud]

theorem workMany_escape? (x : Extractor) (fs : FileSystem) (interruptions : Interruptions)
    (path : Text) : (workMany x fs interruptions).escape? path = none :=
  Work.escape?_of_guarded rfl path

theorem guarded_parseFile (h : Serves loaders fresh x) (path : Text) :
    (guarded interruptions path x (x.parseFile fs path)).blocks =
        (workMany fresh fs interruptions).blocks fresh path ∧
      Serves loaders fresh (guarded interruptions path x (x.parseFile fs path)).extractor := by
  let work := workMany fresh fs interruptions
  rw [guarded.eq_def]
  cases hinterrupted : interruptions path with
  | some message =>
    have hwork : work.interruptions path = some message := hinterrupted
    rw [Work.blocks_of_interrupted hwork]
    exact ⟨rfl, h⟩
  | none =>
    rw [Extractor.parseFile, h.supports_eq]
    cases hsupports : fresh.supports path with
    | false =>
      have hdismissed : work.dismisses path = true := by simp [work, workMany, hsupports]
      rw [Work.blocks_of_dismissed hdismissed]
      exact ⟨rfl, h⟩
    | true =>
      have hdismissed : work.dismisses path = false := by simp [work, workMany, hsupports]
      rw [Bool.not_true, if_neg Bool.false_ne_true]
      cases hread : Extractor.readReporting fs path with
      | error unread =>
        have hunread : work.read path = .error unread := hread
        rw [Work.blocks_of_unread hunread]
        cases unread with
        | reported event => exact ⟨rfl, h⟩
        | escaped message => exact ⟨rfl, h⟩
      | ok content =>
        have hcontent : work.read path = .ok content := hread
        rw [Work.blocks_of_read hdismissed hcontent hinterrupted]
        exact ⟨h.blocks_eq path content, h.parseContent path content⟩

theorem performs_workAt (loaders : List (Text × Loader Grammar)) (fresh : Extractor)
    (fs : FileSystem) (interruptions : Interruptions) :
    Performs loaders fresh (workAt fs interruptions) (workMany fresh fs interruptions) where
  ok := by
    intro y path h _
    exact ⟨_, rfl, guarded_parseFile h path⟩
  error := by
    intro y path message _ hescape
    rw [workMany_escape?] at hescape
    cases hescape

theorem performs_workBelow (loaders : List (Text × Loader Grammar)) (fresh : Extractor)
    (fs : FileSystem) (interruptions : Interruptions) (root : Text) :
    Performs loaders fresh (workBelow fs interruptions root)
      (workDirectory fresh fs interruptions root) where
  ok := by
    intro y path h hescape
    let work := workDirectory fresh fs interruptions root
    rw [workBelow, h.registry_supports_eq]
    by_cases hsupports : fresh.registry.supports (Extension.ofPath path) = true
    · have hdismissed : work.dismisses path = false := by simp [work, workDirectory, hsupports]
      rw [hsupports, Bool.not_true, if_neg Bool.false_ne_true]
      cases hread : Extractor.readReporting fs (Path.join root path) with
      | error unread =>
        have hunread : work.read path = .error unread := hread
        cases unread with
        | reported event => exact ⟨_, rfl, (Work.blocks_of_unread hunread fresh).symm, h⟩
        | escaped message =>
          rw [Work.escape?_eq_some_iff.mpr ⟨hdismissed, rfl, hunread⟩] at hescape
          cases hescape
      | ok content =>
        have hcontent : work.read path = .ok content := hread
        refine ⟨_, rfl, ?_⟩
        rw [guarded.eq_def]
        cases hinterrupted : interruptions path with
        | some message =>
          have hwork : work.interruptions path = some message := hinterrupted
          rw [Work.blocks_of_interrupted hwork]
          exact ⟨rfl, h⟩
        | none =>
          rw [Work.blocks_of_read hdismissed hcontent hinterrupted]
          exact ⟨h.blocks_eq path content, h.parseContent path content⟩
    · rw [Bool.not_eq_true] at hsupports
      have hdismissed : work.dismisses path = true := by simp [work, workDirectory, hsupports]
      rw [hsupports, Bool.not_false, if_pos rfl]
      exact ⟨_, rfl, (Work.blocks_of_dismissed hdismissed fresh).symm, h⟩
  error := by
    intro y path message h hescape
    obtain ⟨hdismissed, -, hread⟩ := Work.escape?_eq_some_iff.mp hescape
    have hsupports : fresh.registry.supports (Extension.ofPath path) = true := by
      simpa [workDirectory] using hdismissed
    have hunread : Extractor.readReporting fs (Path.join root path) =
      .error (.escaped message) := hread
    rw [workBelow, h.registry_supports_eq, hsupports, Bool.not_true, if_neg Bool.false_ne_true,
      hunread]

/-- The result of many files, each with the blocks that a new extractor gives for it. -/
theorem files_extractMany (h : Serves loaders fresh x) (fs : FileSystem)
    (interruptions : Interruptions) (paths : List Text) (maxConcurrency : Option Int) :
    ∃ report, extractMany x fs interruptions paths maxConcurrency = .ok report ∧
      report.files = paths.eraseDups.map fun path =>
        (path, (workMany fresh fs interruptions).blocks fresh path) := by
  have hquiet : paths.findSome? (workMany fresh fs interruptions).escape? = none :=
    List.findSome?_eq_none_iff.mpr fun path _ => workMany_escape? fresh fs interruptions path
  obtain ⟨events, hwork⟩ :=
    (performs_workAt loaders fresh fs interruptions).workThrough_ok h hquiet
  rw [extractMany, hwork]
  exact ⟨_, rfl, collect_map _ paths⟩

/-- The result of a directory in which no reading ends the batch. -/
theorem files_extractDirectory (h : Serves loaders fresh x) {extraPatterns found : List Text}
    {events : List Event} (interruptions : Interruptions) (maxConcurrency : Option Int)
    (hfound : Discovery.discover fs root extraPatterns Extension.scanned = .ok (found, events))
    (hquiet : found.findSome? (workDirectory fresh fs interruptions root).escape? = none) :
    ∃ report, extractDirectory x fs interruptions root extraPatterns maxConcurrency = .ok report ∧
      report.files = found.eraseDups.map fun path =>
        (path, (workDirectory fresh fs interruptions root).blocks fresh path) := by
  obtain ⟨working, hwork⟩ :=
    (performs_workBelow loaders fresh fs interruptions root).workThrough_ok h hquiet
  rw [extractDirectory, hfound]
  dsimp only [Except.mapError, bind, Except.bind]
  rw [hwork]
  exact ⟨_, rfl, collect_map _ found⟩

theorem extractDirectory_escaped (h : Serves loaders fresh x) {extraPatterns found : List Text}
    {events : List Event} (interruptions : Interruptions) (maxConcurrency : Option Int)
    (hfound : Discovery.discover fs root extraPatterns Extension.scanned = .ok (found, events))
    (hloud : found.findSome? (workDirectory fresh fs interruptions root).escape? = some message) :
    extractDirectory x fs interruptions root extraPatterns maxConcurrency =
      .error (.escaped message) := by
  have hwork := (performs_workBelow loaders fresh fs interruptions root).workThrough_error h hloud
  rw [extractDirectory, hfound]
  dsimp only [Except.mapError, bind, Except.bind]
  rw [hwork]

theorem extractDirectory_refused {extraPatterns : List Text} {refusal : Discovery.Refusal}
    (x : Extractor) (interruptions : Interruptions) (maxConcurrency : Option Int)
    (hrefused : Discovery.discover fs root extraPatterns Extension.scanned = .error refusal) :
    extractDirectory x fs interruptions root extraPatterns maxConcurrency =
      .error (.refused refusal) := by
  rw [extractDirectory, hrefused]
  rfl

end

end SourceBlocks.Batch
