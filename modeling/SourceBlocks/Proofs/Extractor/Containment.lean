import SourceBlocks.Proofs.Batch.Outcome
import SourceBlocks.Proofs.Extraction.Recall

/-!
# Failures of one file

A call for a content always returns, and the last thing that it reports says how it ended.  After a
failure there are no blocks, however many were made before it, and nothing of the call is left but
the outcome of a load.
-/

namespace SourceBlocks

/-- An extraction fails with the first failure, whatever was emitted before it. -/
theorem Extraction.ofPortions_error (emitted : List Portion) (failure : ExtractionFailure)
    (rest : List (Except ExtractionFailure Portion)) (admitted : Admitted) :
    (ofPortions (emitted.map .ok ++ .error failure :: rest) admitted).outcome =
      .error failure := by
  induction emitted generalizing admitted with
  | nil => rfl
  | cons portion later ih =>
    rw [List.map_cons, List.cons_append, ofPortions]
    dsimp only
    rw [ih]
    rfl

namespace Extractor

/-- How a call for a content ends: what it reports last, how serious this is, and the blocks. -/
inductive Concludes (x : Extractor) (path content : Text) :
    Severity → Event → List Block → Prop where
  | unsupported (hsupports : x.supports path = false) :
      Concludes x path content .debug (.unsupportedLanguage path (Extension.ofPath path)) []
  /-- The loader fails, or comes to nothing. -/
  | unavailable (hsupports : x.supports path = true) (hgrammar : x.grammar? path = none) :
      Concludes x path content .warning (.grammarUnavailable path) []
  | unparsed {grammar : Grammar} {message : Text} (hsupports : x.supports path = true)
      (hgrammar : x.grammar? path = some grammar)
      (hparse : grammar.parse content = .error message) :
      Concludes x path content .warning (.parseFailed path message) []
  /-- There is a tree, and the query fails. -/
  | unqueried {grammar : Grammar} {tree : ParseTree} {message : Text}
      (hsupports : x.supports path = true) (hgrammar : x.grammar? path = some grammar)
      (hparse : grammar.parse content = .ok tree) (hquery : grammar.query tree = .error message) :
      Concludes x path content .warning (.parseFailed path message) []
  /-- The extraction fails. -/
  | failed {grammar : Grammar} {tree : ParseTree} {captures : List Capture}
      {failure : ExtractionFailure} (hsupports : x.supports path = true)
      (hgrammar : x.grammar? path = some grammar) (hparse : grammar.parse content = .ok tree)
      (hquery : grammar.query tree = .ok captures)
      (houtcome : (extractBlocks x.limits x.rootPrefix path content captures .empty).outcome =
        .error failure) :
      Concludes x path content .error (.blockExtractionFailed path failure.message) []
  | extracted {grammar : Grammar} {tree : ParseTree} {captures : List Capture}
      {blocks : List Block} (hsupports : x.supports path = true)
      (hgrammar : x.grammar? path = some grammar) (hparse : grammar.parse content = .ok tree)
      (hquery : grammar.query tree = .ok captures)
      (houtcome : (extractBlocks x.limits x.rootPrefix path content captures .empty).outcome =
        .ok blocks) :
      Concludes x path content .info (.blocksExtracted path captures.length blocks.length) blocks

/-- Two extractors give the same for everything they can be asked for. -/
structure SameResults (x y : Extractor) : Prop where
  content : ∀ path content,
    (x.parseContent path content).blocks = (y.parseContent path content).blocks
  file : ∀ fs path, (x.parseFile fs path).map FileReport.blocks =
    (y.parseFile fs path).map FileReport.blocks
  many : ∀ fs interruptions paths maxConcurrency,
    (Batch.extractMany x fs interruptions paths maxConcurrency).map BatchReport.files =
      (Batch.extractMany y fs interruptions paths maxConcurrency).map BatchReport.files
  directory : ∀ fs interruptions root extra maxConcurrency,
    (Batch.extractDirectory x fs interruptions root extra maxConcurrency).map
        BatchReport.files =
      (Batch.extractDirectory y fs interruptions root extra maxConcurrency).map
        BatchReport.files

variable {loaders : List (Text × Loader Grammar)} {fresh x y : Extractor} {path content : Text}

/-! ## How a call ends -/

theorem Concludes.unique {severity severity' : Severity} {event event' : Event}
    {blocks blocks' : List Block} (h : Concludes x path content severity event blocks)
    (h' : Concludes x path content severity' event' blocks') :
    severity = severity' ∧ event = event' ∧ blocks = blocks' := by
  -- Two different ends disagree on what came of the first step that one of them failed in.
  cases h <;> cases h' <;> simp_all

/-- A supported content comes to what is reported of its captures, or of their absence. -/
theorem exists_concludes_conclude (hsupports : x.supports path = true) (content : Text) :
    ∃ event, (x.conclude path content (x.grammar? path)).2.getLast? = some event ∧
      Concludes x path content event.severity event
        (x.conclude path content (x.grammar? path)).1 := by
  cases hgrammar : x.grammar? path with
  | none => exact ⟨_, rfl, .unavailable hsupports hgrammar⟩
  | some grammar =>
    rw [conclude, analyse]
    cases hparse : grammar.parse content with
    | error message => exact ⟨_, rfl, .unparsed hsupports hgrammar hparse⟩
    | ok tree =>
      dsimp only [bind, Except.bind]
      cases hquery : grammar.query tree with
      | error message => exact ⟨_, rfl, .unqueried hsupports hgrammar hparse hquery⟩
      | ok captures =>
        dsimp only [blocksOf]
        cases houtcome : (extractBlocks x.limits x.rootPrefix path content captures
            .empty).outcome with
        | error failure =>
          exact ⟨_, List.getLast?_concat, .failed hsupports hgrammar hparse hquery houtcome⟩
        | ok blocks =>
          exact ⟨_, List.getLast?_concat, .extracted hsupports hgrammar hparse hquery houtcome⟩

theorem exists_concludes (hx : x.registry.Reached loaders) (path content : Text) :
    ∃ event, (x.parseContent path content).events.getLast? = some event ∧
      Concludes x path content event.severity event (x.parseContent path content).blocks := by
  cases hsupports : x.supports path with
  | false =>
    rw [parseContent_unsupported hsupports]
    exact ⟨_, rfl, .unsupported hsupports⟩
  | true =>
    obtain ⟨loading, hreport⟩ := parseContent_supported hx hsupports content
    obtain ⟨event, hlast, hconcludes⟩ := exists_concludes_conclude hsupports content
    refine ⟨event, ?_, hreport ▸ hconcludes⟩
    rw [hreport, List.getLast?_append, hlast]
    rfl

/-! ## What a call leaves behind -/

theorem sameResults (h : Batch.Serves loaders fresh x) (h' : Batch.Serves loaders fresh y) :
    SameResults x y where
  content := by
    intro path content
    rw [h.blocks_eq, h'.blocks_eq]
  file := by
    intro fs path
    rw [parseFile, parseFile, h.supports_eq, h'.supports_eq]
    split
    · rfl
    · split
      · rfl
      · rfl
      · exact congrArg Except.ok ((h.blocks_eq _ _).trans (h'.blocks_eq _ _).symm)
  many := by
    intro fs interruptions paths maxConcurrency
    obtain ⟨report, hreport, hfiles⟩ :=
      Batch.files_extractMany h fs interruptions paths maxConcurrency
    obtain ⟨report', hreport', hfiles'⟩ :=
      Batch.files_extractMany h' fs interruptions paths maxConcurrency
    rw [hreport, hreport']
    exact congrArg Except.ok (hfiles.trans hfiles'.symm)
  directory := by
    intro fs interruptions root extra maxConcurrency
    cases hfound : Discovery.discover fs root extra Extension.scanned with
    | error refusal =>
      rw [Batch.extractDirectory_refused x _ _ hfound, Batch.extractDirectory_refused y _ _ hfound]
    | ok discovered =>
      cases hescape : discovered.1.findSome?
          (Batch.workDirectory fresh fs interruptions root).escape? with
      | some message =>
        rw [Batch.extractDirectory_escaped h interruptions maxConcurrency hfound hescape,
          Batch.extractDirectory_escaped h' interruptions maxConcurrency hfound hescape]
      | none =>
        obtain ⟨report, hreport, hfiles⟩ :=
          Batch.files_extractDirectory h interruptions maxConcurrency hfound hescape
        obtain ⟨report', hreport', hfiles'⟩ :=
          Batch.files_extractDirectory h' interruptions maxConcurrency hfound hescape
        rw [hreport, hreport']
        exact congrArg Except.ok (hfiles.trans hfiles'.symm)

/-- What is so of a call for a content, whether or not it fails. -/
structure Contained (x : Extractor) (path content : Text) (report : FileReport) : Prop where
  /-- The last event says how the call ended. -/
  concludes : ∃ event, report.events.getLast? = some event ∧
    Concludes x path content event.severity event report.blocks
  /-- No call ends in two ways. -/
  only : ∀ severity event blocks, Concludes x path content severity event blocks →
    report.events.getLast? = some event ∧ report.blocks = blocks
  /-- What was emitted before a failure is not given out. -/
  nothing_leaks : ∀ (grammar : Grammar) (tree : ParseTree) (captures : List Capture)
    (emitted : List Portion) (failure : ExtractionFailure)
    (rest : List (Except ExtractionFailure Portion)),
    x.supports path = true → x.grammar? path = some grammar →
    grammar.parse content = .ok tree → grammar.query tree = .ok captures →
    capturedPortions x.limits x.rootPrefix path content captures =
      emitted.map .ok ++ .error failure :: rest →
      report.blocks = [] ∧
        report.events.getLast? = some (.blockExtractionFailed path failure.message)
  /-- Nothing but the registry is touched, and that by a call like any other. -/
  settings_eq : report.extractor = { x with registry := report.extractor.registry }
  leads : x.registry.Leads report.extractor.registry
  /-- Whatever follows, everything that is asked for comes out as without the call. -/
  unnoticed : ∀ r r', report.extractor.registry.Leads r → x.registry.Leads r' →
    SameResults { report.extractor with registry := r } { x with registry := r' }
  /-- The loader of the extension was started once and for all, and its outcome is kept. -/
  remembered : x.supports path = true → ∀ r, report.extractor.registry.Leads r →
    r.loaded.lookup (Extension.normalize (Extension.ofPath path)) = some (x.grammar? path) ∧
      (r.flights.countP fun flight =>
        flight.key == Extension.normalize (Extension.ofPath path)) = 1

theorem afterContent_settings (x : Extractor) (path : Text) :
    x.afterContent path = { x with registry := (x.afterContent path).registry } := by
  rw [afterContent]
  split <;> rfl

/-- Whether or not it fails, a call for a content is contained. -/
theorem content_contained (loaders : List (Text × Loader Grammar)) (x : Extractor)
    (path content : Text) (hx : x.registry.Reached loaders) :
    Contained x path content (x.parseContent path content) := by
  obtain ⟨event, hlast, hconcludes⟩ := exists_concludes hx path content
  have hextractor := extractor_parseContent hx path content
  have honly : ∀ severity event' blocks, Concludes x path content severity event' blocks →
      (x.parseContent path content).events.getLast? = some event' ∧
        (x.parseContent path content).blocks = blocks := by
    intro severity event' blocks hother
    obtain ⟨-, rfl, rfl⟩ := hother.unique hconcludes
    exact ⟨hlast, rfl⟩
  constructor
  case concludes => exact ⟨event, hlast, hconcludes⟩
  case only => exact honly
  case nothing_leaks =>
    intro grammar tree captures emitted failure rest hsupports hgrammar hparse hquery hportions
    have hne : captures ≠ [] := by
      rintro rfl
      cases emitted with
      | nil => cases hportions
      | cons portion later => cases hportions
    have houtcome : (extractBlocks x.limits x.rootPrefix path content captures .empty).outcome =
        .error failure := by
      rw [extractBlocks_captured hne, hportions, Extraction.ofPortions_error]
    exact (honly _ _ _ (.failed hsupports hgrammar hparse hquery houtcome)).symm
  case settings_eq =>
    rw [hextractor]
    exact x.afterContent_settings path
  case leads =>
    rw [hextractor]
    exact x.leads_afterContent path
  case unnoticed =>
    intro r r' hleads hleads'
    rw [hextractor] at hleads ⊢
    have hafter := reached_afterContent hx path
    have hown : Batch.Serves loaders (x.renewed loaders)
        { x.afterContent path with registry := r } :=
      ⟨x.renewed_afterContent path loaders, hafter.trans hleads⟩
    have hother : Batch.Serves loaders (x.renewed loaders) { x with registry := r' } :=
      ⟨rfl, hx.trans hleads'⟩
    exact sameResults hown hother
  case remembered =>
    intro hsupports r hleads
    rw [hextractor] at hleads
    have hloader : (x.registry.loaders.lookup
        (Extension.normalize (Extension.ofPath path))).isSome := by
      rw [supports, Bool.and_eq_true] at hsupports
      exact hsupports.2
    have hafter : (x.afterContent path).registry.loaded.lookup
        (Extension.normalize (Extension.ofPath path)) = some (x.grammar? path) := by
      rw [afterContent, if_pos hsupports]
      exact hx.loaded_settled hloader
    have hreached : (x.afterContent path).registry.Reached loaders :=
      reached_afterContent hx path
    have hloaded := hreached.loaded_stays hleads hafter
    exact ⟨hloaded, (Registry.Reached.sound (hreached.trans hleads)).started_of_loaded hloaded⟩

/-- Two classes, of which the second does not let its fields be looked up. -/
def refusingContent : Text := "class A\n!class B".toList

/-- Contents that fail at each stage, with what is reported last: there is no grammar, or its loader
fails, or the parser, or the query, or a node after another one became a portion. -/
def failingContents : List (Text × Text × Event) :=
  [("a.rb".toList, "class A".toList, .unsupportedLanguage "a.rb".toList ".rb".toList),
   ("a.py".toList, "class A".toList, .grammarUnavailable "a.py".toList),
   ("a.js".toList, "(".toList, .parseFailed "a.js".toList "no tree".toList),
   ("a.js".toList, "?".toList, .parseFailed "a.js".toList "no captures".toList),
   ("a.js".toList, refusingContent, .blockExtractionFailed "a.js".toList "no fields".toList)]

theorem refusingContent_portions :
    (analyse Batch.lineGrammar refusingContent).map
        (capturedPortions .tiny [] "a.js".toList refusingContent) =
      .ok [.ok (.whole (Batch.lineBlock "a.js".toList 1 "class A".toList)),
        .error (.lookupRefused ⟨"no fields".toList⟩)] := rfl

theorem content_contained_failingContents :
    Batch.usedExtractor.registry.Reached Batch.unevenLoaders ∧
      (∀ given ∈ failingContents,
        Contained Batch.usedExtractor given.1 given.2.1
            (Batch.usedExtractor.parseContent given.1 given.2.1) ∧
          (Batch.usedExtractor.parseContent given.1 given.2.1).blocks = [] ∧
          (Batch.usedExtractor.parseContent given.1 given.2.1).events.getLast? = some given.2.2) ∧
      (analyse Batch.lineGrammar refusingContent).map
          (capturedPortions .tiny [] "a.js".toList refusingContent) =
        .ok [.ok (.whole (Batch.lineBlock "a.js".toList 1 "class A".toList)),
          .error (.lookupRefused ⟨"no fields".toList⟩)] ∧
      Contained Batch.usedExtractor "a.js".toList "class A\nclass B".toList
        (Batch.usedExtractor.parseContent "a.js".toList "class A\nclass B".toList) ∧
      (Batch.usedExtractor.parseContent "a.js".toList "class A\nclass B".toList).blocks =
        [Batch.lineBlock "a.js".toList 1 "class A".toList,
          Batch.lineBlock "a.js".toList 2 "class B".toList] := by
  have hcontained : ∀ path content, Contained Batch.usedExtractor path content
      (Batch.usedExtractor.parseContent path content) := fun path content =>
    content_contained Batch.unevenLoaders Batch.usedExtractor path content
      Batch.usedExtractor_reached
  have hends : ∀ given ∈ failingContents,
      (Batch.usedExtractor.parseContent given.1 given.2.1).blocks = [] ∧
        (Batch.usedExtractor.parseContent given.1 given.2.1).events.getLast? =
          some given.2.2 := by
    decide +kernel
  have hblocks : (Batch.usedExtractor.parseContent "a.js".toList "class A\nclass B".toList).blocks =
      [Batch.lineBlock "a.js".toList 1 "class A".toList,
        Batch.lineBlock "a.js".toList 2 "class B".toList] := by
    decide +kernel
  exact ⟨Batch.usedExtractor_reached,
    fun given hgiven => ⟨hcontained given.1 given.2.1, hends given hgiven⟩,
    refusingContent_portions, hcontained _ _, hblocks⟩

end Extractor

end SourceBlocks
