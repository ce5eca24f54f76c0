import SourceBlocks.Extractor
import SourceBlocks.Proofs.Grammar.Obtaining

/-!
# What an extractor makes of a file

The blocks of a content are a matter of the extractor's settings and of what its loaders give for
the extension of the path.  What the extractor did before plays no part, since all that a call
leaves behind is a registry that knows more of its loaders' outcomes.
-/

namespace SourceBlocks.Extractor

variable {loaders : List (Text × Loader Grammar)} {x : Extractor} {path content : Text}

/-- The extractor with a registry that nobody has used. -/
def renewed (x : Extractor) (loaders : List (Text × Loader Grammar)) : Extractor :=
  { x with registry := .ofLoaders loaders }

/-- The grammar that the loaders of an extractor give for a path. -/
def grammar? (x : Extractor) (path : Text) : Option Grammar :=
  x.registry.offer (Extension.normalize (Extension.ofPath path))

/-- What comes of a content once it is known whether there is a grammar. -/
def conclude (x : Extractor) (path content : Text) : Option Grammar → List Block × List Event
  | none => ([], [.grammarUnavailable path])
  | some grammar =>
    match analyse grammar content with
    | .error message => ([], [.parseFailed path message])
    | .ok captures => x.blocksOf path content captures

/-- The extractor after a call for a content. -/
def afterContent (x : Extractor) (path : Text) : Extractor :=
  if x.supports path then { x with registry := x.registry.settled (Extension.ofPath path) } else x

theorem parseContent_unsupported (h : x.supports path = false) (content : Text) :
    x.parseContent path content = x.unsupported path := by
  rw [parseContent, h, Bool.not_false, if_pos rfl]

theorem parseContent_supported (hx : x.registry.Reached loaders) (h : x.supports path = true)
    (content : Text) :
    ∃ loading, x.parseContent path content =
      ⟨(x.conclude path content (x.grammar? path)).1,
        loading ++ (x.conclude path content (x.grammar? path)).2, x.afterContent path⟩ := by
  obtain ⟨loading, hobtain⟩ := hx.obtain_eq (Extension.ofPath path)
  refine ⟨loading, ?_⟩
  rw [parseContent, h, Bool.not_true, if_neg Bool.false_ne_true, hobtain, afterContent, h,
    if_pos rfl, grammar?]
  dsimp only
  cases x.registry.offer (Extension.normalize (Extension.ofPath path)) with
  | none => rfl
  | some grammar =>
    dsimp only [conclude]
    cases analyse grammar content with
    | error message => rfl
    | ok captures => rfl

/-! ## A used extractor and a new one -/

theorem supports_renewed (hx : x.registry.Reached loaders) (path : Text) :
    (x.renewed loaders).supports path = x.supports path := by
  rw [supports, supports, Registry.supports, Registry.supports, hx.loaders_eq]
  rfl

theorem grammar?_renewed (hx : x.registry.Reached loaders) (path : Text) :
    (x.renewed loaders).grammar? path = x.grammar? path :=
  (hx.offer_eq _).symm

theorem reached_renewed (x : Extractor) (loaders : List (Text × Loader Grammar)) :
    (x.renewed loaders).registry.Reached loaders :=
  Registry.Leads.refl

/-- The blocks of a content do not depend on what the extractor was used for before. -/
theorem blocks_parseContent_renewed (hx : x.registry.Reached loaders) (path content : Text) :
    (x.parseContent path content).blocks =
      ((x.renewed loaders).parseContent path content).blocks := by
  have hsame := supports_renewed hx path
  cases hsupports : x.supports path with
  | false =>
    rw [hsupports] at hsame
    rw [parseContent_unsupported hsupports, parseContent_unsupported hsame]
    rfl
  | true =>
    rw [hsupports] at hsame
    obtain ⟨loading, hown⟩ := parseContent_supported hx hsupports content
    obtain ⟨loading', hnew⟩ := parseContent_supported (x.reached_renewed loaders) hsame content
    rw [hown, hnew, grammar?_renewed hx]
    rfl

theorem extractor_parseContent (hx : x.registry.Reached loaders) (path content : Text) :
    (x.parseContent path content).extractor = x.afterContent path := by
  cases hsupports : x.supports path with
  | false =>
    rw [parseContent_unsupported hsupports, afterContent, hsupports, if_neg Bool.false_ne_true]
    rfl
  | true =>
    obtain ⟨loading, hreport⟩ := parseContent_supported hx hsupports content
    rw [hreport]

theorem leads_afterContent (x : Extractor) (path : Text) :
    x.registry.Leads (x.afterContent path).registry := by
  rw [afterContent]
  split
  · exact x.registry.leads_settled _
  · exact .refl

theorem reached_afterContent (hx : x.registry.Reached loaders) (path : Text) :
    (x.afterContent path).registry.Reached loaders :=
  hx.trans (x.leads_afterContent path)

/-- But for its registry an extractor is left as it is. -/
theorem renewed_afterContent (x : Extractor) (path : Text)
    (loaders : List (Text × Loader Grammar)) :
    (x.afterContent path).renewed loaders = x.renewed loaders := by
  rw [afterContent]
  split <;> rfl

end SourceBlocks.Extractor
