import Mathlib.Logic.Relation
import SourceBlocks.Proofs.Batch.Pointwise

/-!
# Any schedule of a batch

The files of a batch are worked on side by side.  The work on a file waits for its turn, for the
text of the file and for its grammar, and at each of these points any other work may go on: that
on other files, the loads, and whatever else the registry is used for meanwhile.

One invariant holds of a batch under way: each file is at a stage that agrees with what is in it,
and has its blocks when the work on it is done.  So all schedules have the same result, and every
schedule can be brought to its end.

An unexpected failure of a reading that nothing guards is handed on to the batch, which then has
no result, while the work on the other files goes on unobserved.
-/

namespace SourceBlocks.Batch

/-- How far the work on a file has come. -/
inductive Stage where
  | queued
  | reading
  | asking (content : Text) (caller : Nat)
  | done (blocks : List Block)
  | raised (message : Text)

namespace Stage

/-- Whether a file is being worked on. -/
def isActive : Stage → Bool
  | reading | asking .. => true
  | queued | done _ | raised _ => false

/-- Whether the work on a file has ended. -/
def isOver : Stage → Bool
  | done _ | raised _ => true
  | queued | reading | asking .. => false

/-- The failure that the work on a file handed on. -/
def failure? : Stage → Option Text
  | raised message => some message
  | _ => none

end Stage

/-- A batch under way: the registry that all work shares, the files, and the first failure that was
handed on. -/
structure Progress where
  registry : Registry Grammar
  tasks : List (Text × Stage)
  failure : Option Text

namespace Progress

/-- A batch before any work. -/
def start (x : Extractor) (paths : List Text) : Progress :=
  ⟨x.registry, paths.map fun path => (path, .queued), none⟩

/-- How many files are being worked on. -/
def active (p : Progress) : Nat :=
  p.tasks.countP fun task => task.2.isActive

/-- On how many files the work has not ended yet. -/
def remaining (p : Progress) : Nat :=
  p.tasks.countP fun task => !task.2.isOver

/-- The blocks of the files that are done. -/
def results (p : Progress) : List (Text × List Block) :=
  p.tasks.filterMap fun task =>
    match task.2 with
    | .done blocks => some (task.1, blocks)
    | _ => none

/-- What a batch has come to: the first failure that was handed on, or the results once the work on
all files has ended. -/
def outcome (p : Progress) : Option (Except Text (List (Text × List Block))) :=
  match p.failure with
  | some message => some (.error message)
  | none => if p.remaining = 0 then some (.ok (collect p.results)) else none

end Progress

/-- The work on one file goes on to its next stage. -/
inductive Advances (x : Extractor) (work : Work) (r : Registry Grammar) (path : Text) :
    Stage → Stage → Registry Grammar → Prop where
  | dismiss : work.dismisses path = true → Advances x work r path .queued (.done []) r
  | enter : work.dismisses path = false → Advances x work r path .queued .reading r
  | fail {event : Event} : work.read path = .error (.reported event) →
      Advances x work r path .reading (.done []) r
  | contain {message : Text} : work.guardsReading = true →
      work.read path = .error (.escaped message) → Advances x work r path .reading (.done []) r
  | escape {message : Text} : work.guardsReading = false →
      work.read path = .error (.escaped message) →
      Advances x work r path .reading (.raised message) r
  | refuse {content : Text} : work.read path = .ok content → x.supports path = false →
      Advances x work r path .reading (.done []) r
  /-- The text is there, and its grammar is asked for. -/
  | ask {content : Text} : work.read path = .ok content → x.supports path = true →
      Advances x work r path .reading (.asking content r.callers.length)
        (r.step (.arrive (Extension.ofPath path))).1
  /-- The grammar is there, or it is known that there is none. -/
  | finish {content : Text} {caller : Nat} {grammar : Option Grammar} :
      r.callers[caller]? = some (.answered grammar) → work.interruptions path = none →
      Advances x work r path (.asking content caller) (.done (x.conclude path content grammar).1) r
  | interruptReading {message : Text} : work.guardsReading = true →
      work.interruptions path = some message → Advances x work r path .reading (.done []) r
  | interruptRead {content message : Text} : work.read path = .ok content →
      work.interruptions path = some message → Advances x work r path .reading (.done []) r
  | interruptAsking {content message : Text} {caller : Nat} :
      work.interruptions path = some message →
      Advances x work r path (.asking content caller) (.done []) r

/-- One step of a batch with room for some files at once.  The registry may be used by others, and
only they are cancelled. -/
inductive Step (x : Extractor) (work : Work) (room : Nat) : Progress → Progress → Prop where
  | task {p : Progress} {k : Nat} {path : Text} {stage stage' : Stage}
      {registry : Registry Grammar} :
      p.tasks[k]? = some (path, stage) → (stage = .queued → p.active < room) →
      Advances x work p.registry path stage stage' registry →
      Step x work room p
        ⟨registry, p.tasks.set k (path, stage'), p.failure.or stage'.failure?⟩
  | registry {p : Progress} {move : Registry.Move Grammar} :
      p.registry.Genuine move →
      (∀ path content caller, (path, .asking content caller) ∈ p.tasks → move ≠ .cancel caller) →
      Step x work room p { p with registry := (p.registry.step move).1 }

/-- A batch comes from one state to another in some schedule. -/
def Runs (x : Extractor) (work : Work) (room : Nat) : Progress → Progress → Prop :=
  Relation.ReflTransGen (Step x work room)

variable {loaders : List (Text × Loader Grammar)} {fresh x : Extractor} {work : Work} {room k : Nat}
  {p p' : Progress} {path content : Text} {paths : List Text} {stage stage' : Stage}
  {r r' : Registry Grammar} {outcome : Except Text (List (Text × List Block))}

/-! ## The invariant -/

/-- A file may be at a stage. -/
inductive Fits (fresh : Extractor) (work : Work) (r : Registry Grammar) (path : Text) :
    Stage → Prop where
  | queued : Fits fresh work r path .queued
  | reading : work.dismisses path = false → Fits fresh work r path .reading
  | asking {content : Text} {caller : Nat} : work.dismisses path = false →
      work.read path = .ok content → fresh.supports path = true →
      r.Asks caller (Extension.ofPath path) → Fits fresh work r path (.asking content caller)
  | done : work.escape? path = none → Fits fresh work r path (.done (work.blocks fresh path))
  | raised {message : Text} : work.escape? path = some message →
      Fits fresh work r path (.raised message)

/-- Every file of a batch is at a stage where it may be. -/
structure Consistent (loaders : List (Text × Loader Grammar)) (fresh : Extractor) (work : Work)
    (paths : List Text) (p : Progress) : Prop where
  reached : p.registry.Reached loaders
  paths_eq : p.tasks.map Prod.fst = paths
  fits : ∀ path stage, (path, stage) ∈ p.tasks → Fits fresh work p.registry path stage
  failure_ne_none : ∀ path message, (path, .raised message) ∈ p.tasks → p.failure ≠ none
  escapes : ∀ message, p.failure = some message →
    ∃ path ∈ paths, work.escape? path = some message

theorem Fits.step (h : Fits fresh work r path stage) (hsound : r.Sound)
    {move : Registry.Move Grammar}
    (hmove : ∀ content caller, stage = .asking content caller → move ≠ .cancel caller) :
    Fits fresh work (r.step move).1 path stage := by
  cases h with
  | queued => exact .queued
  | reading hread => exact .reading hread
  | done hescape => exact .done hescape
  | raised hescape => exact .raised hescape
  | asking hdismissed hread hsupports hasks =>
    exact .asking hdismissed hread hsupports (hasks.step hsound (hmove _ _ rfl))

/-- What a grammar gives is what a new extractor gives that has this grammar. -/
theorem conclude_eq (h : Serves loaders fresh x) (hsupports : fresh.supports path = true)
    (content : Text) :
    (x.conclude path content (x.grammar? path)).1 = (fresh.parseContent path content).blocks := by
  rw [← h.supports_eq] at hsupports
  obtain ⟨loading, hreport⟩ := Extractor.parseContent_supported h.reached hsupports content
  rw [← h.blocks_eq, hreport]

/-- The stage that the work on a file goes on to fits the file. -/
theorem Advances.fits (h : Advances x work r path stage stage' r') (hx : Serves loaders fresh x)
    (hreached : r.Reached loaders) (hfits : Fits fresh work r path stage) :
    Fits fresh work r' path stage' := by
  have hdone : ∀ {blocks : List Block}, work.blocks fresh path = blocks →
      work.escape? path = none → Fits fresh work r path (.done blocks) := by
    rintro blocks rfl hescape
    exact .done hescape
  cases h with
  | dismiss hdismissed =>
    exact hdone (Work.blocks_of_dismissed hdismissed fresh) (Work.escape?_of_dismissed hdismissed)
  | enter hdismissed => exact .reading hdismissed
  | fail hread =>
    exact hdone (Work.blocks_of_unread hread fresh) (Work.escape?_of_reported hread)
  | contain hguards hread =>
    exact hdone (Work.blocks_of_unread hread fresh) (Work.escape?_of_guarded hguards path)
  | escape hguards hread =>
    cases hfits with
    | reading hdismissed =>
      exact .raised (Work.escape?_eq_some_iff.mpr ⟨hdismissed, hguards, hread⟩)
  | refuse hread hsupports =>
    rw [hx.supports_eq] at hsupports
    exact hdone (Work.blocks_of_unsupported hsupports) (Work.escape?_of_read hread)
  | ask hread hsupports =>
    rw [hx.supports_eq] at hsupports
    cases hfits with
    | reading hdismissed => exact .asking hdismissed hread hsupports (hreached.asks_arrive _)
  | finish hanswered hquiet =>
    cases hfits with
    | asking hdismissed hread hsupports hasks =>
      have hgrammar := hasks.answered_eq hreached hanswered
      rw [hreached.offer_eq, ← hx.reached.offer_eq] at hgrammar
      refine hdone ?_ (Work.escape?_of_read hread)
      rw [hgrammar, Work.blocks_of_read hdismissed hread hquiet]
      exact (conclude_eq hx hsupports _).symm
  | interruptReading hguards hinterrupted =>
    exact hdone (Work.blocks_of_interrupted hinterrupted fresh)
      (Work.escape?_of_guarded hguards path)
  | interruptRead hread hinterrupted =>
    exact hdone (Work.blocks_of_interrupted hinterrupted fresh) (Work.escape?_of_read hread)
  | interruptAsking hinterrupted =>
    cases hfits with
    | asking _ hread =>
      exact hdone (Work.blocks_of_interrupted hinterrupted fresh) (Work.escape?_of_read hread)

/-- Meanwhile the other files stay where they are. -/
theorem Advances.fits_other (h : Advances x work r path stage stage' r')
    (hsound : r.Sound) {other : Text} {its : Stage} (hfits : Fits fresh work r other its) :
    Fits fresh work r' other its := by
  cases h with
  | ask => exact hfits.step hsound (fun _ _ _ => by rintro ⟨⟩)
  | dismiss | enter | fail | contain | escape | refuse | finish | interruptReading
  | interruptRead | interruptAsking => exact hfits

theorem Advances.reached (h : Advances x work r path stage stage' r')
    (hreached : r.Reached loaders) : r'.Reached loaders := by
  cases h with
  | ask => exact hreached.step trivial
  | dismiss | enter | fail | contain | escape | refuse | finish | interruptReading
  | interruptRead | interruptAsking => exact hreached

theorem map_fst_set {tasks : List (Text × Stage)} (h : tasks[k]? = some (path, stage))
    (stage' : Stage) : (tasks.set k (path, stage')).map Prod.fst = tasks.map Prod.fst := by
  have hpath : (tasks.map Prod.fst)[k]? = some path := by
    rw [List.getElem?_map, h, Option.map_some]
  obtain ⟨hlt, rfl⟩ := List.getElem?_eq_some_iff.mp hpath
  rw [List.map_set]
  exact List.set_getElem_self hlt

theorem Consistent.start (h : Serves loaders fresh x) (paths : List Text) :
    Consistent loaders fresh work paths (.start x paths) where
  reached := h.reached
  paths_eq := by
    rw [Progress.start, List.map_map]
    exact List.map_id _
  fits := by
    intro path stage hmem
    obtain ⟨other, -, heq⟩ := List.mem_map.mp hmem
    obtain ⟨rfl, rfl⟩ := Prod.mk.inj heq
    exact .queued
  failure_ne_none := by
    intro path message hmem
    obtain ⟨other, -, heq⟩ := List.mem_map.mp hmem
    cases (Prod.mk.inj heq).2
  escapes := by
    rintro message ⟨⟩

theorem Consistent.step (h : Consistent loaders fresh work paths p) (hx : Serves loaders fresh x)
    (hstep : Step x work room p p') : Consistent loaders fresh work paths p' := by
  cases hstep with
  | @task k path stage stage' registry htask hroom hadvances =>
    have hfits := hadvances.fits hx h.reached (h.fits _ _ (List.mem_of_getElem? htask))
    have hpath : path ∈ paths := by
      rw [← h.paths_eq]
      exact List.mem_map_of_mem (List.mem_of_getElem? htask)
    constructor
    case reached => exact hadvances.reached h.reached
    case paths_eq => exact (map_fst_set htask stage').trans h.paths_eq
    case fits =>
      intro other its hmem
      obtain ⟨n, hn⟩ := List.getElem?_of_mem hmem
      rcases Registry.getElem?_set_cases hn with ⟨-, heq⟩ | ⟨-, hold⟩
      · obtain ⟨rfl, rfl⟩ := Prod.mk.inj heq
        exact hfits
      · exact hadvances.fits_other h.reached.sound (h.fits _ _ (List.mem_of_getElem? hold))
    case failure_ne_none =>
      intro other message hmem
      obtain ⟨n, hn⟩ := List.getElem?_of_mem hmem
      rcases Registry.getElem?_set_cases hn with ⟨-, heq⟩ | ⟨-, hold⟩
      · obtain ⟨rfl, rfl⟩ := Prod.mk.inj heq
        simp [Stage.failure?]
      · have hfailure := h.failure_ne_none other message (List.mem_of_getElem? hold)
        simp [hfailure]
    case escapes =>
      intro message hfailure
      rcases Option.or_eq_some_iff.mp hfailure with hold | ⟨-, hnew⟩
      · exact h.escapes message hold
      · -- The failure is that of the file on which the work went on.
        cases stage' with
        | raised own =>
          obtain rfl := Option.some.inj hnew
          cases hfits with
          | raised hescape => exact ⟨path, hpath, hescape⟩
        | queued | reading | asking | done => cases hnew
  | registry hgenuine hcancel =>
    constructor
    case reached => exact h.reached.step hgenuine
    case paths_eq => exact h.paths_eq
    case fits =>
      intro path stage hmem
      apply (h.fits path stage hmem).step h.reached.sound
      rintro content caller rfl
      exact hcancel path content caller hmem
    case failure_ne_none => exact h.failure_ne_none
    case escapes => exact h.escapes

theorem Consistent.runs (h : Consistent loaders fresh work paths p) (hx : Serves loaders fresh x)
    (hruns : Runs x work room p p') : Consistent loaders fresh work paths p' := by
  induction hruns with
  | refl => exact h
  | tail _ hstep ih => exact ih.step hx hstep

/-! ## Every schedule can be brought to its end -/

/-- The work on the file at a place can be brought to its end. -/
def CanEnd (x : Extractor) (work : Work) (room : Nat) (p : Progress) (k : Nat) (path : Text) :
    Prop :=
  ∃ p' stage', Runs x work room p p' ∧ p'.tasks = p.tasks.set k (path, stage') ∧
    stage'.isOver = true

/-- One step after which the work on a file can be brought to its end. -/
theorem CanEnd.head (hstep : Step x work room p p')
    (htasks : p'.tasks = p.tasks.set k (path, stage)) (h : CanEnd x work room p' k path) :
    CanEnd x work room p k path := by
  obtain ⟨last, stage', hruns, hlast, hover⟩ := h
  refine ⟨last, stage', .head hstep hruns, ?_, hover⟩
  rw [hlast, htasks, List.set_set]

end SourceBlocks.Batch
