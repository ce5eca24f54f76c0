import SourceBlocks.Grammar.Basic

/-!
# The grammar registry

A registry loads the grammar of an extension when it is first asked for and keeps the outcome.
Callers that ask while a load is under way wait for that load and start none of their own.

The registry is a machine whose moves are the points at which callers and loads may interleave: a
caller arrives, is cancelled or is resumed; a loader delivers; its outcome is kept; a load whose
outcome is kept is cleared from the list of those under way.  What a loader delivers is part of the
move.  `obtain` and `gather` run the moves in one particular order, with what the registered
loaders deliver.
-/

namespace SourceBlocks

/-- What a loader comes to.  A failure has a message; a success may still come to nothing. -/
abbrev Outcome (γ : Type) := Except Text (Option γ)

/-- What a loader delivers: its outcome, and what it reports on the way. -/
structure Delivery (γ : Type) where
  outcome : Outcome γ
  report : List Event

/-- A way to load what stands behind an extension. -/
structure Loader (γ : Type) where
  /-- The extension as the loader was registered. -/
  source : Text
  delivery : Delivery γ

/-- What an outcome gives to callers; a failure gives nothing. -/
def Outcome.capability {γ : Type} : Outcome γ → Option γ
  | .ok capability => capability
  | .error _ => none

/-- What is reported when the outcome of a key's load is kept. -/
def Outcome.events {γ : Type} (key : Text) : Outcome γ → List Event
  | .ok _ => []
  | .error message => [.grammarLoadFailed key message]

/-- How far a load has come. -/
inductive Flight.Stage (γ : Type) where
  /-- The loader is at work. -/
  | loading
  /-- The loader has delivered, and nobody knows yet. -/
  | delivered (outcome : Outcome γ)
  /-- The outcome is kept. -/
  | landed (outcome : Outcome γ)

/-- A load that was started for a key. -/
structure Flight (γ : Type) where
  key : Text
  stage : Flight.Stage γ

/-- What a landed load gives to those who wait for it. -/
def Flight.landed? {γ : Type} (flight : Flight γ) : Option (Option γ) :=
  match flight.stage with
  | .landed outcome => some (Outcome.capability outcome)
  | _ => none

/-- Somebody who asked for an extension. -/
inductive Caller (γ : Type) where
  | waiting (flight : Nat)
  | answered (capability : Option γ)
  | cancelled

/-- A caller after its wait, if the flight it waits for has landed. -/
def Caller.resume {γ : Type} (flights : List (Flight γ)) : Caller γ → Caller γ
  | .waiting flight =>
    match (flights[flight]?).bind Flight.landed? with
    | some capability => .answered capability
    | none => .waiting flight
  | caller => caller

/-- A caller after its cancellation, which comes too late for an answered one. -/
def Caller.cancel {γ : Type} : Caller γ → Caller γ
  | .waiting _ => .cancelled
  | caller => caller

/-- A registry: the loaders by normal extension, the outcomes kept so far, all flights ever
started, the number of the flight that is under way for a key, and all callers. -/
structure Registry (γ : Type) where
  loaders : List (Text × Loader γ)
  loaded : List (Text × Option γ)
  flights : List (Flight γ)
  pending : List (Text × Nat)
  callers : List (Caller γ)

namespace Registry

variable {γ : Type}

/-- A registry for loaders by extension in any spelling.  Of two loaders for one extension the
later one counts. -/
def ofLoaders (loaders : List (Text × Loader γ)) : Registry γ :=
  { loaders :=
      (loaders.map fun (extension, loader) => (Extension.normalize extension, loader)).reverse
    loaded := []
    flights := []
    pending := []
    callers := [] }

/-- Whether there is a loader for an extension. -/
def supports (r : Registry γ) (extension : Text) : Bool :=
  (r.loaders.lookup (Extension.normalize extension)).isSome

/-- The normal extensions that have a loader, sorted. -/
def extensions (r : Registry γ) : List Text :=
  ((r.loaders.map Prod.fst).eraseDups).mergeSort Text.le

/-- A point at which callers and loads may interleave. -/
inductive Move (γ : Type) where
  | arrive (extension : Text)
  | cancel (caller : Nat)
  | deliver (flight : Nat) (delivery : Delivery γ)
  | land (flight : Nat)
  | clear (flight : Nat)
  | resume (caller : Nat)

/-- How a new caller starts out, and the registry with the load that the caller may start. -/
def admitCaller (r : Registry γ) (extension : Text) : Caller γ × Registry γ :=
  let key := Extension.normalize extension
  match r.loaded.lookup key with
  | some capability => (.answered capability, r)
  | none =>
    match r.loaders.lookup key with
    | none => (.answered none, r)
    | some _ =>
      match r.pending.lookup key with
      | some flight => (.waiting flight, r)
      | none =>
        (.waiting r.flights.length,
          { r with
            flights := r.flights ++ [⟨key, .loading⟩]
            pending := (key, r.flights.length) :: r.pending })

/-- One move, and what is reported on the way. -/
def step (r : Registry γ) : Move γ → Registry γ × List Event
  | .arrive extension =>
    let (caller, r) := r.admitCaller extension
    ({ r with callers := r.callers ++ [caller] }, [])
  | .cancel caller => ({ r with callers := r.callers.modify caller Caller.cancel }, [])
  | .deliver flight delivery =>
    match r.flights[flight]? with
    | some ⟨key, .loading⟩ =>
      ({ r with flights := r.flights.set flight ⟨key, .delivered delivery.outcome⟩ },
        delivery.report)
    | _ => (r, [])
  | .land flight =>
    match r.flights[flight]? with
    | some ⟨key, .delivered outcome⟩ =>
      ({ r with
          loaded := (key, Outcome.capability outcome) :: r.loaded
          flights := r.flights.set flight ⟨key, .landed outcome⟩ },
        Outcome.events key outcome)
    | _ => (r, [])
  | .clear flight =>
    match r.flights[flight]? with
    | some ⟨key, .landed _⟩ =>
      ({ r with pending := r.pending.filter fun entry => entry.1 ≠ key }, [])
    | _ => (r, [])
  | .resume caller => ({ r with callers := r.callers.modify caller (Caller.resume r.flights) }, [])

/-- Several moves, one after the other. -/
def run (r : Registry γ) : List (Move γ) → Registry γ × List Event
  | [] => (r, [])
  | move :: later =>
    let (r, events) := r.step move
    let (r, laterEvents) := r.run later
    (r, events ++ laterEvents)

/-- The moves that bring home all loads that are under way. -/
def landings (r : Registry γ) : List (Move γ) :=
  r.flights.zipIdx.flatMap fun (flight, number) =>
    match r.loaders.lookup flight.key with
    | some loader => [.deliver number loader.delivery, .land number, .clear number]
    | none => []

/-- What a caller got. -/
inductive Answer (γ : Type) where
  | capability (capability : Option γ)
  | cancelled

/-- The answer that a caller has by now. -/
def answer (r : Registry γ) (caller : Nat) : Answer γ :=
  match r.callers[caller]? with
  | some .cancelled => .cancelled
  | some (.answered capability) => .capability capability
  | _ => .capability none

/-- Several callers at once, of whom some are cancelled before any load lands. -/
def gather (r : Registry γ) (extensions : List Text) (cancelled : List Nat) :
    List (Answer γ) × Registry γ × List Event :=
  let first := r.callers.length
  let own := (List.range extensions.length).map (first + ·)
  let (r, early) := r.run (extensions.map .arrive ++ cancelled.map fun i => .cancel (first + i))
  let (r, late) := r.run (r.landings ++ own.map .resume)
  (own.map r.answer, r, early ++ late)

/-- One caller by itself. -/
def obtain (r : Registry γ) (extension : Text) : Option γ × Registry γ × List Event :=
  match r.gather [extension] [] with
  | ([.capability capability], r, events) => (capability, r, events)
  | (_, r, events) => (none, r, events)

/-- How often the loader registered under an extension was started. -/
def loadCount (r : Registry γ) (source : Text) : Nat :=
  r.flights.countP fun flight =>
    ((r.loaders.lookup flight.key).map fun loader => decide (loader.source = source)).getD false

/-- The loaders of the bundled grammars, whose languages have the given parsers. -/
def bundledLoaders (parserOf : Text → Grammar.Parser) : List (Text × Loader Grammar) :=
  Grammar.byExtension.map fun (extension, spec) =>
    (extension,
      match spec.load (parserOf spec.name) with
      | .ok grammar => ⟨extension, .ok (some grammar), [spec.loadReport]⟩
      | .error error => ⟨extension, .error error.message, []⟩)

end Registry

end SourceBlocks
