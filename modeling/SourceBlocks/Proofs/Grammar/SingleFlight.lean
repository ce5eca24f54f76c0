import SourceBlocks.Proofs.Grammar.Interleaving

/-!
# Loads are shared

Whatever the order in which callers arrive, are cancelled and are resumed, and loads are delivered,
kept and cleared, a key is loaded at most once and all its callers get what that one load came to.

A caller is described by what it asked for and by the state of the registry alone, and this
description is kept by every move.  A cancellation changes nothing but the cancelled caller, so the
runs with and without it go side by side.
-/

namespace SourceBlocks.Registry

variable {γ : Type} {r r' : Registry γ} {move : Move γ} {extension : Text} {number k : Nat}
  {caller : Caller γ} {capability : Option γ}

/-! ## Callers -/

/-- What may have become of a caller that asked for an extension. -/
inductive Fits (r : Registry γ) (extension : Text) : Caller γ → Prop where
  /-- There is no loader, and so there is no capability. -/
  | refused (hloader : r.loaders.lookup (Extension.normalize extension) = none) :
      Fits r extension (.answered none)
  /-- The caller has what is kept. -/
  | served {capability : Option γ}
      (hloaded : r.loaded.lookup (Extension.normalize extension) = some capability) :
      Fits r extension (.answered capability)
  /-- The caller waits for the load of its key. -/
  | waiting {number : Nat}
      (hflight : HasFlight r.flights number (Extension.normalize extension)) :
      Fits r extension (.waiting number)
  /-- The caller was cancelled while it waited. -/
  | cancelled (hloader : (r.loaders.lookup (Extension.normalize extension)).isSome) :
      Fits r extension .cancelled

theorem Sound.supported_of_flight (h : r.Sound) {key : Text}
    (hflight : HasFlight r.flights number key) : (r.loaders.lookup key).isSome := by
  obtain ⟨flight, hnumber, rfl⟩ := hflight
  exact h.supported hnumber

theorem Fits.mono (h : Fits r extension caller) (hmakes : Makes r move r') (hsound : r.Sound) :
    Fits r' extension caller := by
  have hloaders := hmakes.loaders_eq
  cases h with
  | refused hloader => exact .refused (hloaders ▸ hloader)
  | served hloaded =>
    exact .served (hsound.loaded_stays (hmakes.sound hsound) hmakes.grows hloaded)
  | waiting hflight => exact .waiting (hmakes.grows.hasFlight hflight)
  | cancelled hloader => exact .cancelled (hloaders ▸ hloader)

theorem Fits.cancel (h : Fits r extension caller) (hsound : r.Sound) :
    Fits r extension caller.cancel := by
  cases h with
  | refused hloader => exact .refused hloader
  | served hloaded => exact .served hloaded
  | waiting hflight => exact .cancelled (hsound.supported_of_flight hflight)
  | cancelled hloader => exact .cancelled hloader

theorem resume_waiting {flight : Flight γ} (hflight : r.flights[number]? = some flight) :
    Caller.resume r.flights (.waiting number) =
      (flight.landed?.map Caller.answered).getD (.waiting number) := by
  rw [Caller.resume, hflight, Option.bind_some]
  cases flight.landed? <;> rfl

theorem Fits.resume (h : Fits r extension caller) (hsound : r.Sound) :
    Fits r extension (caller.resume r.flights) := by
  cases h with
  | refused hloader => exact .refused hloader
  | served hloaded => exact .served hloaded
  | cancelled hloader => exact .cancelled hloader
  | waiting hflight =>
    obtain ⟨flight, hnumber, hkey⟩ := hflight
    rw [resume_waiting hnumber]
    cases hlanded : flight.landed? with
    | none => exact .waiting ⟨flight, hnumber, hkey⟩
    | some capability => exact .served (hkey ▸ hsound.loaded_of_landed hnumber hlanded)

theorem forall₂_modify {α β : Type} {R : α → β → Prop} {f : β → β} {as : List α} {bs : List β}
    (h : List.Forall₂ R as bs) (hf : ∀ {a : α} {b : β}, R a b → R a (f b)) (k : Nat) :
    List.Forall₂ R as (bs.modify k f) := by
  induction h generalizing k with
  | nil =>
    rw [List.modify_nil]
    exact .nil
  | cons hhead htail ih =>
    cases k with
    | zero => exact .cons (hf hhead) htail
    | succ k => exact .cons hhead (ih k)

/-- Every caller fits what it asked for after a move if every caller did before. -/
theorem Makes.fits {asked : List Text} (h : Makes r move r') (hsound : r.Sound)
    (hfits : List.Forall₂ (Fits r) asked r.callers) :
    List.Forall₂ (Fits r') (asked ++ move.request?.toList) r'.callers := by
  have hold : List.Forall₂ (Fits r') asked r.callers :=
    hfits.imp fun _ _ hone => hone.mono h hsound
  cases h with
  | answer hloaded => exact List.rel_append hold (.cons (.served hloaded) .nil)
  | refuse hloaded hloader => exact List.rel_append hold (.cons (.refused hloader) .nil)
  | join hloaded hpending =>
    exact List.rel_append hold (.cons (.waiting (hsound.pending_flight hpending)) .nil)
  | start hloaded hloader hpending =>
    exact List.rel_append hold (.cons (.waiting ⟨_, List.getElem?_concat_length, rfl⟩) .nil)
  | skip hrequest =>
    rw [hrequest, Option.toList_none, List.append_nil]
    exact hold
  | cancel k =>
    change List.Forall₂ _ (asked ++ []) _
    rw [List.append_nil]
    exact forall₂_modify hold (fun hone => hone.cancel (hsound.withCallers _)) k
  | resume k =>
    change List.Forall₂ _ (asked ++ []) _
    rw [List.append_nil]
    exact forall₂_modify hold (fun hone => hone.resume (hsound.withCallers _)) k
  | deliver | land | clear =>
    change List.Forall₂ _ (asked ++ []) _
    rw [List.append_nil]
    exact hold

theorem requests_concat (moves : List (Move γ)) (move : Move γ) :
    requests (moves ++ [move]) = requests moves ++ move.request?.toList := by
  rw [requests, requests, List.filterMap_append]
  cases h : move.request? <;> simp [h]

theorem run_fits (loaders : List (Text × Loader γ)) (moves : List (Move γ)) :
    List.Forall₂ (Fits ((ofLoaders loaders).run moves).1) (requests moves)
      ((ofLoaders loaders).run moves).1.callers := by
  induction moves using run_induction with
  | hstart => exact .nil
  | hstep moves move ih =>
    rw [requests_concat]
    exact (step_makes _ move).fits (run_sound (sound_ofLoaders loaders) moves) ih

/-- A caller that waits no more is left as it is. -/
theorem Makes.caller_stays (h : Makes r move r') (hcaller : r.callers[k]? = some caller)
    (hdone : ∀ n, caller ≠ .waiting n) : r'.callers[k]? = some caller := by
  have happend : ∀ added, (r.callers ++ [added])[k]? = some caller := by
    intro added
    rw [List.getElem?_append_left (List.getElem?_eq_some_iff.mp hcaller).1, hcaller]
  have hmodify : ∀ (f : Caller γ → Caller γ) (n : Nat), f caller = caller →
      (r.callers.modify n f)[k]? = some caller := by
    intro f n hf
    rw [List.getElem?_modify, hcaller, Option.map_eq_map, Option.map_some, hf, ite_self]
  cases h with
  | answer | refuse | join | start => exact happend _
  | cancel n =>
    apply hmodify
    cases caller with
    | waiting m => exact absurd rfl (hdone m)
    | answered | cancelled => rfl
  | resume n =>
    apply hmodify
    cases caller with
    | waiting m => exact absurd rfl (hdone m)
    | answered | cancelled => rfl
  | deliver | land | clear | skip => exact hcaller

theorem run_caller_stays (hcaller : r.callers[k]? = some caller)
    (hdone : ∀ n, caller ≠ .waiting n) (moves : List (Move γ)) :
    (r.run moves).1.callers[k]? = some caller := by
  induction moves using run_induction with
  | hstart => exact hcaller
  | hstep moves move ih => exact (step_makes _ move).caller_stays ih hdone

theorem Makes.cancelled_cases (h : Makes r move r') (hcaller : r'.callers[k]? = some .cancelled) :
    r.callers[k]? = some .cancelled ∨ move = .cancel k := by
  cases h with
  | answer | refuse | join | start =>
    rcases getElem?_concat_cases hcaller with hold | ⟨-, hnew⟩
    · exact Or.inl hold
    · cases hnew
  | cancel n =>
    by_cases heq : n = k
    · exact Or.inr (heq ▸ rfl)
    · exact Or.inl ((List.getElem?_modify_ne _ _ heq).symm.trans hcaller)
  | resume n =>
    by_cases heq : n = k
    · subst heq
      rw [List.getElem?_modify_eq, Option.map_eq_map, Option.map_eq_some_iff] at hcaller
      obtain ⟨before, hbefore, hresume⟩ := hcaller
      -- A resumed caller is answered or left as it is.
      cases before with
      | cancelled => exact Or.inl hbefore
      | answered capability => cases hresume
      | waiting number =>
        rw [Caller.resume] at hresume
        split at hresume <;> cases hresume
    · exact Or.inl ((List.getElem?_modify_ne _ _ heq).symm.trans hcaller)
  | deliver | land | clear | skip => exact Or.inl hcaller

/-- Nothing but its own cancellation cancels a caller. -/
theorem cancel_mem_of_cancelled (loaders : List (Text × Loader γ)) (moves : List (Move γ)) :
    ((ofLoaders loaders).run moves).1.callers[k]? = some .cancelled → .cancel k ∈ moves := by
  induction moves using run_induction with
  | hstart => rintro ⟨⟩
  | hstep moves move ih =>
    intro hcaller
    rcases (step_makes _ move).cancelled_cases hcaller with hold | rfl
    · exact List.mem_append_left _ (ih hold)
    · exact List.mem_append_right _ (List.mem_singleton_self _)

/-! ## Outcomes -/

/-- What the loader of a flight has delivered, if it has. -/
def deliveredOutcome? (flight : Flight γ) : Option (Outcome γ) :=
  match flight.stage with
  | .loading => none
  | .delivered outcome => some outcome
  | .landed outcome => some outcome

theorem exists_delivered_of_landed {flight : Flight γ}
    (h : flight.landed? = some capability) :
    ∃ outcome, deliveredOutcome? flight = some outcome ∧
      capability = Outcome.capability outcome := by
  obtain ⟨key, stage⟩ := flight
  cases stage with
  | loading => cases h
  | delivered outcome => cases h
  | landed outcome => exact ⟨outcome, rfl, (Option.some.inj h).symm⟩

theorem Makes.delivered_cases (h : Makes r move r') {flight : Flight γ} {outcome : Outcome γ}
    (hflight : r'.flights[number]? = some flight)
    (houtcome : deliveredOutcome? flight = some outcome) :
    (∃ before, r.flights[number]? = some before ∧ deliveredOutcome? before = some outcome) ∨
      ∃ delivery, move = .deliver number delivery ∧ delivery.outcome = outcome := by
  cases h with
  | start =>
    rcases getElem?_concat_cases hflight with hold | ⟨-, rfl⟩
    · exact Or.inl ⟨flight, hold, houtcome⟩
    · cases houtcome
  | deliver delivery hloading =>
    rcases getElem?_set_cases hflight with ⟨rfl, rfl⟩ | ⟨-, hold⟩
    · exact Or.inr ⟨delivery, rfl, Option.some.inj houtcome⟩
    · exact Or.inl ⟨flight, hold, houtcome⟩
  | land hdelivered =>
    rcases getElem?_set_cases hflight with ⟨rfl, rfl⟩ | ⟨-, hold⟩
    · exact Or.inl ⟨_, hdelivered, houtcome⟩
    · exact Or.inl ⟨flight, hold, houtcome⟩
  | answer | refuse | join | cancel | clear | resume | skip =>
    exact Or.inl ⟨flight, hflight, houtcome⟩

/-- What a flight brings was delivered to it. -/
theorem deliver_mem_of_delivered (loaders : List (Text × Loader γ)) (moves : List (Move γ))
    {outcome : Outcome γ} :
    ∀ {flight : Flight γ}, ((ofLoaders loaders).run moves).1.flights[number]? = some flight →
      deliveredOutcome? flight = some outcome →
      ∃ delivery, .deliver number delivery ∈ moves ∧ delivery.outcome = outcome := by
  induction moves using run_induction with
  | hstart => rintro flight ⟨⟩
  | hstep moves move ih =>
    intro flight hflight houtcome
    rcases (step_makes _ move).delivered_cases hflight houtcome with
      ⟨before, hbefore, hold⟩ | ⟨delivery, rfl, rfl⟩
    · obtain ⟨delivery, hmem, rfl⟩ := ih hbefore hold
      exact ⟨delivery, List.mem_append_left _ hmem, rfl⟩
    · exact ⟨delivery, List.mem_append_right _ (List.mem_singleton_self _), rfl⟩

/-- A load comes to its end whatever its loader delivers, and comes to what is delivered if
nothing was before. -/
theorem Sound.finishes (h : r.Sound) {flight : Flight γ}
    (hflight : r.flights[number]? = some flight) (delivery : Delivery γ) :
    ∃ capability, (r.run [.deliver number delivery, .land number]).1.loaded.lookup flight.key =
        some capability ∧
      (deliveredOutcome? flight = none → capability = Outcome.capability delivery.outcome) := by
  -- A move that comes too late for the stage of the flight is skipped.
  obtain ⟨key, stage⟩ := flight
  change ∃ capability,
    ((r.step (.deliver number delivery)).1.step (.land number)).1.loaded.lookup key =
      some capability ∧ _
  cases stage with
  | loading =>
    have hlt := (List.getElem?_eq_some_iff.mp hflight).1
    refine ⟨Outcome.capability delivery.outcome, ?_, fun _ => rfl⟩
    simp only [step, hflight, List.getElem?_set_self hlt, List.lookup_cons_self]
  | delivered outcome =>
    refine ⟨Outcome.capability outcome, ?_, fun hnone => by cases hnone⟩
    simp only [step, hflight, List.lookup_cons_self]
  | landed outcome =>
    refine ⟨Outcome.capability outcome, ?_, fun hnone => by cases hnone⟩
    simp only [step, hflight]
    exact h.loaded_of_landed hflight rfl

/-! ## Cancellations -/

def Move.isCancel : Move γ → Bool
  | .cancel _ => true
  | _ => false

/-- The moves that are left when nobody is cancelled. -/
def uncancelled (moves : List (Move γ)) : List (Move γ) :=
  moves.filter fun move => !move.isCancel

/-- Two registries that differ in some callers at most. -/
structure Alike (apart : Nat → Prop) (r r' : Registry γ) : Prop where
  loaders_eq : r.loaders = r'.loaders
  loaded_eq : r.loaded = r'.loaded
  flights_eq : r.flights = r'.flights
  pending_eq : r.pending = r'.pending
  length_eq : r.callers.length = r'.callers.length
  callers_eq : ∀ k, ¬ apart k → r.callers[k]? = r'.callers[k]?

variable {apart : Nat → Prop}

theorem Alike.refl (r : Registry γ) : Alike apart r r :=
  ⟨rfl, rfl, rfl, rfl, rfl, fun _ _ => rfl⟩

theorem Alike.symm (h : Alike apart r r') : Alike apart r' r :=
  ⟨h.loaders_eq.symm, h.loaded_eq.symm, h.flights_eq.symm, h.pending_eq.symm, h.length_eq.symm,
    fun k hk => (h.callers_eq k hk).symm⟩

theorem Alike.trans {r'' : Registry γ} (h : Alike apart r r') (h' : Alike apart r' r'') :
    Alike apart r r'' :=
  ⟨h.loaders_eq.trans h'.loaders_eq, h.loaded_eq.trans h'.loaded_eq,
    h.flights_eq.trans h'.flights_eq, h.pending_eq.trans h'.pending_eq,
    h.length_eq.trans h'.length_eq, fun k hk => (h.callers_eq k hk).trans (h'.callers_eq k hk)⟩

theorem Alike.step (h : Alike apart r r') (move : Move γ) :
    Alike apart (r.step move).1 (r'.step move).1 := by
  obtain ⟨loaders, loaded, flights, pending, callers⟩ := r
  obtain ⟨loaders', loaded', flights', pending', callers'⟩ := r'
  obtain ⟨rfl, rfl, rfl, rfl, hlength, hcallers⟩ := h
  -- A move reads the fields that agree, and adds to the callers or changes one of them.
  have happend : ∀ caller loaders loaded flights pending,
      Alike apart ⟨loaders, loaded, flights, pending, callers ++ [caller]⟩
        ⟨loaders, loaded, flights, pending, callers' ++ [caller]⟩ := by
    intro caller _ _ _ _
    refine ⟨rfl, rfl, rfl, rfl, by simpa using hlength, fun k hk => ?_⟩
    rw [List.getElem?_append, List.getElem?_append, hlength, hcallers k hk]
  have hmodify : ∀ (f : Caller γ → Caller γ) (n : Nat),
      Alike apart ⟨loaders, loaded, flights, pending, callers.modify n f⟩
        ⟨loaders, loaded, flights, pending, callers'.modify n f⟩ := by
    intro f n
    refine ⟨rfl, rfl, rfl, rfl, by simpa using hlength, fun k hk => ?_⟩
    rw [List.getElem?_modify, List.getElem?_modify, hcallers k hk]
  have hsame : ∀ loaded flights pending, Alike apart ⟨loaders, loaded, flights, pending, callers⟩
      ⟨loaders, loaded, flights, pending, callers'⟩ :=
    fun _ _ _ => ⟨rfl, rfl, rfl, rfl, hlength, hcallers⟩
  cases move with
  | arrive extension =>
    simp only [Registry.step, admitCaller]
    cases loaded.lookup (Extension.normalize extension) with
    | some capability => exact happend _ _ _ _ _
    | none =>
      cases loaders.lookup (Extension.normalize extension) with
      | none => exact happend _ _ _ _ _
      | some loader =>
        cases pending.lookup (Extension.normalize extension) with
        | some number => exact happend _ _ _ _ _
        | none => exact happend _ _ _ _ _
  | cancel n => exact hmodify _ n
  | resume n => exact hmodify _ n
  | deliver number delivery =>
    simp only [Registry.step]
    split <;> exact hsame _ _ _
  | land number =>
    simp only [Registry.step]
    split <;> exact hsame _ _ _
  | clear number =>
    simp only [Registry.step]
    split <;> exact hsame _ _ _

theorem Alike.cancel_left (h : Alike apart r r') (hk : apart k) :
    Alike apart (r.step (.cancel k)).1 r' where
  loaders_eq := h.loaders_eq
  loaded_eq := h.loaded_eq
  flights_eq := h.flights_eq
  pending_eq := h.pending_eq
  length_eq := (List.length_modify ..).trans h.length_eq
  callers_eq n hn := by
    have hne : k ≠ n := by
      rintro rfl
      exact hn hk
    exact (List.getElem?_modify_ne _ _ hne).trans (h.callers_eq n hn)

/-- A run and the same run without cancellations go side by side. -/
theorem run_uncancelled (h : Alike apart r r') (moves : List (Move γ))
    (hapart : ∀ k, .cancel k ∈ moves → apart k) :
    Alike apart (r.run moves).1 (r'.run (uncancelled moves)).1 := by
  induction moves generalizing r r' with
  | nil => exact h
  | cons move moves ih =>
    have hlater : ∀ k, .cancel k ∈ moves → apart k :=
      fun k hk => hapart k (List.mem_cons_of_mem _ hk)
    cases hcancel : move.isCancel with
    | false =>
      rw [uncancelled, List.filter_cons_of_pos (by rw [hcancel]; rfl)]
      exact ih (h.step move) hlater
    | true =>
      rw [uncancelled, List.filter_cons_of_neg (by rw [hcancel]; decide)]
      cases move with
      | cancel k => exact ih (h.cancel_left (hapart k List.mem_cons_self)) hlater
      | arrive | deliver | land | clear | resume => cases hcancel

/-- Two runs that differ in cancellations only give the same to all that neither cancels. -/
theorem run_alike (r : Registry γ) {moves other : List (Move γ)}
    (hsame : uncancelled moves = uncancelled other) :
    Alike (fun k => .cancel k ∈ moves ∨ .cancel k ∈ other) (r.run moves).1 (r.run other).1 := by
  have hmoves := run_uncancelled (.refl r) moves fun k hk => Or.inl (b := .cancel k ∈ other) hk
  have hother := run_uncancelled (.refl r) other fun k hk => Or.inr (a := .cancel k ∈ moves) hk
  rw [← hsame] at hother
  exact hmoves.trans hother.symm

/-! ## Single flight -/

theorem Sound.started_once (h : r.Sound) (key : Text) :
    (r.flights.countP fun flight => flight.key == key) ≤ 1 := by
  have hcount := List.nodup_iff_count_le_one.mp h.keys_nodup key
  rw [List.count, List.countP_map] at hcount
  exact hcount

/-- A load that was started is pending, or its outcome is kept. -/
theorem Sound.in_view (h : r.Sound) {flight : Flight γ} (hflight : flight ∈ r.flights) :
    (r.pending.lookup flight.key).isSome ∨ (r.loaded.lookup flight.key).isSome := by
  obtain ⟨number, hnumber⟩ := List.getElem?_of_mem hflight
  cases hlanded : flight.landed? with
  | none =>
    rw [h.pending_of_not_landed hnumber hlanded]
    exact Or.inl rfl
  | some capability =>
    rw [h.loaded_of_landed hnumber hlanded]
    exact Or.inr rfl

theorem Sound.supported_of_loaded (h : r.Sound) {key : Text}
    (hloaded : r.loaded.lookup key = some capability) : (r.loaders.lookup key).isSome := by
  obtain ⟨number, flight, hflight, rfl, -⟩ := h.loaded_flight hloaded
  exact h.supported hflight

theorem exists_of_forall₂ {α β : Type} {R : α → β → Prop} {as : List α} {bs : List β} {a : α}
    (h : List.Forall₂ R as bs) (ha : as[k]? = some a) : ∃ b, bs[k]? = some b ∧ R a b := by
  induction h generalizing k with
  | nil => cases ha
  | cons hhead htail ih =>
    cases k with
    | zero =>
      obtain rfl := Option.some.inj ha
      exact ⟨_, rfl, hhead⟩
    | succ k => exact ih ha

/-- A caller that fits what it asked for, and is not cancelled, has what is kept as soon as it is
resumed. -/
theorem Fits.resume_loaded (h : Fits r extension caller) (hsound : r.Sound)
    (hloaded : r.loaded.lookup (Extension.normalize extension) = some capability)
    (hcaller : caller ≠ .cancelled) : caller.resume r.flights = .answered capability := by
  cases h with
  | cancelled => exact absurd rfl hcaller
  | refused hloader =>
    have hsupported := hsound.supported_of_loaded hloaded
    rw [hloader] at hsupported
    cases hsupported
  | served hserved =>
    obtain rfl := Option.some.inj (hserved.symm.trans hloaded)
    rfl
  | waiting hflight =>
    obtain ⟨flight, hnumber, hkey⟩ := hflight
    rw [← hkey] at hloaded
    rw [resume_waiting hnumber, hsound.landed_of_loaded hnumber hloaded]
    rfl

/-- The registry after moves from the start. -/
def after (loaders : List (Text × Loader γ)) (moves : List (Move γ)) : Registry γ :=
  ((ofLoaders loaders).run moves).1

/-- What callers get of a load: what it came to if it succeeded, and nothing if it failed. -/
inductive Gives : Outcome γ → Option γ → Prop where
  | succeeded (capability : Option γ) : Gives (.ok capability) capability
  | failed (message : Text) : Gives (.error message) none

theorem gives_iff {outcome : Outcome γ} :
    Gives outcome capability ↔ capability = Outcome.capability outcome := by
  constructor
  · intro h
    cases h <;> rfl
  · rintro rfl
    cases outcome with
    | ok capability => exact .succeeded capability
    | error message => exact .failed message

/-- What the loads and the callers of a registry have come to after some moves. -/
structure SingleFlight (loaders : List (Text × Loader γ)) (moves : List (Move γ)) : Prop where
  /-- The loader of a key is started once at most. -/
  started_once : ∀ key, ((after loaders moves).flights.countP fun flight => flight.key == key) ≤ 1
  /-- A load that was started is pending, or its outcome is kept. -/
  in_view : ∀ flight ∈ (after loaders moves).flights,
    ((after loaders moves).pending.lookup flight.key).isSome ∨
      ((after loaders moves).loaded.lookup flight.key).isSome
  /-- What is kept stays, whatever comes later. -/
  loaded_stays : ∀ (key : Text) (capability : Option γ) (later : List (Move γ)),
    (after loaders moves).loaded.lookup key = some capability →
      (after loaders (moves ++ later)).loaded.lookup key = some capability
  /-- What is kept for a key is what its one load delivered, and nothing if that failed. -/
  loaded_delivered : ∀ key capability,
    (after loaders moves).loaded.lookup key = some capability →
      ∃ number flight delivery, (after loaders moves).flights[number]? = some flight ∧
        flight.key = key ∧ .deliver number delivery ∈ moves ∧
        Gives delivery.outcome capability
  /-- A load that was started can always be brought to its end. -/
  finishes : ∀ number flight delivery, (after loaders moves).flights[number]? = some flight →
    ∃ capability,
      (after loaders (moves ++ [.deliver number delivery, .land number])).loaded.lookup flight.key =
        some capability ∧
      (deliveredOutcome? flight = none → Gives delivery.outcome capability)
  /-- Every caller is refused, has what is kept, waits for the load of its key or is cancelled. -/
  callers_fit : List.Forall₂ (Fits (after loaders moves)) (requests moves)
    (after loaders moves).callers
  /-- A caller without a loader gets nothing, and gets it at once. -/
  unsupported : ∀ (k : Nat) (extension : Text), (requests moves)[k]? = some extension →
    (ofLoaders loaders).supports extension = false →
      (after loaders moves).callers[k]? = some (.answered none)
  /-- A caller that is resumed when the outcome of its key is kept has this outcome for good. -/
  served : ∀ (k : Nat) (extension : Text) (capability : Option γ) (later : List (Move γ)),
    (requests moves)[k]? = some extension →
    (after loaders moves).loaded.lookup (Extension.normalize extension) = some capability →
    .cancel k ∉ moves →
      (after loaders (moves ++ .resume k :: later)).callers[k]? = some (.answered capability)
  /-- Nothing but its own cancellation cancels a caller. -/
  cancelled_own : ∀ k : Nat, (after loaders moves).callers[k]? = some .cancelled → .cancel k ∈ moves
  /-- Other cancellations change neither the loads nor the callers that are not cancelled. -/
  unaffected : ∀ other : List (Move γ), uncancelled moves = uncancelled other →
    (after loaders moves).flights = (after loaders other).flights ∧
    (after loaders moves).loaded = (after loaders other).loaded ∧
    (after loaders moves).pending = (after loaders other).pending ∧
    ∀ k : Nat, .cancel k ∉ moves → .cancel k ∉ other →
      (after loaders moves).callers[k]? = (after loaders other).callers[k]?

/-- Loads are shared under any interleaving of callers and loads. -/
theorem loads_single_flight (loaders : List (Text × Loader γ)) (moves : List (Move γ)) :
    SingleFlight loaders moves := by
  have hsound : (after loaders moves).Sound := run_sound (sound_ofLoaders loaders) moves
  have hfits : List.Forall₂ (Fits (after loaders moves)) (requests moves)
      (after loaders moves).callers := run_fits loaders moves
  constructor
  case started_once => exact hsound.started_once
  case in_view => exact fun flight hflight => hsound.in_view hflight
  case loaded_stays =>
    intro key capability later hloaded
    rw [after, run_append]
    exact hsound.loaded_stays (run_sound hsound later) (run_grows _ later) hloaded
  case loaded_delivered =>
    intro key capability hloaded
    obtain ⟨number, flight, hflight, hkey, hlanded⟩ := hsound.loaded_flight hloaded
    obtain ⟨outcome, houtcome, rfl⟩ := exists_delivered_of_landed hlanded
    obtain ⟨delivery, hmem, rfl⟩ := deliver_mem_of_delivered loaders moves hflight houtcome
    exact ⟨number, flight, delivery, hflight, hkey, hmem, gives_iff.mpr rfl⟩
  case finishes =>
    intro number flight delivery hflight
    rw [after, run_append]
    simp only [gives_iff]
    exact hsound.finishes hflight delivery
  case callers_fit => exact hfits
  case unsupported =>
    intro k extension hrequest hsupports
    obtain ⟨caller, hcaller, hfit⟩ := exists_of_forall₂ hfits hrequest
    have hloader :
        ¬ ((after loaders moves).loaders.lookup (Extension.normalize extension)).isSome := by
      rw [after, run_loaders]
      exact Bool.eq_false_iff.mp hsupports
    cases hfit with
    | refused => exact hcaller
    | served hloaded => exact absurd (hsound.supported_of_loaded hloaded) hloader
    | waiting hflight => exact absurd (hsound.supported_of_flight hflight) hloader
    | cancelled hsupported => exact absurd hsupported hloader
  case served =>
    intro k extension capability later hrequest hloaded hcancel
    obtain ⟨caller, hcaller, hfit⟩ := exists_of_forall₂ hfits hrequest
    have hnot : caller ≠ .cancelled := by
      rintro rfl
      exact hcancel (cancel_mem_of_cancelled loaders moves hcaller)
    have hresume : ((after loaders moves).step (.resume k)).1.callers[k]? =
        some (.answered capability) := by
      rw [step, List.getElem?_modify_eq, hcaller, Option.map_eq_map, Option.map_some,
        hfit.resume_loaded hsound hloaded hnot]
    rw [after, run_append]
    exact run_caller_stays hresume (fun n => by rintro ⟨⟩) later
  case cancelled_own => exact fun k => cancel_mem_of_cancelled loaders moves
  case unaffected =>
    intro other hsame
    have halike := run_alike (ofLoaders loaders) hsame
    refine ⟨halike.flights_eq, halike.loaded_eq, halike.pending_eq, fun k hmoves hother => ?_⟩
    exact halike.callers_eq k fun hor => hor.elim hmoves hother

/-- A loader that succeeds, and one that fails. -/
def twoLoaders : List (Text × Loader Nat) :=
  [("ts".toList, ⟨"ts".toList, ⟨.ok (some 7), []⟩⟩),
   ("py".toList, ⟨"py".toList, ⟨.error "no parser".toList, []⟩⟩)]

/-- Of two callers that share a load the first one is cancelled; the load that a third one waits
for fails; the last ones come when the outcomes are kept, or ask for what has no loader. -/
def sharingMoves : List (Move Nat) :=
  [.arrive ".TS".toList, .arrive "ts".toList, .arrive "py".toList, .cancel 0,
   .deliver 1 ⟨.error "no parser".toList, []⟩, .deliver 0 ⟨.ok (some 7), []⟩, .land 0,
   .arrive "a.ts".toList, .clear 0, .resume 1, .land 1, .resume 2, .clear 1,
   .arrive ".PY".toList, .arrive "rb".toList]

theorem loads_single_flight_sharingMoves :
    SingleFlight twoLoaders sharingMoves ∧
      (after twoLoaders sharingMoves).callers =
        [.cancelled, .answered (some 7), .answered none, .answered (some 7), .answered none,
          .answered none] ∧
      (after twoLoaders sharingMoves).flights.length = 2 :=
  ⟨loads_single_flight twoLoaders sharingMoves, rfl, rfl⟩

end SourceBlocks.Registry
