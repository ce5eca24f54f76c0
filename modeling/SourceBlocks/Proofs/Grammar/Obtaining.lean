import SourceBlocks.Proofs.Grammar.SingleFlight

/-!
# What a caller obtains

Loaders that deliver the same each time make the registry forget nothing and remember nothing that
matters: whatever has happened to it, a caller that asks for an extension and waits obtains what
the loader of this extension delivers.
-/

namespace SourceBlocks.Registry

variable {γ : Type} {loaders : List (Text × Loader γ)} {r r' : Registry γ} {move : Move γ}
  {moves : List (Move γ)} {extension key : Text} {number k : Nat} {capability : Option γ}

/-- What the loader of a key gives, or nothing if there is none. -/
def offer (r : Registry γ) (key : Text) : Option γ :=
  (r.loaders.lookup key).bind fun loader => Outcome.capability loader.delivery.outcome

/-- A flight brings what the loader of its key delivers.  No other move depends on loaders. -/
def Genuine (r : Registry γ) : Move γ → Prop
  | .deliver number delivery =>
    ∃ flight loader, r.flights[number]? = some flight ∧
      r.loaders.lookup flight.key = some loader ∧ delivery = loader.delivery
  | _ => True

/-- What becomes of a registry by any calls whatever. -/
inductive Leads (r : Registry γ) : Registry γ → Prop where
  | refl : Leads r r
  | step {r' : Registry γ} {move : Move γ} :
      Leads r r' → r'.Genuine move → Leads r (r'.step move).1

/-- What becomes of a new registry by any calls whatever. -/
abbrev Reached (loaders : List (Text × Loader γ)) (r : Registry γ) : Prop :=
  Leads (ofLoaders loaders) r

/-! ## What is kept -/

theorem Reached.loaders_eq (h : Reached loaders r) : r.loaders = (ofLoaders loaders).loaders := by
  induction h with
  | refl => rfl
  | step _ _ ih => exact (step_makes _ _).loaders_eq.trans ih

theorem Reached.offer_eq (h : Reached loaders r) (key : Text) :
    r.offer key = (ofLoaders loaders).offer key := by
  rw [offer, offer, h.loaders_eq]

theorem Reached.sound (h : Reached loaders r) : r.Sound := by
  induction h with
  | refl => exact sound_ofLoaders loaders
  | step _ _ ih => exact (step_makes _ _).sound ih

/-- What a flight has brought is what the loader of its key delivers. -/
theorem Reached.delivered_eq (h : Reached loaders r) {flight : Flight γ} {outcome : Outcome γ}
    (hflight : r.flights[number]? = some flight)
    (houtcome : deliveredOutcome? flight = some outcome) :
    r.offer flight.key = Outcome.capability outcome := by
  induction h generalizing flight with
  | refl => cases hflight
  | @step r move _ hgenuine ih =>
    have hmakes := step_makes r move
    have hoffer : ∀ key, (r.step move).1.offer key = r.offer key := by
      intro key
      rw [offer, offer, hmakes.loaders_eq]
    have hsame : ∀ {before : Flight γ}, r.flights[number]? = some before →
        before.key = flight.key := by
      intro before hbefore
      obtain ⟨later, hlater, hkey, -⟩ := hmakes.grows number before hbefore
      obtain rfl := Option.some.inj (hlater.symm.trans hflight)
      exact hkey.symm
    rw [hoffer]
    rcases hmakes.delivered_cases hflight houtcome with
      ⟨before, hbefore, hold⟩ | ⟨delivery, rfl, rfl⟩
    · rw [← hsame hbefore]
      exact ih hbefore hold
    · obtain ⟨before, loader, hbefore, hloader, rfl⟩ := hgenuine
      rw [← hsame hbefore, offer, hloader, Option.bind_some]

theorem Reached.loaded_eq (h : Reached loaders r)
    (hloaded : r.loaded.lookup key = some capability) : capability = r.offer key := by
  obtain ⟨number, flight, hflight, rfl, hlanded⟩ := h.sound.loaded_flight hloaded
  obtain ⟨outcome, houtcome, rfl⟩ := exists_delivered_of_landed hlanded
  exact (h.delivered_eq hflight houtcome).symm

theorem Makes.genuine (h : Makes r move r') {other : Move γ} (hother : r.Genuine other) :
    r'.Genuine other := by
  cases other with
  | deliver number delivery =>
    obtain ⟨flight, loader, hflight, hloader, hdelivery⟩ := hother
    obtain ⟨later, hlater, hkey, -⟩ := h.grows number flight hflight
    refine ⟨later, loader, hlater, ?_, hdelivery⟩
    rw [hkey, h.loaders_eq]
    exact hloader
  | arrive | cancel | land | clear | resume => trivial

/-- Moves that are genuine at first are still genuine when it is their turn. -/
theorem Leads.run {first : Registry γ} (h : first.Leads r)
    (hmoves : ∀ move ∈ moves, r.Genuine move) : first.Leads (r.run moves).1 := by
  induction moves generalizing r with
  | nil => exact h
  | cons move later ih =>
    apply ih (h.step (hmoves move List.mem_cons_self))
    intro other hother
    exact (step_makes r move).genuine (hmoves other (List.mem_cons_of_mem _ hother))

theorem Leads.trans {first : Registry γ} (h : first.Leads r) (h' : r.Leads r') :
    first.Leads r' := by
  induction h' with
  | refl => exact h
  | step _ hgenuine ih => exact ih.step hgenuine

theorem Leads.grows (h : r.Leads r') : Grows r.flights r'.flights := by
  induction h with
  | refl => exact .refl _
  | step _ _ ih => exact ih.trans (step_makes _ _).grows

/-- What is kept stays, whatever the registry is used for. -/
theorem Reached.loaded_stays (h : Reached loaders r) (hleads : r.Leads r')
    (hloaded : r.loaded.lookup key = some capability) :
    r'.loaded.lookup key = some capability :=
  h.sound.loaded_stays (Reached.sound (h.trans hleads)) hleads.grows hloaded

/-- The loader of a key whose outcome is kept was started exactly once. -/
theorem Sound.started_of_loaded (h : r.Sound) (hloaded : r.loaded.lookup key = some capability) :
    (r.flights.countP fun flight => flight.key == key) = 1 := by
  obtain ⟨number, flight, hflight, rfl, -⟩ := h.loaded_flight hloaded
  apply Nat.le_antisymm (h.started_once flight.key)
  exact List.countP_pos_iff.mpr ⟨flight, List.mem_of_getElem? hflight, beq_self_eq_true _⟩

/-! ## Somebody who asks -/

/-- A caller asked for an extension and was not cancelled. -/
def Asks (r : Registry γ) (k : Nat) (extension : Text) : Prop :=
  ∃ asked, List.Forall₂ (Fits r) asked r.callers ∧ asked[k]? = some extension ∧
    r.callers[k]? ≠ some .cancelled

theorem Reached.exists_asked (h : Reached loaders r) :
    ∃ asked, List.Forall₂ (Fits r) asked r.callers := by
  induction h with
  | refl => exact ⟨[], .nil⟩
  | step hreached _ ih =>
    obtain ⟨asked, hfits⟩ := ih
    exact ⟨_, (step_makes _ _).fits (Reached.sound hreached) hfits⟩

theorem Asks.step (h : r.Asks k extension) (hsound : r.Sound) (hmove : move ≠ .cancel k) :
    (r.step move).1.Asks k extension := by
  obtain ⟨asked, hfits, hasked, hcaller⟩ := h
  refine ⟨_, (step_makes r move).fits hsound hfits, ?_, ?_⟩
  · rw [List.getElem?_append_left (List.getElem?_eq_some_iff.mp hasked).1, hasked]
  · intro hcancelled
    rcases (step_makes r move).cancelled_cases hcancelled with hold | heq
    · exact hcaller hold
    · exact hmove heq

theorem Asks.run (h : r.Asks k extension) (hsound : r.Sound) (hmoves : .cancel k ∉ moves) :
    (r.run moves).1.Asks k extension := by
  induction moves generalizing r with
  | nil => exact h
  | cons move later ih =>
    rw [List.mem_cons, not_or] at hmoves
    exact ih (h.step hsound (Ne.symm hmoves.1)) ((step_makes r move).sound hsound) hmoves.2

/-- A new caller asks for its extension. -/
theorem Reached.asks_arrive (h : Reached loaders r) (extension : Text) :
    (r.step (.arrive extension)).1.Asks r.callers.length extension := by
  obtain ⟨asked, hfits⟩ := h.exists_asked
  refine ⟨_, (step_makes r (.arrive extension)).fits h.sound hfits, ?_, ?_⟩
  · rw [← hfits.length_eq]
    exact List.getElem?_concat_length
  · intro hcancelled
    rcases (step_makes r (.arrive extension)).cancelled_cases hcancelled with hold | heq
    · exact absurd (List.getElem?_eq_some_iff.mp hold).1 (Nat.lt_irrefl _)
    · cases heq

/-- Whoever is answered has what the loader gives. -/
theorem Asks.answered_eq (h : r.Asks k extension) (hreached : Reached loaders r)
    (hcaller : r.callers[k]? = some (.answered capability)) :
    capability = r.offer (Extension.normalize extension) := by
  obtain ⟨asked, hfits, hasked, -⟩ := h
  obtain ⟨caller, hown, hfit⟩ := exists_of_forall₂ hfits hasked
  obtain rfl := Option.some.inj (hown.symm.trans hcaller)
  cases hfit with
  | refused hloader =>
    rw [offer, hloader]
    rfl
  | served hloaded => exact hreached.loaded_eq hloaded

theorem Asks.resume (h : r.Asks k extension) (hsound : r.Sound)
    (hloaded : r.loaded.lookup (Extension.normalize extension) = some capability) :
    (r.step (.resume k)).1.callers[k]? = some (.answered capability) := by
  obtain ⟨asked, hfits, hasked, hcaller⟩ := h
  obtain ⟨caller, hown, hfit⟩ := exists_of_forall₂ hfits hasked
  have hnot : caller ≠ .cancelled := by
    rintro rfl
    exact hcaller hown
  rw [Registry.step, List.getElem?_modify_eq, hown, Option.map_eq_map, Option.map_some,
    hfit.resume_loaded hsound hloaded hnot]

/-! ## Bringing loads home -/

theorem genuine_landings (r : Registry γ) : ∀ move ∈ r.landings, r.Genuine move := by
  intro move hmove
  obtain ⟨⟨flight, number⟩, hflight, hmove⟩ := List.mem_flatMap.mp hmove
  rw [List.mk_mem_zipIdx_iff_getElem?] at hflight
  dsimp only at hmove
  split at hmove
  next loader hloader =>
    simp only [List.mem_cons, List.not_mem_nil, or_false] at hmove
    rcases hmove with rfl | rfl | rfl
    · exact ⟨flight, loader, hflight, hloader, rfl⟩
    · trivial
    · trivial
  next => cases hmove

theorem cancel_not_mem_landings (r : Registry γ) (k : Nat) : .cancel k ∉ r.landings := by
  intro hmove
  obtain ⟨⟨flight, number⟩, -, hmove⟩ := List.mem_flatMap.mp hmove
  dsimp only at hmove
  split at hmove
  next => simp at hmove
  next => cases hmove

/-- When all loads that are under way are brought home, what they give is kept. -/
theorem Sound.loaded_after_landings (h : r.Sound) (hflight : HasFlight r.flights number key) :
    ∃ capability, (r.run r.landings).1.loaded.lookup key = some capability := by
  obtain ⟨flight, hnumber, rfl⟩ := hflight
  obtain ⟨loader, hloader⟩ := Option.isSome_iff_exists.mp (h.supported hnumber)
  have hmem : (flight, number) ∈ r.flights.zipIdx := List.mk_mem_zipIdx_iff_getElem?.mpr hnumber
  -- The flight has its turn between some moves and others, which it outlives.
  obtain ⟨before, later, hsplit⟩ := List.append_of_mem hmem
  obtain ⟨early, late, hlandings⟩ : ∃ early late, r.landings =
      early ++ ([.deliver number loader.delivery, .land number] ++ late) := by
    rw [landings, hsplit, List.flatMap_append, List.flatMap_cons]
    dsimp only
    rw [hloader]
    exact ⟨_, .clear number :: _, rfl⟩
  have hearly : (r.run early).1.Sound := run_sound h early
  obtain ⟨now, hnow, hkey, -⟩ := run_grows r early number flight hnumber
  obtain ⟨capability, hloaded, -⟩ := hearly.finishes hnow loader.delivery
  refine ⟨capability, ?_⟩
  rw [hlandings, run_append, run_append, ← hkey]
  have hboth := run_sound hearly [.deliver number loader.delivery, .land number]
  exact hboth.loaded_stays (run_sound hboth late) (run_grows _ late) hloaded

/-- When all loads are brought home, whoever asks has what the loader gives. -/
theorem Asks.answered (h : r.Asks k extension) (hreached : Reached loaders r) :
    (r.run (r.landings ++ [.resume k])).1.callers[k]? =
      some (.answered (r.offer (Extension.normalize extension))) := by
  have hlanded : Reached loaders (r.run r.landings).1 := hreached.run (genuine_landings r)
  have hasks : (r.run r.landings).1.Asks k extension :=
    h.run hreached.sound (cancel_not_mem_landings r k)
  have hoffer : (r.run r.landings).1.offer (Extension.normalize extension) =
      r.offer (Extension.normalize extension) := by
    rw [hlanded.offer_eq, hreached.offer_eq]
  obtain ⟨asked, hfits, hasked, hcaller⟩ := h
  obtain ⟨caller, hown, hfit⟩ := exists_of_forall₂ hfits hasked
  rw [run_append, ← hoffer]
  cases hfit with
  | refused | served =>
    -- An answer that is there already stays, and it is what the loader gives.
    have hstays := run_caller_stays hown (fun n => by rintro ⟨⟩) r.landings
    rw [← hasks.answered_eq hlanded hstays]
    exact run_caller_stays hstays (fun n => by rintro ⟨⟩) [.resume k]
  | waiting hflight =>
    obtain ⟨capability, hloaded⟩ := hreached.sound.loaded_after_landings hflight
    rw [← hlanded.loaded_eq hloaded]
    exact hasks.resume hlanded.sound hloaded
  | cancelled => exact absurd hown hcaller

/-! ## One caller by itself -/

/-- The registry when somebody has arrived by itself, all loads are home and it was resumed. -/
def settled (r : Registry γ) (extension : Text) : Registry γ :=
  let arrived := (r.step (.arrive extension)).1
  (arrived.run (arrived.landings ++ [.resume r.callers.length])).1

theorem gather_single (r : Registry γ) (extension : Text) :
    ∃ events, r.gather [extension] [] =
      ([(r.settled extension).answer r.callers.length], r.settled extension, events) :=
  ⟨_, rfl⟩

/-- A caller by itself obtains what the loader of its extension gives. -/
theorem Reached.obtain_eq (h : Reached loaders r) (extension : Text) :
    ∃ events, r.obtain extension =
      (r.offer (Extension.normalize extension), r.settled extension, events) := by
  have harrived : Reached loaders (r.step (.arrive extension)).1 := h.step trivial
  have hanswered := (h.asks_arrive extension).answered harrived
  have hoffer : (r.step (.arrive extension)).1.offer (Extension.normalize extension) =
      r.offer (Extension.normalize extension) := by
    rw [harrived.offer_eq, h.offer_eq]
  have hanswer : (r.settled extension).answer r.callers.length =
      .capability (r.offer (Extension.normalize extension)) := by
    rw [answer, settled, hanswered, hoffer]
  obtain ⟨events, hgather⟩ := gather_single r extension
  refine ⟨events, ?_⟩
  rw [obtain, hgather, hanswer]

theorem leads_settled (r : Registry γ) (extension : Text) : r.Leads (r.settled extension) := by
  have harrived : r.Leads (r.step (.arrive extension)).1 := Leads.refl.step trivial
  apply harrived.run
  intro move hmove
  rcases List.mem_append.mp hmove with hmove | hmove
  · exact genuine_landings _ move hmove
  · obtain rfl := List.mem_singleton.mp hmove
    trivial

/-- A caller by itself leaves the outcome of its load behind. -/
theorem Reached.loaded_settled (h : Reached loaders r)
    (hloader : (r.loaders.lookup (Extension.normalize extension)).isSome) :
    (r.settled extension).loaded.lookup (Extension.normalize extension) =
      some (r.offer (Extension.normalize extension)) := by
  have harrived : Reached loaders (r.step (.arrive extension)).1 := h.step trivial
  have hsettled : Reached loaders (r.settled extension) := h.trans (r.leads_settled extension)
  have hasks : (r.settled extension).Asks r.callers.length extension := by
    apply (h.asks_arrive extension).run harrived.sound
    intro hmove
    rcases List.mem_append.mp hmove with hmove | hmove
    · exact cancel_not_mem_landings _ _ hmove
    · cases List.mem_singleton.mp hmove
  have hanswered := (h.asks_arrive extension).answered harrived
  obtain ⟨asked, hfits, hasked, -⟩ := hasks
  obtain ⟨caller, hcaller, hfit⟩ := exists_of_forall₂ hfits hasked
  obtain rfl := Option.some.inj (hcaller.symm.trans hanswered)
  rw [harrived.offer_eq, ← h.offer_eq] at hfit
  generalize r.offer (Extension.normalize extension) = given at hfit
  cases hfit with
  | served hloaded => exact hloaded
  | refused hnone =>
    rw [hsettled.loaders_eq, ← h.loaders_eq] at hnone
    rw [hnone] at hloader
    cases hloader

end SourceBlocks.Registry
