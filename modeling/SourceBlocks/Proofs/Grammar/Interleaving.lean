import Mathlib.Data.List.Forall2
import Mathlib.Data.List.Induction
import Mathlib.Data.List.Nodup
import SourceBlocks.Grammar.Registry

/-!
# Any interleaving of callers and loads

What holds of a registry after any moves.  One lemma says all that a move can do; an invariant on
flights and outcomes, and a second one on callers, are then kept by every move.

No key has two flights.  A flight that has not landed is the pending one of its key, and the outcome
of one that has landed is kept.  So a caller finds a started load either pending or kept, and no
second load is started for a key.
-/

namespace SourceBlocks.Registry

variable {γ : Type}

/-- The extension that a move asks for, if a caller arrives with it. -/
def Move.request? : Move γ → Option Text
  | .arrive extension => some extension
  | _ => none

/-- The extensions that callers ask for, in the order in which they arrive. -/
def requests (moves : List (Move γ)) : List Text :=
  moves.filterMap Move.request?

/-- What one move makes of a registry. -/
inductive Makes : Registry γ → Move γ → Registry γ → Prop where
  /-- A caller finds the outcome kept. -/
  | answer {r : Registry γ} {extension : Text} {capability : Option γ}
      (hloaded : r.loaded.lookup (Extension.normalize extension) = some capability) :
      Makes r (.arrive extension) { r with callers := r.callers ++ [.answered capability] }
  /-- A caller asks for what has no loader. -/
  | refuse {r : Registry γ} {extension : Text}
      (hloaded : r.loaded.lookup (Extension.normalize extension) = none)
      (hloader : r.loaders.lookup (Extension.normalize extension) = none) :
      Makes r (.arrive extension) { r with callers := r.callers ++ [.answered none] }
  /-- A caller joins those who wait for a load. -/
  | join {r : Registry γ} {extension : Text} {number : Nat}
      (hloaded : r.loaded.lookup (Extension.normalize extension) = none)
      (hpending : r.pending.lookup (Extension.normalize extension) = some number) :
      Makes r (.arrive extension) { r with callers := r.callers ++ [.waiting number] }
  /-- A caller starts a load. -/
  | start {r : Registry γ} {extension : Text}
      (hloaded : r.loaded.lookup (Extension.normalize extension) = none)
      (hloader : (r.loaders.lookup (Extension.normalize extension)).isSome)
      (hpending : r.pending.lookup (Extension.normalize extension) = none) :
      Makes r (.arrive extension)
        { r with
          flights := r.flights ++ [⟨Extension.normalize extension, .loading⟩]
          pending := (Extension.normalize extension, r.flights.length) :: r.pending
          callers := r.callers ++ [.waiting r.flights.length] }
  | cancel {r : Registry γ} (caller : Nat) :
      Makes r (.cancel caller) { r with callers := r.callers.modify caller Caller.cancel }
  | deliver {r : Registry γ} {number : Nat} {key : Text} (delivery : Delivery γ)
      (hflight : r.flights[number]? = some ⟨key, .loading⟩) :
      Makes r (.deliver number delivery)
        { r with flights := r.flights.set number ⟨key, .delivered delivery.outcome⟩ }
  | land {r : Registry γ} {number : Nat} {key : Text} {outcome : Outcome γ}
      (hflight : r.flights[number]? = some ⟨key, .delivered outcome⟩) :
      Makes r (.land number)
        { r with
          loaded := (key, Outcome.capability outcome) :: r.loaded
          flights := r.flights.set number ⟨key, .landed outcome⟩ }
  | clear {r : Registry γ} {number : Nat} {key : Text} {outcome : Outcome γ}
      (hflight : r.flights[number]? = some ⟨key, .landed outcome⟩) :
      Makes r (.clear number)
        { r with pending := r.pending.filter fun entry => entry.1 ≠ key }
  | resume {r : Registry γ} (caller : Nat) :
      Makes r (.resume caller)
        { r with callers := r.callers.modify caller (Caller.resume r.flights) }
  /-- The move does not apply. -/
  | skip {r : Registry γ} {move : Move γ} (hrequest : move.request? = none) : Makes r move r

variable {r r' : Registry γ} {move : Move γ} {asked : List Text} {extension key : Text}
  {number : Nat} {caller : Caller γ}

theorem step_makes (r : Registry γ) (move : Move γ) : Makes r move (r.step move).1 := by
  cases move with
  | arrive extension =>
    simp only [step, admitCaller]
    split
    next capability hloaded => exact .answer hloaded
    next hloaded =>
      split
      next hloader => exact .refuse hloaded hloader
      next loader hloader =>
        split
        next number hpending => exact .join hloaded hpending
        next hpending => exact .start hloaded (by rw [hloader]; rfl) hpending
  | cancel caller => exact .cancel caller
  | deliver number delivery =>
    rw [step]
    split
    next key hflight => exact .deliver delivery hflight
    next => exact .skip rfl
  | land number =>
    rw [step]
    split
    next key outcome hflight => exact .land hflight
    next => exact .skip rfl
  | clear number =>
    rw [step]
    split
    next key outcome hflight => exact .clear hflight
    next => exact .skip rfl
  | resume caller => exact .resume caller

theorem run_append (r : Registry γ) (moves later : List (Move γ)) :
    (r.run (moves ++ later)).1 = ((r.run moves).1.run later).1 := by
  induction moves generalizing r with
  | nil => rfl
  | cons move moves ih => exact ih (r.step move).1

/-- What holds at first, and is kept by every move on the registry that the moves before it have
made, holds after any moves. -/
theorem run_induction {P : List (Move γ) → Registry γ → Prop} (hstart : P [] r)
    (hstep : ∀ moves move, P moves (r.run moves).1 →
      P (moves ++ [move]) ((r.run moves).1.step move).1)
    (moves : List (Move γ)) : P moves (r.run moves).1 := by
  induction moves using List.reverseRecOn with
  | nil => exact hstart
  | append_singleton moves move ih =>
    rw [run_append]
    exact hstep moves move ih

theorem Makes.loaders_eq (h : Makes r move r') : r'.loaders = r.loaders := by
  cases h <;> rfl

theorem run_loaders (r : Registry γ) (moves : List (Move γ)) :
    (r.run moves).1.loaders = r.loaders := by
  induction moves using run_induction with
  | hstart => rfl
  | hstep moves move ih => exact (step_makes _ move).loaders_eq.trans ih

/-! ## Flights and outcomes -/

/-- A load was started for a key under a number. -/
def HasFlight (flights : List (Flight γ)) (number : Nat) (key : Text) : Prop :=
  ∃ flight, flights[number]? = some flight ∧ flight.key = key

/-- A load of a key has come to an end. -/
def HasLanded (flights : List (Flight γ)) (key : Text) (capability : Option γ) : Prop :=
  ∃ (number : Nat) (flight : Flight γ), flights[number]? = some flight ∧ flight.key = key ∧
    flight.landed? = some capability

/-- No key has two flights, and what is pending and what is kept agrees with them. -/
structure Sound (r : Registry γ) : Prop where
  keys_nodup : (r.flights.map Flight.key).Nodup
  supported : ∀ {number : Nat} {flight : Flight γ}, r.flights[number]? = some flight →
    (r.loaders.lookup flight.key).isSome
  pending_flight : ∀ {key : Text} {number : Nat}, r.pending.lookup key = some number →
    HasFlight r.flights number key
  pending_of_not_landed : ∀ {number : Nat} {flight : Flight γ},
    r.flights[number]? = some flight → flight.landed? = none →
    r.pending.lookup flight.key = some number
  loaded_of_landed : ∀ {number : Nat} {flight : Flight γ} {capability : Option γ},
    r.flights[number]? = some flight → flight.landed? = some capability →
    r.loaded.lookup flight.key = some capability
  loaded_flight : ∀ {key : Text} {capability : Option γ},
    r.loaded.lookup key = some capability → HasLanded r.flights key capability

theorem Sound.number_eq (h : r.Sound) {m n : Nat} {flight other : Flight γ}
    (hm : r.flights[m]? = some flight) (hn : r.flights[n]? = some other)
    (hkey : flight.key = other.key) : m = n := by
  obtain ⟨hlt, -⟩ := List.getElem?_eq_some_iff.mp hm
  apply (List.getElem?_inj (by rwa [List.length_map]) h.keys_nodup).mp
  rw [List.getElem?_map, List.getElem?_map, hm, hn, Option.map_some, Option.map_some, hkey]

/-- A key that is neither kept nor pending has no flight. -/
theorem Sound.not_mem_keys (h : r.Sound) (hloaded : r.loaded.lookup key = none)
    (hpending : r.pending.lookup key = none) : key ∉ r.flights.map Flight.key := by
  intro hmem
  obtain ⟨flight, hflight, rfl⟩ := List.mem_map.mp hmem
  obtain ⟨number, hflight⟩ := List.getElem?_of_mem hflight
  cases hlanded : flight.landed? with
  | none =>
    rw [h.pending_of_not_landed hflight hlanded] at hpending
    exact Option.some_ne_none _ hpending
  | some capability =>
    rw [h.loaded_of_landed hflight hlanded] at hloaded
    exact Option.some_ne_none _ hloaded

theorem lookup_filter_ne (entries : List (Text × Nat)) {other : Text} (hne : other ≠ key) :
    (entries.filter fun entry => entry.1 ≠ key).lookup other = entries.lookup other := by
  induction entries with
  | nil => rfl
  | cons entry entries ih =>
    obtain ⟨name, value⟩ := entry
    by_cases hname : name = key
    · have hother : (other == name) = false := by
        rw [hname]
        exact beq_eq_false_iff_ne.mpr hne
      rw [List.filter_cons_of_neg (by simp [hname]), ih, List.lookup_cons, hother]
    · rw [List.filter_cons_of_pos (by simp [hname]), List.lookup_cons, List.lookup_cons, ih]

theorem lookup_filter_self (entries : List (Text × Nat)) :
    (entries.filter fun entry => entry.1 ≠ key).lookup key = none := by
  rw [List.lookup_eq_none_iff]
  intro entry hentry
  have hne := (List.mem_filter.mp hentry).2
  rw [decide_eq_true_eq] at hne
  exact bne_iff_ne.mpr (Ne.symm hne)

theorem lookup_cons_ne {β : Type} {entries : List (Text × β)} {other : Text} {value : β}
    (hne : other ≠ key) : ((key, value) :: entries).lookup other = entries.lookup other := by
  rw [List.lookup_cons, beq_eq_false_iff_ne.mpr hne]

/-- An entry of a list to which one is added is an entry of the list, or the added one. -/
theorem getElem?_concat_cases {α : Type} {xs : List α} {x y : α} {n : Nat}
    (h : (xs ++ [x])[n]? = some y) : xs[n]? = some y ∨ n = xs.length ∧ y = x := by
  rcases Nat.lt_trichotomy n xs.length with hlt | rfl | hgt
  · rw [List.getElem?_append_left hlt] at h
    exact Or.inl h
  · rw [List.getElem?_concat_length] at h
    exact Or.inr ⟨rfl, (Option.some.inj h).symm⟩
  · have hlt := (List.getElem?_eq_some_iff.mp h).1
    rw [List.length_append, List.length_singleton] at hlt
    exact absurd hlt (Nat.not_lt_of_le hgt)

/-- An entry of a list of which one is set anew is this one, or another one of the list. -/
theorem getElem?_set_cases {α : Type} {xs : List α} {x y : α} {m n : Nat}
    (h : (xs.set m x)[n]? = some y) : n = m ∧ y = x ∨ n ≠ m ∧ xs[n]? = some y := by
  rw [List.getElem?_set] at h
  split at h
  next heq =>
    split at h
    · exact Or.inl ⟨heq.symm, (Option.some.inj h).symm⟩
    · exact absurd h (Option.some_ne_none _).symm
  next hne => exact Or.inr ⟨Ne.symm hne, h⟩

theorem map_key_set {flights : List (Flight γ)} {stage stage' : Flight.Stage γ}
    (h : flights[number]? = some ⟨key, stage⟩) :
    (flights.set number ⟨key, stage'⟩).map Flight.key = flights.map Flight.key := by
  have hkey : (flights.map Flight.key)[number]? = some key := by
    rw [List.getElem?_map, h, Option.map_some]
  obtain ⟨hlt, rfl⟩ := List.getElem?_eq_some_iff.mp hkey
  rw [List.map_set]
  exact List.set_getElem_self hlt

/-- Whatever flight there was is still there under its number, and it has its outcome if it had
one. -/
def Grows (before after : List (Flight γ)) : Prop :=
  ∀ (number : Nat) (flight : Flight γ), before[number]? = some flight →
    ∃ later, after[number]? = some later ∧ later.key = flight.key ∧
      ∀ capability, flight.landed? = some capability → later.landed? = some capability

theorem Grows.refl (flights : List (Flight γ)) : Grows flights flights :=
  fun _ flight hflight => ⟨flight, hflight, rfl, fun _ hlanded => hlanded⟩

theorem Grows.trans {first second third : List (Flight γ)} (h : Grows first second)
    (h' : Grows second third) : Grows first third := by
  intro number flight hflight
  obtain ⟨next, hnext, hkey, hlanded⟩ := h number flight hflight
  obtain ⟨last, hlast, hkey', hlanded'⟩ := h' number next hnext
  exact ⟨last, hlast, hkey'.trans hkey, fun c hc => hlanded' c (hlanded c hc)⟩

theorem Grows.hasFlight {before after : List (Flight γ)} (h : Grows before after)
    (hflight : HasFlight before number key) : HasFlight after number key := by
  obtain ⟨flight, hnumber, rfl⟩ := hflight
  obtain ⟨later, hlater, hkey, -⟩ := h number flight hnumber
  exact ⟨later, hlater, hkey⟩

theorem Grows.hasLanded {before after : List (Flight γ)} (h : Grows before after)
    {capability : Option γ} (hlanded : HasLanded before key capability) :
    HasLanded after key capability := by
  obtain ⟨number, flight, hnumber, rfl, hcapability⟩ := hlanded
  obtain ⟨later, hlater, hkey, hstill⟩ := h number flight hnumber
  exact ⟨number, later, hlater, hkey, hstill capability hcapability⟩

theorem grows_concat (flights : List (Flight γ)) (flight : Flight γ) :
    Grows flights (flights ++ [flight]) := by
  intro number other hother
  refine ⟨other, ?_, rfl, fun _ hlanded => hlanded⟩
  rw [List.getElem?_append_left (List.getElem?_eq_some_iff.mp hother).1, hother]

/-- A flight without an outcome may come to a new stage. -/
theorem grows_set {flights : List (Flight γ)} {stage : Flight.Stage γ}
    (h : flights[number]? = some ⟨key, stage⟩) (hlanded : Flight.landed? ⟨key, stage⟩ = none)
    (stage' : Flight.Stage γ) : Grows flights (flights.set number ⟨key, stage'⟩) := by
  intro n flight hflight
  by_cases heq : n = number
  · subst heq
    obtain rfl := Option.some.inj (h.symm.trans hflight)
    refine ⟨_, List.getElem?_set_self (List.getElem?_eq_some_iff.mp h).1, rfl, ?_⟩
    intro capability hcapability
    exact absurd (hlanded.symm.trans hcapability) (Option.some_ne_none _).symm
  · exact ⟨flight, (List.getElem?_set_ne (Ne.symm heq)).trans hflight, rfl, fun _ hc => hc⟩

theorem Makes.grows (h : Makes r move r') : Grows r.flights r'.flights := by
  cases h with
  | start => exact grows_concat _ _
  | deliver delivery hflight => exact grows_set hflight rfl _
  | land hflight => exact grows_set hflight rfl _
  | answer | refuse | join | cancel | clear | resume | skip => exact .refl _

theorem run_grows (r : Registry γ) (moves : List (Move γ)) :
    Grows r.flights (r.run moves).1.flights := by
  induction moves using run_induction with
  | hstart => exact .refl _
  | hstep moves move ih => exact ih.trans (step_makes _ move).grows

theorem sound_ofLoaders (loaders : List (Text × Loader γ)) : (ofLoaders loaders).Sound where
  keys_nodup := List.nodup_nil
  supported := by rintro number flight ⟨⟩
  pending_flight := by rintro key number ⟨⟩
  pending_of_not_landed := by rintro number flight ⟨⟩
  loaded_of_landed := by rintro number flight capability ⟨⟩
  loaded_flight := by rintro key capability ⟨⟩

theorem Sound.withCallers (h : r.Sound) (callers : List (Caller γ)) :
    Sound { r with callers } :=
  ⟨h.keys_nodup, h.supported, h.pending_flight, h.pending_of_not_landed, h.loaded_of_landed,
    h.loaded_flight⟩

theorem Sound.start (h : r.Sound) (hloaded : r.loaded.lookup key = none)
    (hloader : (r.loaders.lookup key).isSome) (hpending : r.pending.lookup key = none) :
    Sound { r with
      flights := r.flights ++ [⟨key, .loading⟩]
      pending := (key, r.flights.length) :: r.pending } where
  keys_nodup := by
    rw [List.map_append, List.map_singleton, ← List.concat_eq_append]
    exact h.keys_nodup.concat (h.not_mem_keys hloaded hpending)
  supported := by
    intro number flight hflight
    rcases getElem?_concat_cases hflight with hold | ⟨-, rfl⟩
    · exact h.supported hold
    · exact hloader
  pending_flight := by
    intro other number hother
    by_cases hkey : other = key
    · subst hkey
      obtain rfl := Option.some.inj (List.lookup_cons_self.symm.trans hother)
      exact ⟨_, List.getElem?_concat_length, rfl⟩
    · rw [lookup_cons_ne hkey] at hother
      exact (grows_concat _ _).hasFlight (h.pending_flight hother)
  pending_of_not_landed := by
    intro number flight hflight hlanded
    rcases getElem?_concat_cases hflight with hold | ⟨rfl, rfl⟩
    · -- The key had no flight, or its outcome would be kept or its flight pending.
      have hne : flight.key ≠ key := by
        rintro rfl
        apply h.not_mem_keys hloaded hpending
        exact List.mem_map_of_mem (List.mem_of_getElem? hold)
      rw [lookup_cons_ne hne]
      exact h.pending_of_not_landed hold hlanded
    · exact List.lookup_cons_self
  loaded_of_landed := by
    intro number flight capability hflight hlanded
    rcases getElem?_concat_cases hflight with hold | ⟨-, rfl⟩
    · exact h.loaded_of_landed hold hlanded
    · exact absurd hlanded (Option.some_ne_none _).symm
  loaded_flight := by
    intro other capability hother
    exact (grows_concat _ _).hasLanded (h.loaded_flight hother)

/-- What a load with this outcome, if it has one, adds to what is kept for other keys. -/
theorem lookup_kept_ne (outcome : Option (Option γ)) {loaded : List (Text × Option γ)}
    {other : Text} (hne : other ≠ key) :
    (outcome.toList.map (Prod.mk key) ++ loaded).lookup other = loaded.lookup other := by
  cases outcome with
  | none => rfl
  | some capability => exact lookup_cons_ne hne

/-- A flight without an outcome comes to a new stage, and its outcome is kept if it has one now. -/
theorem Sound.advance (h : r.Sound) {stage : Flight.Stage γ}
    (hflight : r.flights[number]? = some ⟨key, stage⟩)
    (hlanded : Flight.landed? ⟨key, stage⟩ = none) (stage' : Flight.Stage γ) :
    Sound { r with
      loaded := (Flight.landed? ⟨key, stage'⟩).toList.map (Prod.mk key) ++ r.loaded
      flights := r.flights.set number ⟨key, stage'⟩ } where
  keys_nodup := by
    have hkeys : (r.flights.set number ⟨key, stage'⟩).map Flight.key = r.flights.map Flight.key :=
      map_key_set hflight
    exact hkeys ▸ h.keys_nodup
  supported := by
    intro n flight hn
    rcases getElem?_set_cases hn with ⟨-, rfl⟩ | ⟨-, hold⟩
    · have hloader := h.supported hflight
      exact hloader
    · exact h.supported hold
  pending_flight := by
    intro other n hother
    exact (grows_set hflight hlanded stage').hasFlight (h.pending_flight hother)
  pending_of_not_landed := by
    intro n flight hn hnot
    rcases getElem?_set_cases hn with ⟨rfl, rfl⟩ | ⟨-, hold⟩
    · have hpending := h.pending_of_not_landed hflight hlanded
      exact hpending
    · exact h.pending_of_not_landed hold hnot
  loaded_of_landed := by
    intro n flight capability hn hcapability
    rcases getElem?_set_cases hn with ⟨-, rfl⟩ | ⟨hne, hold⟩
    · rw [hcapability]
      exact List.lookup_cons_self
    · -- The key has no second flight, so the new outcome hides no other one.
      have hkey : flight.key ≠ key := fun heq => hne (h.number_eq hold hflight heq)
      rw [lookup_kept_ne _ hkey]
      exact h.loaded_of_landed hold hcapability
  loaded_flight := by
    intro other capability hother
    have hgrows := grows_set hflight hlanded stage'
    by_cases hkey : other = key
    · subst hkey
      cases hnow : Flight.landed? ⟨other, stage'⟩ with
      | none =>
        rw [hnow] at hother
        exact hgrows.hasLanded (h.loaded_flight hother)
      | some kept =>
        rw [hnow] at hother
        obtain rfl := Option.some.inj (List.lookup_cons_self.symm.trans hother)
        have hlt := (List.getElem?_eq_some_iff.mp hflight).1
        exact ⟨number, _, List.getElem?_set_self hlt, rfl, hnow⟩
    · rw [lookup_kept_ne _ hkey] at hother
      exact hgrows.hasLanded (h.loaded_flight hother)

theorem Sound.clear (h : r.Sound) {outcome : Outcome γ}
    (hflight : r.flights[number]? = some ⟨key, .landed outcome⟩) :
    Sound { r with pending := r.pending.filter fun entry => entry.1 ≠ key } where
  keys_nodup := h.keys_nodup
  supported := h.supported
  pending_flight := by
    intro other n hother
    by_cases hkey : other = key
    · rw [hkey, lookup_filter_self] at hother
      exact absurd hother (Option.some_ne_none _).symm
    · rw [lookup_filter_ne _ hkey] at hother
      exact h.pending_flight hother
  pending_of_not_landed := by
    intro n flight hold hlanded
    -- A flight of the cleared key is the one that has landed.
    have hkey : flight.key ≠ key := by
      intro heq
      obtain rfl := h.number_eq hold hflight heq
      obtain rfl := Option.some.inj (hold.symm.trans hflight)
      exact absurd hlanded (Option.some_ne_none _)
    rw [lookup_filter_ne _ hkey]
    exact h.pending_of_not_landed hold hlanded
  loaded_of_landed := h.loaded_of_landed
  loaded_flight := h.loaded_flight

theorem Makes.sound (h : Makes r move r') (hsound : r.Sound) : r'.Sound := by
  cases h with
  | start hloaded hloader hpending =>
    exact (hsound.start hloaded hloader hpending).withCallers _
  | deliver delivery hflight => exact hsound.advance hflight rfl (.delivered delivery.outcome)
  | @land _ _ outcome hflight => exact hsound.advance hflight rfl (.landed outcome)
  | clear hflight => exact hsound.clear hflight
  | skip => exact hsound
  | answer | refuse | join | cancel | resume => exact hsound.withCallers _

theorem run_sound (h : r.Sound) (moves : List (Move γ)) : (r.run moves).1.Sound := by
  induction moves using run_induction with
  | hstart => exact h
  | hstep moves move ih => exact (step_makes _ move).sound ih

/-- An outcome that is kept stays. -/
theorem Sound.loaded_stays (h : r.Sound) (h' : r'.Sound) (hgrows : Grows r.flights r'.flights)
    {capability : Option γ} (hloaded : r.loaded.lookup key = some capability) :
    r'.loaded.lookup key = some capability := by
  obtain ⟨number, flight, hflight, rfl, hlanded⟩ := hgrows.hasLanded (h.loaded_flight hloaded)
  exact h'.loaded_of_landed hflight hlanded

/-- The flight of a key whose outcome is kept has landed with it. -/
theorem Sound.landed_of_loaded (h : r.Sound) {flight : Flight γ} {capability : Option γ}
    (hflight : r.flights[number]? = some flight)
    (hloaded : r.loaded.lookup flight.key = some capability) :
    flight.landed? = some capability := by
  obtain ⟨n, other, hother, hkey, hlanded⟩ := h.loaded_flight hloaded
  obtain rfl := h.number_eq hother hflight hkey
  obtain rfl := Option.some.inj (hother.symm.trans hflight)
  exact hlanded

end SourceBlocks.Registry
