import SignOn.Proofs.Granting.Capability

/-
This file shows that clean-ups change no answer in a run that never fills the store.
-/

namespace SignOn.Granting

/-- Two systems agree on everything but the grants that have expired. -/
structure Alike (first second : System) : Prop where
  uptime : first.uptime = second.uptime
  retention : first.store.retention = second.store.retention
  capacity : first.store.capacity = second.store.capacity
  arrivals : first.store.arrivals = second.store.arrivals
  live : ∀ iou : String, (first.store.live first.uptime)[iou]? =
    (second.store.live second.uptime)[iou]?

theorem Alike.refl (system : System) : Alike system system := ⟨rfl, rfl, rfl, rfl, fun _ => rfl⟩

/-- Agreement but for expired grants carries over. -/
theorem Alike.trans {first second third : System} (left : Alike first second)
    (right : Alike second third) : Alike first third :=
  ⟨left.uptime.trans right.uptime, left.retention.trans right.retention,
    left.capacity.trans right.capacity, left.arrivals.trans right.arrivals,
    fun iou => (left.live iou).trans (right.live iou)⟩

/-- Systems that are alike have room alike. -/
theorem Alike.hasRoom_iff {first second : System} (alike : Alike first second) :
    first.HasRoom ↔ second.HasRoom := by
  have sameSize : first.store.pending first.uptime = second.store.pending second.uptime :=
    (Std.HashMap.Equiv.of_forall_getElem?_eq alike.live).size_eq
  rw [System.HasRoom, System.HasRoom, sameSize, alike.capacity]

/-- Systems that are alike answer alike. -/
theorem Alike.outcome?_eq {first second : System} (alike : Alike first second) (event : Event) :
    first.outcome? event = second.outcome? event := by
  cases event with
  | deliver iou ticket =>
      simp only [System.outcome?, Callback.receive]
      cases Callback.given? iou with
      | none => rfl
      | some reference =>
          cases Callback.given? ticket with
          | none => rfl
          | some granting => rfl
  | save iou ticket => rfl
  | validate call =>
      have sameFound : first.found? call = second.found? call := by
        simp only [System.found?, alike.live]
      have sameResult : (first.validation call).result.1 = (second.validation call).result.1 ∧
          (first.validation call).requests = (second.validation call).requests := by
        cases blank : call.isBlank with
        | true =>
            rw [first.validation_of_blank blank, second.validation_of_blank blank]
            exact ⟨rfl, rfl⟩
        | false =>
            rw [first.validation_outcome blank, second.validation_outcome blank, sameFound,
              first.validation_requests blank, second.validation_requests blank]
            exact ⟨rfl, rfl⟩
      simp only [System.outcome?, sameResult.1, sameResult.2]
  | retrieve iou =>
      simp only [System.outcome?, GrantStore.retrieve_ticket, alike.live]
  | cleanUp => rfl
  | wait span => rfl

namespace System

/-- The live grant under a reference that an event leaves, unless it expires with the event. -/
def renewed? (system : System) (event : Event) (iou : String) : Option Grant :=
  match event.saves? with
  | some (reference, ticket) =>
    if reference = iou then some ⟨ticket, system.uptime, system.store.arrivals⟩
    else (system.store.live system.uptime)[iou]?
  | none =>
    if event.takes? = some iou then none else (system.store.live system.uptime)[iou]?

/-- What an event does not touch stays as it is. -/
theorem renewed?_of_untouched (system : System) {event : Event} {iou : String}
    (untouched : ¬ event.Touches iou) :
    system.renewed? event iou = (system.store.live system.uptime)[iou]? := by
  rw [renewed?]
  cases saves : event.saves? with
  | none => exact if_neg fun taken => untouched (Or.inr taken)
  | some pair =>
      obtain ⟨reference, ticket⟩ := pair
      refine if_neg ?_
      rintro rfl
      exact untouched (Or.inl ⟨ticket, saves⟩)

/-- What is live after an event is what it renews, as far as it has not expired by then. -/
theorem getElem?_live_apply (system : System) (room : system.HasRoom) (event : Event)
    (iou : String) :
    ((system.apply event).store.live (system.apply event).uptime)[iou]? =
      (system.renewed? event iou).filter fun grant =>
        !system.store.isExpired (system.apply event).uptime grant := by
  have sameLimit : (system.apply event).store.isExpired (system.apply event).uptime =
      system.store.isExpired (system.apply event).uptime := by
    funext grant
    rw [GrantStore.isExpired, GrantStore.isExpired, (system.settings_apply event).1]
  rw [GrantStore.getElem?_live, sameLimit]
  cases system.lookupEffect room event iou with
  | saved ticket saves lookup =>
      have renewed : system.renewed? event iou =
          some ⟨ticket, system.uptime, system.store.arrivals⟩ := by
        rw [renewed?, saves]
        exact if_pos rfl
      rw [lookup, renewed]
  | taken takes lookup =>
      have gone : system.renewed? event iou = none := by
        rw [renewed?, saves?_of_takes takes]
        exact if_pos takes
      rw [lookup, gone]
  | untouched untouched lookup =>
      rw [system.renewed?_of_untouched untouched, GrantStore.getElem?_live]
      refine Option.ext fun grant => ?_
      have order : system.uptime.nanos ≤ (system.apply event).uptime.nanos := by
        rw [system.uptime_apply event]
        exact Nat.le_add_right _ _
      simp only [Option.filter_eq_some_iff, lookup grant, Bool.not_eq_true']
      constructor
      · rintro ⟨⟨found, _⟩, fresh⟩
        refine ⟨⟨found, Bool.eq_false_iff.2 fun expired => ?_⟩, fresh⟩
        rw [system.store.isExpired_of_le order expired] at fresh
        cases fresh
      · rintro ⟨⟨found, live⟩, fresh⟩
        exact ⟨⟨found, fun _ => live⟩, fresh⟩

/-- The store counts one arrival for each pair that is saved. -/
theorem arrivals_apply (system : System) (room : system.HasRoom) (event : Event) :
    (system.apply event).store.arrivals =
      system.store.arrivals + event.saves?.toList.length := by
  cases system.storeEffect event with
  | put iou ticket saves takes store =>
      rw [store, saves, GrantStore.put, if_neg (Nat.ne_of_gt (Nat.zero_lt_of_lt room))]
      rfl
  | took iou saves takes store => rw [store.arrivals, saves]; rfl
  | purged cleanUp store => rw [store, cleanUp]; rfl
  | kept saves takes other store => rw [store, saves]; rfl

/-- A clean-up leaves a system that is alike. -/
theorem alike_cleanUp (system : System) (room : system.HasRoom) :
    Alike (system.apply .cleanUp) system := by
  refine ⟨rfl, rfl, rfl, rfl, fun iou => ?_⟩
  have untouched : ¬ Event.cleanUp.Touches iou := by
    simp [Event.Touches, Event.saves?, Event.takes?]
  rw [system.getElem?_live_apply room, system.renewed?_of_untouched untouched]
  exact (system.store.getElem?_live_later (Nat.le_refl _) iou).symm

end System

/-- Events leave systems alike that were alike. -/
theorem Alike.apply {first second : System} (alike : Alike first second) (room : first.HasRoom)
    (event : Event) : Alike (first.apply event) (second.apply event) := by
  have otherRoom := alike.hasRoom_iff.1 room
  have sameUptime : (first.apply event).uptime = (second.apply event).uptime := by
    rw [first.uptime_apply, second.uptime_apply, alike.uptime]
  have sameRenewed (iou : String) : first.renewed? event iou = second.renewed? event iou := by
    rw [System.renewed?, System.renewed?, alike.live iou, alike.uptime, alike.arrivals]
  refine ⟨sameUptime, ?_, ?_, ?_, fun iou => ?_⟩
  · rw [(first.settings_apply event).1, (second.settings_apply event).1, alike.retention]
  · rw [(first.settings_apply event).2, (second.settings_apply event).2, alike.capacity]
  · rw [first.arrivals_apply room, second.arrivals_apply otherRoom, alike.arrivals]
  · rw [first.getElem?_live_apply room, second.getElem?_live_apply otherRoom, sameRenewed,
      sameUptime]
    simp only [GrantStore.isExpired, alike.retention]

/-- The events of a run without its clean-ups. -/
def withoutCleanUps (run : List Event) : List Event := run.filter fun event => !event.isCleanUp

theorem withoutCleanUps_cleanUp (events : List Event) :
    withoutCleanUps (.cleanUp :: events) = withoutCleanUps events := rfl

theorem withoutCleanUps_cons {event : Event} (other : event.isCleanUp = false)
    (events : List Event) : withoutCleanUps (event :: events) = event :: withoutCleanUps events := by
  rw [withoutCleanUps, List.filter_cons, other]
  rfl

theorem eq_cleanUp_of_isCleanUp {event : Event} (cleanUp : event.isCleanUp = true) :
    event = .cleanUp := by
  cases event with
  | cleanUp => rfl
  | _ => cases cleanUp

/-- A run that never fills the store begins with room in it. -/
theorem hasRoom_of_neverFull {system : System} {run : List Event} (roomy : system.NeverFull run) :
    system.HasRoom := by
  cases run with
  | nil => exact roomy
  | cons event events => exact roomy.1

/-- A run fills the store exactly when it does so without its clean-ups. -/
theorem Alike.neverFull_iff {first second : System} (alike : Alike first second)
    (run : List Event) : first.NeverFull run ↔ second.NeverFull (withoutCleanUps run) := by
  induction run generalizing first second with
  | nil => exact alike.hasRoom_iff
  | cons event events inductionHypothesis =>
      cases cleanUp : event.isCleanUp with
      | true =>
          rw [eq_cleanUp_of_isCleanUp cleanUp, withoutCleanUps_cleanUp]
          constructor
          · rintro ⟨room, rest⟩
            exact (inductionHypothesis ((first.alike_cleanUp room).trans alike)).1 rest
          · intro rest
            have room := alike.hasRoom_iff.2 (hasRoom_of_neverFull rest)
            exact ⟨room, (inductionHypothesis ((first.alike_cleanUp room).trans alike)).2 rest⟩
      | false =>
          rw [withoutCleanUps_cons cleanUp]
          constructor
          · rintro ⟨room, rest⟩
            exact ⟨alike.hasRoom_iff.1 room, (inductionHypothesis (alike.apply room event)).1 rest⟩
          · rintro ⟨otherRoom, rest⟩
            have room := alike.hasRoom_iff.2 otherRoom
            exact ⟨room, (inductionHypothesis (alike.apply room event)).2 rest⟩

/-- A run is answered as it is without its clean-ups. -/
theorem Alike.outcomes_eq {first second : System} (alike : Alike first second) (run : List Event)
    (roomy : first.NeverFull run) :
    first.outcomes run = second.outcomes (withoutCleanUps run) := by
  induction run generalizing first second with
  | nil => rfl
  | cons event events inductionHypothesis =>
      obtain ⟨room, rest⟩ := roomy
      cases cleanUp : event.isCleanUp with
      | true =>
          rw [eq_cleanUp_of_isCleanUp cleanUp] at rest ⊢
          exact inductionHypothesis ((first.alike_cleanUp room).trans alike) rest
      | false =>
          rw [withoutCleanUps_cons cleanUp, System.outcomes, System.outcomes,
            alike.outcome?_eq event, inductionHypothesis (alike.apply room event) rest]

/-- Runs that differ only in their clean-ups are answered alike, if one of them never fills the store. -/
theorem outcomes_eq_of_withoutCleanUps (system : System) {run other : List Event}
    (roomy : system.NeverFull run) (same : withoutCleanUps other = withoutCleanUps run) :
    system.outcomes other = system.outcomes run := by
  have otherRoomy : system.NeverFull other := by
    rw [(Alike.refl system).neverFull_iff other, same, ← (Alike.refl system).neverFull_iff run]
    exact roomy
  rw [(Alike.refl system).outcomes_eq other otherRoomy, same,
    (Alike.refl system).outcomes_eq run roomy]

end SignOn.Granting
