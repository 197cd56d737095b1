import SignOn.Proofs.Granting.Capability

/-
This file shows that no pair of a reference and a granting ticket is handed out more often than it was
saved.
-/

namespace SignOn.Granting

/-- The pairs that a run saves. -/
def saved (run : List Event) : List (String × String) := run.filterMap Event.saves?

theorem saved_cons (event : Event) (events : List Event) :
    saved (event :: events) = event.saves?.toList ++ saved events := by
  rw [saved, List.filterMap_cons, saved]
  cases event.saves? with
  | none => rfl
  | some pair => rfl

/-- The granting ticket in an answer. -/
def Outcome.grantingTicket? : Outcome → Option String
  | .validated (.ok assertion) _ => assertion.principal.capability.map (·.grantingTicket)
  | .retrieved ticket => ticket
  | _ => none

namespace System

/-- The pair that an event hands out, to the one who retrieves it or in the capability of a principal. -/
def handsOut? (system : System) (event : Event) : Option (String × String) :=
  match event.takes?, (system.outcome? event).bind Outcome.grantingTicket? with
  | some iou, some ticket => some (iou, ticket)
  | _, _ => none

/-- All pairs that are handed out in a run, in order. -/
def handedOut (system : System) : List Event → List (String × String)
  | [] => []
  | event :: events => (system.handsOut? event).toList ++ (system.apply event).handedOut events

/-- The granting ticket in an answer is the live one under the reference that is taken. -/
theorem live_of_grantingTicket (system : System) {event : Event} {iou ticket : String}
    (takes : event.takes? = some iou)
    (given : (system.outcome? event).bind Outcome.grantingTicket? = some ticket) :
    ((system.store.live system.uptime)[iou]?).map Grant.ticket = some ticket := by
  cases event with
  | validate call =>
      rw [outcome?, Option.bind_some] at given
      cases accepted : (system.validation call).result.1 with
      | error failure =>
          rw [accepted] at given
          cases given
      | ok assertion =>
          obtain ⟨issuer, capability⟩ := system.capability_of_validation accepted
          have found : system.found? call = (system.store.live system.uptime)[iou]? := by
            rw [found?, show call.carriedIou? = some iou from takes, Option.bind_some]
          rw [accepted, Outcome.grantingTicket?, capability, found, Option.map_map] at given
          exact given
  | retrieve reference =>
      cases takes
      rw [outcome?, Option.bind_some, Outcome.grantingTicket?, GrantStore.retrieve_ticket] at given
      exact given
  | deliver => cases takes
  | save => cases takes
  | cleanUp => cases takes
  | wait => cases takes

/-- What is handed out was in the store under the reference that is taken. -/
theorem holds_of_handsOut (system : System) {event : Event} {iou ticket : String}
    (given : system.handsOut? event = some (iou, ticket)) :
    event.takes? = some iou ∧ (system.store.grants[iou]?).map Grant.ticket = some ticket := by
  rw [handsOut?] at given
  split at given
  · rename_i takes answered
    cases given
    refine ⟨takes, ?_⟩
    have live := system.live_of_grantingTicket takes answered
    obtain ⟨grant, found, named⟩ := Option.map_eq_some_iff.1 live
    rw [GrantStore.getElem?_live] at found
    rw [(Option.filter_eq_some_iff.1 found).1]
    exact congrArg some named
  · cases given

/-- How often the store holds a pair. -/
def held (system : System) (pair : String × String) : Nat :=
  if (system.store.grants[pair.1]?).map Grant.ticket = some pair.2 then 1 else 0

/-- A ticket that is found is held once. -/
theorem held_of_lookup (system : System) {iou ticket : String}
    (found : (system.store.grants[iou]?).map Grant.ticket = some ticket) :
    system.held (iou, ticket) = 1 := if_pos found

/-- What is handed out was held, and is taken by the event. -/
theorem count_handsOut_le (system : System) (event : Event) (iou ticket : String) :
    (system.handsOut? event).toList.count (iou, ticket) ≤
      if event.takes? = some iou then system.held (iou, ticket) else 0 := by
  cases given : system.handsOut? event with
  | none => simp
  | some pair =>
      by_cases same : pair = (iou, ticket)
      · subst same
        obtain ⟨takes, found⟩ := system.holds_of_handsOut given
        rw [if_pos takes, system.held_of_lookup found]
        simp
      · simp [same]

/-- No event adds more to what is held and handed out than it saves. -/
theorem held_apply (system : System) (room : system.HasRoom) (event : Event)
    (pair : String × String) :
    (system.handsOut? event).toList.count pair + (system.apply event).held pair ≤
      system.held pair + event.saves?.toList.count pair := by
  obtain ⟨iou, ticket⟩ := pair
  have given := system.count_handsOut_le event iou ticket
  cases system.lookupEffect room event iou with
  | saved granting saves lookup =>
      have takes : event.takes? ≠ some iou := by
        intro taken
        rw [saves?_of_takes taken] at saves
        cases saves
      rw [if_neg takes] at given
      have after : (system.apply event).held (iou, ticket) =
          event.saves?.toList.count (iou, ticket) := by
        rw [held, lookup, saves]
        by_cases same : granting = ticket
        · simp [same]
        · simp [same]
      omega
  | taken takes lookup =>
      rw [if_pos takes] at given
      have after : (system.apply event).held (iou, ticket) = 0 := by
        rw [held, lookup]
        simp
      omega
  | untouched untouched lookup =>
      rw [if_neg fun taken => untouched (Or.inr taken)] at given
      have after : (system.apply event).held (iou, ticket) ≤ system.held (iou, ticket) := by
        by_cases found :
            ((system.apply event).store.grants[iou]?).map Grant.ticket = some ticket
        · obtain ⟨grant, kept, named⟩ := Option.map_eq_some_iff.1 found
          have before := ((lookup grant).1 kept).1
          rw [system.held_of_lookup (Option.map_eq_some_iff.2 ⟨grant, before, named⟩),
            (system.apply event).held_of_lookup found]
        · rw [held, if_neg found]
          exact Nat.zero_le _
      omega

/-- Over a run the pairs that are handed out were held at the start or saved. -/
theorem count_handedOut_le (system : System) (run : List Event) (roomy : system.NeverFull run)
    (pair : String × String) :
    (system.handedOut run).count pair ≤ system.held pair + (saved run).count pair := by
  induction run generalizing system with
  | nil => exact Nat.zero_le _
  | cons event events inductionHypothesis =>
      obtain ⟨room, rest⟩ := roomy
      have step := system.held_apply room event pair
      have later := inductionHypothesis (system.apply event) rest
      rw [handedOut, saved_cons, List.count_append, List.count_append]
      omega

/-- An event adds at most what it saves to the grants in the store. -/
theorem size_apply_le (system : System) (room : system.HasRoom) (event : Event) :
    (system.apply event).store.grants.size ≤
      system.store.grants.size + event.saves?.toList.length := by
  cases system.storeEffect event with
  | put iou ticket saves takes store =>
      rw [store, saves, GrantStore.put, if_neg (Nat.ne_of_gt (Nat.zero_lt_of_lt room))]
      exact Std.HashMap.size_insert_le
  | took iou saves takes store =>
      have erased :
          (system.apply event).store.grants.Equiv (system.store.grants.erase iou) := by
        refine Std.HashMap.Equiv.of_forall_getElem?_eq fun key => ?_
        rw [store.lookup key]
        exact (system.store.getElem?_take iou key).symm
      rw [erased.size_eq, saves]
      exact Std.HashMap.size_erase_le
  | purged cleanUp store =>
      rw [store, system.store.grants_purge system.uptime (Nat.le_of_lt room), cleanUp]
      exact Std.HashMap.size_filter_le_size
  | kept saves takes other store =>
      rw [store]
      exact Nat.le_add_right _ _

/-- A run that saves fewer pairs than there is room for never fills the store. -/
theorem neverFull_of_saved_lt (system : System) (run : List Event)
    (few : system.store.grants.size + (saved run).length < system.store.capacity) :
    system.NeverFull run := by
  induction run generalizing system with
  | nil => exact Nat.lt_of_le_of_lt Std.HashMap.size_filter_le_size few
  | cons event events inductionHypothesis =>
      rw [saved_cons, List.length_append] at few
      have room : system.HasRoom :=
        Nat.lt_of_le_of_lt Std.HashMap.size_filter_le_size (by omega)
      have step := system.size_apply_le room event
      refine ⟨room, inductionHypothesis (system.apply event) ?_⟩
      rw [(system.settings_apply event).2]
      omega

end System

end SignOn.Granting
