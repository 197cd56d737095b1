import SignOn.Proofs.Granting.Event

/-
This file shows that a store holds exactly the granting tickets that were saved last, not taken since,
and are young enough.
-/

namespace SignOn.Granting

/-- An event saves or takes under a reference. -/
def Event.Touches (event : Event) (iou : String) : Prop :=
  (∃ ticket, event.saves? = some (iou, ticket)) ∨ event.takes? = some iou

/-- The nanoseconds that pass with a run. -/
def elapsed : List Event → Nat
  | [] => 0
  | event :: events => event.nanos + elapsed events

/-- Each event adds its own time to a run. -/
theorem elapsed_snoc (run : List Event) (event : Event) :
    elapsed (run ++ [event]) = elapsed run + event.nanos := by
  induction run with
  | nil =>
      change event.nanos + 0 = 0 + event.nanos
      omega
  | cons first others inductionHypothesis =>
      rw [List.cons_append, elapsed, elapsed, inductionHypothesis, Nat.add_assoc]

/-- The latest ticket that was saved under a reference has this age, and nothing took it since. -/
def Outstanding (history : List Event) (iou ticket : String) (age : Nat) : Prop :=
  ∃ earlier event later, history = earlier ++ event :: later ∧
    event.saves? = some (iou, ticket) ∧ (∀ other ∈ later, ¬ other.Touches iou) ∧
    age = elapsed later

/-- Nothing is outstanding before the first event. -/
theorem not_outstanding_nil (iou ticket : String) (age : Nat) : ¬ Outstanding [] iou ticket age := by
  rintro ⟨earlier, event, later, split, -⟩
  simp at split

/-- What is outstanding after one more event was saved by it, or was outstanding before. -/
theorem outstanding_snoc (history : List Event) (event : Event) (iou ticket : String) (age : Nat) :
    Outstanding (history ++ [event]) iou ticket age ↔
      (event.saves? = some (iou, ticket) ∧ age = 0) ∨
        (¬ event.Touches iou ∧
          ∃ before, Outstanding history iou ticket before ∧ age = before + event.nanos) := by
  constructor
  · rintro ⟨earlier, saving, later, split, saves, untouched, rfl⟩
    rcases List.eq_nil_or_concat later with rfl | ⟨between, last, rfl⟩
    · obtain ⟨-, same⟩ := List.append_inj' split rfl
      cases same
      exact Or.inl ⟨saves, rfl⟩
    · have inner : history ++ [event] = (earlier ++ saving :: between) ++ [last] := by
        simpa using split
      obtain ⟨rfl, same⟩ := List.append_inj' inner rfl
      cases same
      rw [List.concat_eq_append, elapsed_snoc]
      refine Or.inr ⟨untouched event (by simp), elapsed between, ?_, rfl⟩
      exact ⟨earlier, saving, between, rfl, saves,
        fun other member => untouched other (by simp [member]), rfl⟩
  · rintro (⟨saves, rfl⟩ | ⟨untouched, before, ⟨earlier, saving, later, rfl, saves, since, rfl⟩, rfl⟩)
    · exact ⟨history, event, [], rfl, saves, by simp, rfl⟩
    · refine ⟨earlier, saving, later ++ [event], by simp, saves, ?_,
        (elapsed_snoc later event).symm⟩
      intro other member
      rcases List.mem_append.1 member with inLater | isLast
      · exact since other inLater
      · rw [List.mem_singleton.1 isLast]
        exact untouched

theorem nanos_of_saves {event : Event} {pair : String × String}
    (saves : event.saves? = some pair) : event.nanos = 0 := by
  cases event with
  | wait span => cases saves
  | _ => rfl

/-- No event both takes and saves. -/
theorem saves?_of_takes {event : Event} {iou : String} (takes : event.takes? = some iou) :
    event.saves? = none := by
  cases event with
  | deliver => cases takes
  | save => cases takes
  | _ => rfl

namespace System

/-- The clock goes on by the time that passes with an event. -/
theorem uptime_apply (system : System) (event : Event) :
    (system.apply event).uptime = ⟨system.uptime.nanos + event.nanos⟩ := by
  cases event with
  | _ => rfl

/-- No event changes the settings of the store. -/
theorem settings_apply (system : System) (event : Event) :
    (system.apply event).store.retention = system.store.retention ∧
      (system.apply event).store.capacity = system.store.capacity := by
  cases system.storeEffect event with
  | put iou ticket _ _ store =>
      rw [store, GrantStore.put]
      split
      · exact ⟨rfl, rfl⟩
      · exact ⟨rfl, rfl⟩
  | took iou _ _ store => exact ⟨store.retention, store.capacity⟩
  | purged _ store => rw [store]; exact ⟨rfl, rfl⟩
  | kept _ _ _ store => rw [store]; exact ⟨rfl, rfl⟩

theorem isCleanUp_of_saves {event : Event} {pair : String × String}
    (saves : event.saves? = some pair) : event.isCleanUp = false := by
  cases event with
  | cleanUp => cases saves
  | _ => rfl

theorem isCleanUp_of_takes {event : Event} {iou : String} (takes : event.takes? = some iou) :
    event.isCleanUp = false := by
  cases event with
  | cleanUp => cases takes
  | _ => rfl

/-- All that an event can do to what is found under one reference. -/
inductive LookupEffect (system : System) (event : Event) (iou : String) : Prop
  | saved (ticket : String) (saves : event.saves? = some (iou, ticket))
      (lookup : (system.apply event).store.grants[iou]? =
        some ⟨ticket, system.uptime, system.store.arrivals⟩)
  | taken (takes : event.takes? = some iou)
      (lookup : (system.apply event).store.grants[iou]? = none)
  | untouched (untouched : ¬ event.Touches iou)
      (lookup : ∀ grant, (system.apply event).store.grants[iou]? = some grant ↔
        system.store.grants[iou]? = some grant ∧
          (event.isCleanUp = true → system.store.isExpired system.uptime grant = false))

/-- What is not touched and found in the same place is found as before. -/
theorem LookupEffect.of_eq {system : System} {event : Event} {iou : String}
    (other : event.isCleanUp = false) (untouched : ¬ event.Touches iou)
    (lookup : (system.apply event).store.grants[iou]? = system.store.grants[iou]?) :
    LookupEffect system event iou := by
  refine .untouched untouched fun grant => ?_
  rw [lookup, other]
  exact ⟨fun found => ⟨found, Bool.noConfusion⟩, And.left⟩

/-- Every event does one of these to what is found under a reference. -/
theorem lookupEffect (system : System) (room : system.HasRoom) (event : Event) (iou : String) :
    LookupEffect system event iou := by
  cases system.storeEffect event with
  | put reference ticket saves takes store =>
      have lookup := system.store.getElem?_put system.uptime reference ticket iou
        (Nat.ne_of_gt (Nat.zero_lt_of_lt room))
      rw [← store] at lookup
      by_cases same : iou = reference
      · rw [if_pos same] at lookup
        exact .saved ticket (same ▸ saves) lookup
      · rw [if_neg same] at lookup
        exact .of_eq (isCleanUp_of_saves saves)
          (by simp [Event.Touches, saves, takes, Ne.symm same]) lookup
  | took reference saves takes store =>
      have lookup := store.lookup iou
      by_cases same : iou = reference
      · rw [if_pos same] at lookup
        exact .taken (same ▸ takes) lookup
      · rw [if_neg same] at lookup
        exact .of_eq (isCleanUp_of_takes takes)
          (by simp [Event.Touches, saves, takes, Ne.symm same]) lookup
  | purged cleanUp store =>
      subst cleanUp
      have kept := system.store.grants_purge system.uptime (Nat.le_of_lt room)
      refine .untouched (by simp [Event.Touches, Event.saves?, Event.takes?]) fun grant => ?_
      rw [store, kept, GrantStore.getElem?_live, Option.filter_eq_some_iff]
      simp [Event.isCleanUp]
  | kept saves takes other store =>
      exact .of_eq other (by simp [Event.Touches, saves, takes]) (by rw [store])

end System

/-- A store holds what is outstanding and young enough, and all of it was saved in the past. -/
structure Faithful (history : List Event) (system : System) : Prop where
  past : ∀ (iou : String) (grant : Grant), system.store.grants[iou]? = some grant →
    grant.savedAt.nanos ≤ system.uptime.nanos
  holds : ∀ (iou ticket : String) (age : Nat), age < system.store.retention.nanos →
    (Outstanding history iou ticket age ↔ ∃ grant, system.store.grants[iou]? = some grant ∧
      grant.ticket = ticket ∧ grant.savedAt.nanos + age = system.uptime.nanos)

/-- An empty store holds all that is outstanding, which is nothing. -/
theorem faithful_start (uptime retention : Span) (capacity : Nat) :
    Faithful [] (System.start uptime retention capacity) where
  past := by
    intro iou grant found
    rw [System.getElem?_start] at found
    cases found
  holds := by
    intro iou ticket age young
    refine iff_of_false (not_outstanding_nil iou ticket age) ?_
    rintro ⟨grant, found, -⟩
    rw [System.getElem?_start] at found
    cases found

/-- One event keeps a store faithful. -/
theorem Faithful.snoc {history : List Event} {system : System} (faithful : Faithful history system)
    (room : system.HasRoom) (event : Event) : Faithful (history ++ [event]) (system.apply event) := by
  have elapsed : (system.apply event).uptime.nanos = system.uptime.nanos + event.nanos :=
    congrArg Span.nanos (system.uptime_apply event)
  constructor
  case past =>
    intro iou grant found
    cases system.lookupEffect room event iou with
    | saved ticket saves lookup =>
        rw [lookup] at found
        cases found
        change system.uptime.nanos ≤ _
        omega
    | taken takes lookup =>
        rw [lookup] at found
        cases found
    | untouched untouched lookup =>
        have before := faithful.past iou grant ((lookup grant).1 found).1
        omega
  case holds =>
    intro iou ticket age young
    rw [(system.settings_apply event).1] at young
    rw [outstanding_snoc]
    cases system.lookupEffect room event iou with
    | saved granting saves lookup =>
        have still := nanos_of_saves saves
        rw [lookup]
        constructor
        · rintro (⟨saved, rfl⟩ | ⟨untouched, -⟩)
          · rw [saves] at saved
            cases saved
            exact ⟨_, rfl, rfl, by change system.uptime.nanos + 0 = _; omega⟩
          · exact absurd (Or.inl ⟨granting, saves⟩) untouched
        · rintro ⟨grant, found, rfl, aged⟩
          cases found
          change system.uptime.nanos + age = _ at aged
          exact Or.inl ⟨saves, by omega⟩
    | taken takes lookup =>
        rw [lookup, saves?_of_takes takes]
        refine iff_of_false ?_ (by simp)
        rintro (⟨saves, -⟩ | ⟨untouched, -⟩)
        · cases saves
        · exact untouched (Or.inr takes)
    | untouched untouched lookup =>
        constructor
        · rintro (⟨saves, -⟩ | ⟨-, before, outstanding, rfl⟩)
          · exact absurd (Or.inl ⟨ticket, saves⟩) untouched
          · obtain ⟨grant, found, named, aged⟩ :=
              (faithful.holds iou ticket before (by omega)).1 outstanding
            have live : system.store.isExpired system.uptime grant = false := by
              simp only [GrantStore.isExpired, decide_eq_false_iff_not]
              omega
            exact ⟨grant, (lookup grant).2 ⟨found, fun _ => live⟩, named, by omega⟩
        · rintro ⟨grant, found, named, aged⟩
          have kept := ((lookup grant).1 found).1
          have past := faithful.past iou grant kept
          refine Or.inr ⟨untouched, system.uptime.nanos - grant.savedAt.nanos, ?_, by omega⟩
          exact (faithful.holds iou ticket _ (by omega)).2 ⟨grant, kept, named, by omega⟩

/-- A run that never fills the store keeps it faithful. -/
theorem Faithful.append {history : List Event} {system : System}
    (faithful : Faithful history system) (run : List Event) (roomy : system.NeverFull run) :
    Faithful (history ++ run) (system.after run) := by
  induction run generalizing history system with
  | nil =>
      rw [List.append_nil]
      exact faithful
  | cons event events inductionHypothesis =>
      obtain ⟨room, rest⟩ := roomy
      rw [List.append_cons]
      exact inductionHypothesis (faithful.snoc room event) rest

/-- The live grant under a reference is the one that is outstanding and younger than the retention. -/
theorem Faithful.live_ticket_iff {history : List Event} {system : System}
    (faithful : Faithful history system) (iou ticket : String) :
    ((system.store.live system.uptime)[iou]?).map Grant.ticket = some ticket ↔
      ∃ age, Outstanding history iou ticket age ∧ age < system.store.retention.nanos := by
  rw [GrantStore.getElem?_live, Option.map_eq_some_iff]
  constructor
  · rintro ⟨grant, live, named⟩
    obtain ⟨found, fresh⟩ := (Option.filter_eq_some_iff).1 live
    have past := faithful.past iou grant found
    have young : system.uptime.nanos - grant.savedAt.nanos < system.store.retention.nanos := by
      simp only [GrantStore.isExpired, Bool.not_eq_true', decide_eq_false_iff_not] at fresh
      omega
    exact ⟨_, (faithful.holds iou ticket _ young).2 ⟨grant, found, named, by omega⟩, young⟩
  · rintro ⟨age, outstanding, young⟩
    obtain ⟨grant, found, named, aged⟩ := (faithful.holds iou ticket age young).1 outstanding
    refine ⟨grant, (Option.filter_eq_some_iff).2 ⟨found, ?_⟩, named⟩
    simp only [GrantStore.isExpired, Bool.not_eq_true', decide_eq_false_iff_not]
    omega

end SignOn.Granting
