import SignOn.Callback
import SignOn.Proofs.Validator.Workflow

/-
This file lists what happens to a store of granting tickets, and shows what each event does to it.
-/

namespace SignOn

open SignOn.Text SignOn.Validator

namespace GrantStore

/-- Saving a pair puts it into the store. -/
theorem save_result (store : GrantStore) (now : Span) (iou ticket : String) :
    (store.save now iou ticket).result = store.put now iou ticket := by
  rw [save]
  split
  · rfl
  · rfl

end GrantStore

namespace Granting

/-- A validator is asked about a ticket. -/
structure Call where
  validator : Validator
  transport : Transport
  randomBits : BitVec 128
  now : Instant
  ticket : String
  service : String

namespace Call

/-- The delivery that follows on the request of a call. -/
def delivery (call : Call) : Delivery :=
  call.validator.exchange call.transport call.randomBits call.now call.ticket call.service

/-- A call with a blank ticket or service is refused at once. -/
def isBlank (call : Call) : Bool := isBlankText call.ticket || isBlankText call.service

/-- What is wrong with a blank ticket or service. -/
def refusal (call : Call) : Failure :=
  .invalidArgument (if isBlankText call.ticket then .blankTicket else .blankService)

/-- The reference to a granting ticket that the reply to a call carries. -/
def carriedIou? (call : Call) : Option String :=
  if call.isBlank then none else call.validator.carriedIou? call.delivery call.now

end Call

/-- A store is written by callbacks, read by validations, and used directly, while time passes. -/
inductive Event
  | deliver (iou ticket : Option String)
  | save (iou ticket : String)
  | validate (call : Call)
  | retrieve (iou : String)
  | cleanUp
  | wait (span : Span)

namespace Event

def isCleanUp : Event → Bool
  | .cleanUp => true
  | _ => false

/-- The reference and the granting ticket that an event saves. -/
def saves? : Event → Option (String × String)
  | .deliver iou ticket =>
    match Callback.given? iou, Callback.given? ticket with
    | some iou, some ticket => some (iou, ticket)
    | _, _ => none
  | .save iou ticket => some (iou, ticket)
  | _ => none

/-- The reference under which an event takes what is saved. -/
def takes? : Event → Option String
  | .validate call => call.carriedIou?
  | .retrieve iou => some iou
  | _ => none

/-- The nanoseconds that pass with an event. -/
def nanos : Event → Nat
  | .wait span => span.nanos
  | _ => 0

end Event

/-- What an event answers to the one who caused it. -/
inductive Outcome
  | acknowledged (body : String)
  | saved
  | validated (result : Except Failure Assertion) (requests : List Request)
  | retrieved (ticket : Option String)
  | waited

/-- One store and a clock that never goes back. -/
structure System where
  uptime : Span
  store : GrantStore

namespace System

/-- A system starts with an empty store. -/
def start (uptime retention : Span) (capacity : Nat) : System :=
  ⟨uptime, .empty retention capacity⟩

/-- Nothing is found in a system that starts. -/
theorem getElem?_start (uptime retention : Span) (capacity : Nat) (iou : String) :
    (start uptime retention capacity).store.grants[iou]? = none := Std.HashMap.getElem?_empty

def validation (system : System) (call : Call) : Validation :=
  call.validator.withStore.validate call.transport call.randomBits call.now system.uptime
    (some system.store) call.ticket call.service

/-- The system after an event. -/
def apply (system : System) : Event → System
  | .deliver iou ticket =>
    { system with store := (Callback.receive system.store system.uptime iou ticket).result.1 }
  | .save iou ticket =>
    { system with store := (system.store.save system.uptime iou ticket).result }
  | .validate call =>
    { system with store := (system.validation call).result.2.getD system.store }
  | .retrieve iou =>
    { system with store := (system.store.retrieve system.uptime iou).result.2 }
  | .cleanUp => { system with store := (system.store.cleanUp system.uptime).result }
  | .wait span => { system with uptime := ⟨system.uptime.nanos + span.nanos⟩ }

/-- What an event answers. A clean-up answers nothing. -/
def outcome? (system : System) : Event → Option Outcome
  | .deliver iou ticket =>
    some (.acknowledged (Callback.receive system.store system.uptime iou ticket).result.2)
  | .save _ _ => some .saved
  | .validate call =>
    some (.validated (system.validation call).result.1 (system.validation call).requests)
  | .retrieve iou => some (.retrieved (system.store.retrieve system.uptime iou).result.1)
  | .cleanUp => none
  | .wait _ => some .waited

/-- The system after a run of events. -/
def after (system : System) (run : List Event) : System := run.foldl apply system

/-- All answers in a run, in order. -/
def outcomes (system : System) : List Event → List Outcome
  | [] => []
  | event :: events => (system.outcome? event).toList ++ (system.apply event).outcomes events

/-- The grants that have not expired are fewer than fit. -/
def HasRoom (system : System) : Prop :=
  system.store.pending system.uptime < system.store.capacity

/-- A run never fills the store. -/
def NeverFull (system : System) : List Event → Prop
  | [] => system.HasRoom
  | event :: events => system.HasRoom ∧ (system.apply event).NeverFull events

/-- All that an event can do to the store. -/
inductive StoreEffect (system : System) (event : Event) : Prop
  | put (iou ticket : String) (saves : event.saves? = some (iou, ticket))
      (takes : event.takes? = none)
      (store : (system.apply event).store = system.store.put system.uptime iou ticket)
  | took (iou : String) (saves : event.saves? = none) (takes : event.takes? = some iou)
      (store : system.store.Took iou (system.apply event).store)
  | purged (cleanUp : event = .cleanUp)
      (store : (system.apply event).store = system.store.purge system.uptime)
  | kept (saves : event.saves? = none) (takes : event.takes? = none)
      (other : event.isCleanUp = false) (store : (system.apply event).store = system.store)

/-- A blank call sends nothing and leaves the store as it is. -/
theorem validation_of_blank (system : System) {call : Call} (blank : call.isBlank = true) :
    system.validation call = pure (.error call.refusal, some system.store) := by
  cases blankTicket : isBlankText call.ticket with
  | true =>
      rw [Call.refusal, if_pos blankTicket]
      exact validate_of_blankTicket _ _ _ _ _ _ _ _ blankTicket
  | false =>
      rw [Call.isBlank, blankTicket, Bool.false_or] at blank
      rw [Call.refusal, if_neg (by simp [blankTicket])]
      exact validate_of_blankService _ _ _ _ _ _ _ _ blankTicket blank

/-- A validation takes what its reply refers to, and nothing else. -/
theorem storeEffect_validate (system : System) (call : Call) :
    StoreEffect system (.validate call) := by
  cases blank : call.isBlank with
  | true =>
      refine .kept rfl (if_pos blank) rfl ?_
      rw [apply, system.validation_of_blank blank]
      rfl
  | false =>
      obtain ⟨spokenTicket, spokenService⟩ := Bool.or_eq_false_iff.1 blank
      have reference : call.carriedIou? = call.validator.carriedIou? call.delivery call.now := by
        rw [Call.carriedIou?, blank]
        rfl
      cases carried : call.validator.carriedIou? call.delivery call.now with
      | none =>
          refine .kept rfl (reference.trans carried) rfl ?_
          have never : ∀ iou, ¬ Carries call.validator call.delivery call.now iou := by
            intro iou carries
            rw [← carriedIou?_eq_some_iff, carried] at carries
            cases carries
          have left : (system.validation call).result.2 = some system.store :=
            call.validator.validate_leaves call.now spokenTicket spokenService call.transport
              call.randomBits system.uptime (some system.store) (Or.inr never)
          rw [apply, left]
          rfl
      | some iou =>
          have carries := (call.validator.carriedIou?_eq_some_iff call.delivery call.now iou).1 carried
          obtain ⟨remaining, left, took⟩ := call.validator.validate_takes call.now spokenTicket
            spokenService call.transport call.randomBits system.uptime carries
          have same : (system.validation call).result.2 = some remaining := left
          refine .took iou rfl (reference.trans carried) ?_
          rw [apply, same]
          exact took

/-- A delivery with both parameters saves them. -/
theorem storeEffect_deliver (system : System) (iou ticket : Option String) :
    StoreEffect system (.deliver iou ticket) := by
  cases givenIou : Callback.given? iou with
  | none =>
      refine .kept ?_ rfl rfl ?_
      · rw [Event.saves?, givenIou]
      · simp only [apply, Callback.receive, givenIou]
        rfl
  | some reference =>
      cases givenTicket : Callback.given? ticket with
      | none =>
          refine .kept ?_ rfl rfl ?_
          · rw [Event.saves?, givenIou, givenTicket]
          · simp only [apply, Callback.receive, givenIou, givenTicket]
            rfl
      | some granting =>
          refine .put reference granting ?_ rfl ?_
          · rw [Event.saves?, givenIou, givenTicket]
          · simp only [apply, Callback.receive, givenIou, givenTicket, Logged.bind_result,
              GrantStore.save_result]
            rfl

/-- Every event has one of the effects. -/
theorem storeEffect (system : System) (event : Event) : StoreEffect system event := by
  cases event with
  | deliver iou ticket => exact system.storeEffect_deliver iou ticket
  | save iou ticket => exact .put iou ticket rfl rfl (system.store.save_result system.uptime iou ticket)
  | validate call => exact system.storeEffect_validate call
  | retrieve iou => exact .took iou rfl rfl (system.store.took_retrieve system.uptime iou)
  | cleanUp => exact .purged rfl rfl
  | wait span => exact .kept rfl rfl rfl rfl

end System

end Granting

end SignOn
