import SignOn.Proofs.Gateway.Status
import SignOn.Proofs.Granting.History

/-
This file shows that a gateway serves every call, and that no run of calls and events changes the
settings of its store.
-/

namespace SignOn.Gateway

open Granting (System)

/-- A call is answered with one of these, so that none is ever blamed on the gateway itself. -/
def statuses : List Nat := [200, 400, 401, 404, 405, 413, 415, 422, 502]

/-- A call is served with a status of these, and does no more to the store than an event can. -/
structure Serves (system : System) (response : Response) (left : GrantStore) : Prop where
  status : response.status ∈ statuses
  effect : ∃ event, left = (system.apply event).store

namespace Serves

variable {system : System} {response : Response} {left : GrantStore}

/-- A response that leaves the store alone serves a call. -/
theorem of_kept (status : response.status ∈ statuses) : Serves system response system.store :=
  ⟨status, .wait ⟨0⟩, rfl⟩

/-- A response that serves a call does so without its body too. -/
theorem withoutBody (serves : Serves system response left) :
    Serves system response.withoutBody left := ⟨serves.status, serves.effect⟩

/-- No call changes the settings of the store. -/
theorem settings (serves : Serves system response left) :
    left.retention = system.store.retention ∧ left.capacity = system.store.capacity := by
  obtain ⟨event, rfl⟩ := serves.effect
  exact system.settings_apply event

end Serves

section Serving

variable (system : System) (call : Call)

/-- A delivery is served, whether it is received or refused. -/
theorem serves_deliver {refusal : Response} (status : refusal.status ∈ statuses)
    (parameters : String) :
    Serves system (CallbackRoute.deliver system.store system.uptime refusal parameters).result.2
      (CallbackRoute.deliver system.store system.uptime refusal parameters).result.1 := by
  rw [CallbackRoute.deliver]
  split
  · exact ⟨(by decide : 200 ∈ statuses), .deliver _ _, rfl⟩
  · exact .of_kept status

/-- A delivery in the query of an address is served. -/
theorem serves_query :
    Serves system (CallbackRoute.answerQuery system.store system.uptime call).result.2
      (CallbackRoute.answerQuery system.store system.uptime call).result.1 := by
  rw [CallbackRoute.answerQuery]
  exact serves_deliver system (by decide : 400 ∈ statuses) call.query

/-- A delivery in a form is served. -/
theorem serves_form :
    Serves system (CallbackRoute.answerForm system.store system.uptime call).result.2
      (CallbackRoute.answerForm system.store system.uptime call).result.1 := by
  rw [CallbackRoute.answerForm]
  split_ifs
  · exact .of_kept (by decide : 415 ∈ statuses)
  · exact .of_kept (by decide : 413 ∈ statuses)
  · exact serves_deliver system (by decide : 422 ∈ statuses) call.body

/-- The receptor serves every call, and a delivery is all that it can do to the store. -/
theorem serves_callback (route : Route) :
    Serves system (CallbackRoute.serve route system.store system.uptime call).result.2
      (CallbackRoute.serve route system.store system.uptime call).result.1 := by
  rw [CallbackRoute.serve]
  split
  · rw [CallbackRoute.answer]
    split
    · exact serves_query system call
    · have query := serves_query system call
      rw [Logged.bind_result]
      -- Only the parts of the answer matter, and not how it comes out of the query.
      generalize (CallbackRoute.answerQuery system.store system.uptime call).result = answered
        at query ⊢
      exact query.withoutBody
    · exact serves_form system call
    · exact .of_kept (by decide : 405 ∈ statuses)
  · exact .of_kept (by decide : 404 ∈ statuses)

/-- Every outcome of a validation is answered with one of these statuses. -/
theorem status_respond_mem (outcome : Except Failure Assertion) :
    (ValidateRoute.respond outcome).result.status ∈ statuses := by
  rw [ValidateRoute.respond_status]
  cases outcome with
  | ok assertion => exact (by decide : 200 ∈ statuses)
  | error failure =>
      rw [ValidateRoute.outcomeStatus]
      cases ValidateRoute.Blame.ofFailure failure <;> decide

end Serving

/-- What a gateway and its store are used for, from outside and directly. -/
inductive Use
  | call (around : Surroundings) (call : Call)
  | event (uptime : Span) (event : Granting.Event)

section Assembled

variable (validator : Validator) (receptor : Route)

/-- A gateway is put together from a validator and a receptor that share a store. -/
def assembled : Gateway := ⟨validator.withStore, receptor, true⟩

section Call

variable (around : Surroundings) (store : GrantStore) (call : Call)

/-- Behind a query that is read stands the event of a validation. -/
theorem serves_validation :
    let answered := (ValidateRoute.answerQuery
      ((assembled validator receptor).validate around store) (some store) call).result
    Serves ⟨around.uptime, store⟩ answered.1 (answered.2.getD store) := by
  intro answered
  simp only [answered, ValidateRoute.answerQuery]
  split
  · rename_i ticket service _
    exact ⟨status_respond_mem _, .validate ⟨validator, around.transport, around.randomBits,
      around.now, ticket.getD "", service.getD ""⟩, rfl⟩
  · exact .of_kept (by decide : 400 ∈ statuses)

/-- A call for a validation is served. -/
theorem serves_answer :
    let answered := (ValidateRoute.answer
      ((assembled validator receptor).validate around store) (some store) call).result
    Serves ⟨around.uptime, store⟩ answered.1 (answered.2.getD store) := by
  have asked := serves_validation validator receptor around store call
  intro answered
  simp only [answered, ValidateRoute.answer]
  split
  · exact asked
  · rw [Traced.bind_result]
    generalize (ValidateRoute.answerQuery ((assembled validator receptor).validate around store)
      (some store) call).result = answered at asked ⊢
    exact asked.withoutBody
  · exact .of_kept (by decide : 405 ∈ statuses)

/-- Every call to a gateway is served. -/
theorem serves_call :
    Serves ⟨around.uptime, store⟩
      ((assembled validator receptor).serve around store call).result.1
      ((assembled validator receptor).serve around store call).result.2 := by
  have answer := serves_answer validator receptor around store call
  have shared : (if (assembled validator receptor).sharesStore then some store else none) =
      some store := rfl
  rw [serve]
  split
  · simp only [shared, Traced.bind_result]
    exact answer
  · exact serves_callback ⟨around.uptime, store⟩ call receptor

end Call

end Assembled

section Run

variable (gateway : Gateway)

/-- The store that a use leaves. -/
def left (store : GrantStore) : Use → GrantStore
  | .call around call => (gateway.serve around store call).result.2
  | .event uptime event => ((System.mk uptime store).apply event).store

/-- What comes back from a use, if it came from outside. -/
def response? (store : GrantStore) : Use → Option Response
  | .call around call => some (gateway.serve around store call).result.1
  | .event _ _ => none

def leftAfter (store : GrantStore) (uses : List Use) : GrantStore := uses.foldl gateway.left store

/-- All that comes back in a run of uses, in order. -/
def responses (gateway : Gateway) (store : GrantStore) : List Use → List Response
  | [] => []
  | use :: uses =>
    (gateway.response? store use).toList ++ responses gateway (gateway.left store use) uses

/-- In a run the settings of the store stay, and all that comes back has a status that is known. -/
structure Runs (gateway : Gateway) (store : GrantStore) (uses : List Use) : Prop where
  retention : (gateway.leftAfter store uses).retention = store.retention
  capacity : (gateway.leftAfter store uses).capacity = store.capacity
  served : ∀ response ∈ gateway.responses store uses, response.status ∈ statuses

end Run

section Assembled

variable (validator : Validator) (receptor : Route)

/-- One use leaves the settings of the store as they are. -/
theorem settings_left (store : GrantStore) (use : Use) :
    ((assembled validator receptor).left store use).retention = store.retention ∧
      ((assembled validator receptor).left store use).capacity = store.capacity := by
  cases use with
  | call around call => exact (serves_call validator receptor around store call).settings
  | event uptime event => exact (System.mk uptime store).settings_apply event

/-- What comes back from one use has a status that is known. -/
theorem status_of_response? {store : GrantStore} {use : Use} {response : Response}
    (responds : (assembled validator receptor).response? store use = some response) :
    response.status ∈ statuses := by
  cases use with
  | call around call =>
      cases responds
      exact (serves_call validator receptor around store call).status
  | event uptime event => cases responds

/-- Every run goes on to its end, since each use leaves a store that the next one can be served from. -/
theorem runs_assembled (store : GrantStore) (uses : List Use) :
    Runs (assembled validator receptor) store uses := by
  induction uses generalizing store with
  | nil => exact ⟨rfl, rfl, nofun⟩
  | cons use uses inductionHypothesis =>
      obtain ⟨retention, capacity⟩ := settings_left validator receptor store use
      obtain ⟨retained, capped, served⟩ :=
        inductionHypothesis ((assembled validator receptor).left store use)
      refine ⟨retained.trans retention, capped.trans capacity, fun response member => ?_⟩
      rcases List.mem_append.1 member with now | later
      · exact status_of_response? validator receptor (Option.mem_toList.1 now)
      · exact served response later

end Assembled

end SignOn.Gateway
