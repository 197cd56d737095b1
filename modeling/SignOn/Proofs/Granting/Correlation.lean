import SignOn.Proofs.Granting.CleanUp
import SignOn.Proofs.Granting.HandOut

/-
This file shows that assertions and granting tickets meet under one reference, at most once, however
events are ordered.
-/

namespace SignOn.Granting

open SignOn.Markup SignOn.ServiceResponse SignOn.Text SignOn.Validator

namespace System

/-- A run that never fills the store does not fill it halfway either. -/
theorem neverFull_of_append {system : System} {history future : List Event}
    (roomy : system.NeverFull (history ++ future)) : system.NeverFull history := by
  induction history generalizing system with
  | nil => exact hasRoom_of_neverFull roomy
  | cons event events inductionHypothesis => exact ⟨roomy.1, inductionHypothesis roomy.2⟩

/-- The retention stays over every run. -/
theorem retention_after (system : System) (run : List Event) :
    (system.after run).store.retention = system.store.retention := by
  induction run generalizing system with
  | nil => rfl
  | cons event events inductionHypothesis =>
      exact (inductionHypothesis (system.apply event)).trans (system.settings_apply event).1

end System

section Accepted

variable {history : List Event} {system : System} (faithful : Faithful history system)
  {call : Call} {assertion : Assertion}
  (accepted : (system.validation call).result.1 = .ok assertion)

include accepted

/-- Without a reference in the reply there is no capability. -/
theorem canProxy_of_uncarried (uncarried : call.carriedIou? = none) :
    assertion.principal.canProxy = false := by
  obtain ⟨issuer, capability⟩ := system.capability_of_validation accepted
  rw [Principal.canProxy, capability, System.found?, uncarried]
  rfl

include faithful

/-- A principal can proxy when a ticket is outstanding under the reference and young enough. -/
theorem canProxy_iff {iou : String} (carried : call.carriedIou? = some iou) :
    assertion.principal.canProxy = true ↔
      ∃ ticket age, Outstanding history iou ticket age ∧ age < system.store.retention.nanos := by
  obtain ⟨issuer, capability⟩ := system.capability_of_validation accepted
  have found : system.found? call = (system.store.live system.uptime)[iou]? := by
    rw [System.found?, carried, Option.bind_some]
  rw [Principal.canProxy, capability, found, Option.isSome_map]
  simp only [← faithful.live_ticket_iff iou]
  cases (system.store.live system.uptime)[iou]? with
  | none => simp
  | some grant => simp

/-- Proxy tickets are asked for with the ticket that is outstanding under the reference. -/
theorem requests_of_canProxy {iou : String} (carried : call.carriedIou? = some iou)
    (able : assertion.principal.canProxy = true) :
    ∃ ticket age, Outstanding history iou ticket age ∧ age < system.store.retention.nanos ∧
      ∀ transport targetService,
        (assertion.principal.proxyTicket transport targetService).requests.map
            (fun request => Form.decode (Form.query request.url)) =
          [[("pgt", ticket), ("targetService", targetService)]] := by
  obtain ⟨issuer, capability⟩ := system.capability_of_validation accepted
  have found : system.found? call = (system.store.live system.uptime)[iou]? := by
    rw [System.found?, carried, Option.bind_some]
  rw [Principal.canProxy, capability, found, Option.isSome_map] at able
  obtain ⟨grant, live⟩ := Option.isSome_iff_exists.1 able
  obtain ⟨age, outstanding, young⟩ :=
    (faithful.live_ticket_iff iou grant.ticket).1 (congrArg (Option.map Grant.ticket) live)
  refine ⟨grant.ticket, age, outstanding, young, fun transport targetService => ?_⟩
  rw [found, live] at capability
  simp only [Principal.proxyTicket, capability, Option.map_some]
  exact ProxyCapability.decode_requests _ transport targetService

end Accepted

/--
In a run that never fills the store, a validation that is accepted with a reference gives a capability
exactly when a ticket is outstanding under that reference and younger than the retention, and proxy tickets
are asked for with that ticket. No pair is handed out more often than it was saved, and clean-ups change
no answer.
-/
theorem capability_iff_outstanding (uptime retention : Span) (capacity : Nat) (run : List Event)
    (roomy : (System.start uptime retention capacity).NeverFull run) :
    let start := System.start uptime retention capacity
    (∀ history call future assertion, run = history ++ .validate call :: future →
      ((start.after history).validation call).result.1 = .ok assertion →
        (call.carriedIou? = none → assertion.principal.canProxy = false) ∧
          ∀ iou, call.carriedIou? = some iou → trim iou = iou ∧ iou ≠ "" ∧
            (assertion.principal.canProxy = true ↔
              ∃ ticket age, Outstanding history iou ticket age ∧ age < retention.nanos) ∧
            (assertion.principal.canProxy = true →
              ∃ ticket age, Outstanding history iou ticket age ∧ age < retention.nanos ∧
                ∀ transport targetService,
                  (assertion.principal.proxyTicket transport targetService).requests.map
                      (fun request => Form.decode (Form.query request.url)) =
                    [[("pgt", ticket), ("targetService", targetService)]])) ∧
      (∀ pair, (start.handedOut run).count pair ≤ (saved run).count pair) ∧
      (∀ other, withoutCleanUps other = withoutCleanUps run →
        start.outcomes other = start.outcomes run) := by
  intro start
  refine ⟨?capability, ?handOut, ?cleanUp⟩
  case capability =>
    rintro history call future assertion rfl accepted
    have faithful : Faithful history (start.after history) :=
      (faithful_start uptime retention capacity).append history (System.neverFull_of_append roomy)
    have retained : (start.after history).store.retention = retention :=
      start.retention_after history
    refine ⟨canProxy_of_uncarried accepted, fun iou carried => ?_⟩
    obtain ⟨trimmed, nonempty⟩ := Call.trim_of_carriedIou? carried
    rw [← retained]
    exact ⟨trimmed, nonempty, canProxy_iff faithful accepted carried,
      requests_of_canProxy faithful accepted carried⟩
  case handOut =>
    intro pair
    have bound := start.count_handedOut_le run roomy pair
    have unheld : start.held pair = 0 := by
      rw [System.held, System.getElem?_start]
      simp
    omega
  case cleanUp =>
    intro other same
    exact outcomes_eq_of_withoutCleanUps start roomy same

/-- A success for one user with a reference to a granting ticket. -/
def successWithReference : Element :=
  ⟨"authenticationSuccess", none, [], [letter "user" "al", letter "proxyGrantingTicket" "I"], ""⟩

/-- A call that is answered with a reference to a granting ticket. -/
def callWithReference : Call where
  validator := allowing []
  transport := answering
    (answerWith "<user>al</user><proxyGrantingTicket>I</proxyGrantingTicket>")
  randomBits := 0
  now := default
  ticket := "ST-1"
  service := "https://app"

/-- The reply to the call names its user and the reference. -/
theorem replyOf_callWithReference :
    callWithReference.validator.replyOf callWithReference.delivery callWithReference.now =
      .ok ⟨.openEnded ⟨"al", blockAttributes successWithReference, none⟩ default, some "I", []⟩ := by
  have parsed : Element.parse
      (answerWith "<user>al</user><proxyGrantingTicket>I</proxyGrantingTicket>") =
      .ok ⟨"serviceResponse", none, [], [successWithReference], ""⟩ := by
    rw [Element.parse, toList_answerWith]
    decide +kernel
  have answered : callWithReference.validator.replyOf callWithReference.delivery
      callWithReference.now = read blockAttributes _ default :=
    replyOf_answering (allowing []) default rfl (head?_answerWith _)
      ((allowing []).dialect.request 0 "ST-1" "https://app" default)
  rw [answered, read_of_parse parsed]
  rfl

/-- A ticket that was delivered just before gives a capability to the one whose assertion refers to it. -/
theorem capability_iff_outstanding_after_delivery :
    let start := System.start ⟨0⟩ (.ofSeconds 60) 100
    let delivery := Event.deliver (some " I ") (some "T")
    start.NeverFull [delivery, .validate callWithReference] ∧
      ∃ assertion, ((start.after [delivery]).validation callWithReference).result.1 =
        .ok assertion ∧ assertion.principal.canProxy = true := by
  intro start delivery
  have roomy : start.NeverFull [delivery, .validate callWithReference] := by
    refine start.neverFull_of_saved_lt _ ?_
    have few := List.length_filterMap_le Event.saves? [delivery, .validate callWithReference]
    change 0 + (saved _).length < 100
    change (saved _).length ≤ 2 at few
    omega
  have spoken : callWithReference.isBlank = false := by decide
  have carried : callWithReference.carriedIou? = some "I" := by
    rw [Call.carriedIou?, spoken, Validator.carriedIou?, replyOf_callWithReference]
    rfl
  have outstanding : Outstanding [delivery] "I" "T" 0 :=
    ⟨[], delivery, [], rfl, by decide, by simp, rfl⟩
  obtain ⟨assertion, accepted⟩ : ∃ assertion,
      ((start.after [delivery]).validation callWithReference).result.1 = .ok assertion := by
    rw [System.validation_outcome _ spoken, replyOf_callWithReference]
    exact ⟨_, rfl⟩
  have correlated := (capability_iff_outstanding ⟨0⟩ (.ofSeconds 60) 100
    [delivery, .validate callWithReference] roomy).1 [delivery] callWithReference [] assertion rfl
    accepted
  refine ⟨roomy, assertion, accepted, ?_⟩
  exact (correlated.2 "I" carried).2.2.1.2 ⟨"T", 0, outstanding, by decide⟩

end SignOn.Granting
