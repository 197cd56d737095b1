import SignOn.Proofs.Dialect
import SignOn.Proofs.Granting.History
import SignOn.Proofs.RequestAddress

/-
This file shows which granting ticket a validation hands out, and that proxy tickets are asked for with it.
-/

namespace SignOn

open SignOn.Text SignOn.Validator

/-- A capability asks once, with its granting ticket and the service that the ticket is for. -/
theorem ProxyCapability.decode_requests (capability : ProxyCapability) (transport : Transport)
    (targetService : String) :
    (capability.proxyTicket transport targetService).requests.map
        (fun request => Form.decode (Form.query request.url)) =
      [[("pgt", capability.grantingTicket), ("targetService", targetService)]] := by
  have sent : (capability.proxyTicket transport targetService).requests =
      [capability.issuer.request capability.grantingTicket targetService] := by
    rw [proxyTicket, ProxyTicketIssuer.proxyTicket, Traced.bind_requests]
    change [capability.issuer.request capability.grantingTicket targetService] ++ _ = _
    split
    · rfl
    · rfl
  rw [sent, List.map_singleton]
  change [Form.decode (Form.query (Endpoint.url _ _ _ _))] = _
  rw [Endpoint.decode_query_url]
  rfl

/-- A reply has no capability before it is correlated. -/
theorem Validator.isPlain_of_replyOf {validator : Validator} {delivery : Delivery} {now : Instant}
    {reply : Reply} (held : validator.replyOf delivery now = .ok reply) : reply.IsPlain := by
  rw [replyOf] at held
  split at held
  · cases held
  · exact Dialect.isPlain_of_read held

/-- A grant enables a principal who has no capability yet, and no grant leaves one without. -/
theorem Validator.capability_of_enable (validator : Validator) {issuer : ProxyTicketIssuer}
    (present : validator.issuer = some issuer) {reply : Reply} (plain : reply.IsPlain)
    (grant : Option Grant) :
    (validator.enable reply.assertion grant).principal.capability =
      grant.map fun grant => ⟨grant.ticket, issuer⟩ := by
  simp only [enable, present]
  cases grant with
  | none => exact plain.incapable
  | some grant => rfl

namespace Granting

/-- A reference in a reply has no blanks around it. -/
theorem Call.trim_of_carriedIou? {call : Call} {iou : String} (carried : call.carriedIou? = some iou) :
    trim iou = iou ∧ iou ≠ "" := by
  cases blank : call.isBlank with
  | true =>
      rw [carriedIou?, blank] at carried
      cases carried
  | false =>
      rw [carriedIou?, blank, if_neg (by simp), Validator.carriedIou?] at carried
      cases held : call.validator.replyOf call.delivery call.now with
      | error failure =>
          rw [held] at carried
          cases carried
      | ok reply =>
          rw [held] at carried
          exact (isPlain_of_replyOf held).trimmed iou carried

namespace System

/-- The live grant that the reply to a call refers to. -/
def found? (system : System) (call : Call) : Option Grant :=
  call.carriedIou?.bind fun iou => (system.store.live system.uptime)[iou]?

/-- A call that is not refused at once is answered by what is read from its delivery. -/
theorem validation_result (system : System) {call : Call} (spoken : call.isBlank = false) :
    (system.validation call).result =
      match call.validator.replyOf call.delivery call.now with
      | .error failure => (.error failure, some system.store)
      | .ok reply => call.validator.withStore.settle system.uptime (some system.store) reply :=
  call.validator.validate_equipped_result call.now (Bool.or_eq_false_iff.1 spoken).1
    (Bool.or_eq_false_iff.1 spoken).2 call.transport call.randomBits system.uptime
    (some system.store)

/-- A call that is not blank sends one request. -/
theorem validation_requests (system : System) {call : Call} (spoken : call.isBlank = false) :
    (system.validation call).requests =
      [call.validator.dialect.request call.randomBits call.ticket call.service call.now] :=
  call.validator.validate_equipped_requests call.now (Bool.or_eq_false_iff.1 spoken).1
    (Bool.or_eq_false_iff.1 spoken).2 call.transport call.randomBits system.uptime
    (some system.store)

/-- The answer to a call depends on nothing of the store but the live grant that is found. -/
theorem validation_outcome (system : System) {call : Call} (spoken : call.isBlank = false) :
    (system.validation call).result.1 =
      match call.validator.replyOf call.delivery call.now with
      | .error failure => .error failure
      | .ok reply =>
        if call.validator.config.policy.authorizes reply.proxies then
          .ok (call.validator.withStore.enable reply.assertion (system.found? call))
        else .error (.invalidProxyChain reply.proxies) := by
  rw [system.validation_result spoken]
  cases held : call.validator.replyOf call.delivery call.now with
  | error failure => rfl
  | ok reply =>
      have carried : call.carriedIou? = reply.grantingTicketIou := by
        rw [Call.carriedIou?, spoken, Validator.carriedIou?, held]
        rfl
      simp only [settle_outcome, withStore_config, found?, carried]
      cases reply.grantingTicketIou with
      | none => rfl
      | some iou => rfl

/-- An accepted principal can proxy when a live grant is found, and with the ticket of that grant. -/
theorem capability_of_validation (system : System) {call : Call} {assertion : Assertion}
    (accepted : (system.validation call).result.1 = .ok assertion) :
    ∃ issuer, assertion.principal.capability =
      (system.found? call).map fun grant => ⟨grant.ticket, issuer⟩ := by
  cases blank : call.isBlank with
  | true =>
      rw [system.validation_of_blank blank] at accepted
      cases accepted
  | false =>
      obtain ⟨issuer, present⟩ := call.validator.exists_issuer_of_withStore
      rw [system.validation_outcome blank] at accepted
      cases held : call.validator.replyOf call.delivery call.now with
      | error failure =>
          rw [held] at accepted
          cases accepted
      | ok reply =>
          simp only [held] at accepted
          split at accepted
          · cases accepted
            exact ⟨issuer, capability_of_enable _ present (isPlain_of_replyOf held) _⟩
          · cases accepted

end System

end Granting

end SignOn
