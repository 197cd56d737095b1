import SignOn.Dialect
import SignOn.Proofs.PlainText
import SignOn.Proofs.Saml.Outcome

/-
This file shows what is common to the replies that are read in all versions of the protocol.
-/

namespace SignOn

open SignOn.Markup SignOn.Text

/-- A reply names a principal without a capability, and a reference in it has no blanks around it. -/
structure Reply.IsPlain (reply : Reply) : Prop where
  incapable : reply.assertion.principal.capability = none
  trimmed : ∀ iou, reply.grantingTicketIou = some iou → trim iou = iou ∧ iou ≠ ""

/-- A reply that is an assertion and nothing else refers to no granting ticket. -/
theorem Reply.isPlain_ofAssertion {assertion : Assertion}
    (incapable : assertion.principal.capability = none) : (ofAssertion assertion).IsPlain :=
  ⟨incapable, fun _ carried => by cases carried⟩

/-- What is read from plain text is a plain reply. -/
theorem PlainText.isPlain_of_read {body : String} {now : Instant} {reply : Reply}
    (found : PlainText.read body now = .ok reply) : reply.IsPlain := by
  obtain ⟨rest, -, -, rfl⟩ := (read_eq_ok_iff body now reply).1 found
  exact Reply.isPlain_ofAssertion rfl

/-- What is read from an answer of SAML is a plain reply. -/
theorem Saml.isPlain_of_read {tolerance : Span} {body : String} {now : Instant} {reply : Reply}
    (found : (Saml.read tolerance body now).result = .ok reply) : reply.IsPlain := by
  obtain ⟨source, window, statement, name, -, -, -, rfl⟩ := exists_stated_of_read found
  exact Reply.isPlain_ofAssertion rfl

/-- What is read from a service response is a plain reply. -/
theorem ServiceResponse.isPlain_of_read {attributesOf : Element → AttributeBag} {body : String}
    {now : Instant} {reply : Reply}
    (found : ServiceResponse.read attributesOf body now = .ok reply) : reply.IsPlain := by
  rw [ServiceResponse.read] at found
  split at found
  · cases found
  · obtain ⟨-, -, success, -, user, -, rfl⟩ := (readRoot_eq_ok_iff _ _ _ _).1 found
    refine ⟨rfl, fun iou carried => ?_⟩
    obtain ⟨element, -, nonempty⟩ := Option.bind_eq_some_iff.1 carried
    exact trim_of_nonemptyText? nonempty

/-- Whatever the version of the protocol, a reply is plain. -/
theorem Dialect.isPlain_of_read {dialect : Dialect} {body : String} {now : Instant} {reply : Reply}
    (found : (dialect.read body now).result = .ok reply) : reply.IsPlain := by
  cases dialect with
  | cas10 endpoint => exact PlainText.isPlain_of_read found
  | cas20 endpoint expectsProxies => exact ServiceResponse.isPlain_of_read found
  | cas30 endpoint expectsProxies => exact ServiceResponse.isPlain_of_read found
  | saml11 endpoint tolerance identifiers => exact Saml.isPlain_of_read found

end SignOn
