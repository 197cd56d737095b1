import SignOn.Proofs.PlainText
import SignOn.Proofs.Saml.Outcome
import SignOn.Proofs.Validator.Workflow

/-
This file shows which failures a reading and a validation can lead to.
-/

namespace SignOn

open SignOn.Markup SignOn.Text

/-- What can be wrong with an answer, in which only SAML looks at the time. -/
inductive Failure.IsInAnswer (protocol : Protocol) : Failure → Prop
  | violated (violation : Violation) : IsInAnswer protocol (.protocolViolation violation)
  | rejected (code : Option String) (detail : String) :
    IsInAnswer protocol (.serverRejected code detail)
  | nameless : IsInAnswer protocol .noPrincipal
  | untimely (now : Instant) (toleranceMillis : Nat) (timed : protocol = .saml11) :
    IsInAnswer protocol (.outsideTimeWindow now toleranceMillis)

/-- Plain text fails with what is wrong in the answer. -/
theorem PlainText.isInAnswer_of_read {body : String} {now : Instant} {failure : Failure}
    (refused : PlainText.read body now = .error failure) : failure.IsInAnswer .cas10 := by
  rw [read_eq] at refused
  split at refused
  · split at refused
    · cases refused
      exact .nameless
    · cases refused
  · cases refused
    exact .rejected none _
  · cases refused
    exact .violated _

/-- A service response fails with what is wrong in the answer. -/
theorem ServiceResponse.isInAnswer_of_read {attributesOf : Element → AttributeBag} {body : String}
    {now : Instant} {failure : Failure}
    (refused : ServiceResponse.read attributesOf body now = .error failure) (protocol : Protocol) :
    failure.IsInAnswer protocol := by
  rw [ServiceResponse.read] at refused
  split at refused
  · cases refused
    exact .violated _
  · rw [readRoot] at refused
    split at refused
    · split at refused
      · cases refused
        exact .rejected _ _
      · split at refused
        · cases refused
          exact .violated _
        · rw [readSuccess_eq] at refused
          split at refused
          · cases refused
            exact .nameless
          · cases refused
    · cases refused
      exact .violated _

namespace Saml

/-- A response that is not found is wrong in the answer. -/
theorem isInAnswer_of_response {envelope : Element} {failure : Failure}
    (refused : response envelope = .error failure) : failure.IsInAnswer .saml11 := by
  rw [response] at refused
  split at refused
  · split at refused
    · cases refused
      exact .violated _
    · split at refused
      · cases refused
      · split at refused
        · cases refused
        · cases refused
          exact .violated _
  · cases refused
    exact .violated _

/-- A status that is refused is wrong in the answer. -/
theorem isInAnswer_of_checkStatus {found : Element} {failure : Failure}
    (refused : checkStatus found = .error failure) : failure.IsInAnswer .saml11 := by
  rw [checkStatus] at refused
  split at refused
  · cases refused
  · dsimp only at refused
    split at refused
    · cases refused
    · cases refused
      exact .rejected _ _

/-- Assertions that are not there are wrong in the answer. -/
theorem isInAnswer_of_assertions {envelope : Element} {failure : Failure}
    (refused : assertions envelope = .error failure) : failure.IsInAnswer .saml11 := by
  cases accepted : response envelope with
  | error earlier =>
      rw [assertions, accepted] at refused
      cases refused
      exact isInAnswer_of_response accepted
  | ok found =>
      rw [assertions_of_response accepted] at refused
      cases succeeded : checkStatus found with
      | error earlier =>
          rw [succeeded] at refused
          cases refused
          exact isInAnswer_of_checkStatus succeeded
      | ok _ =>
          rw [succeeded] at refused
          dsimp only at refused
          split at refused
          · cases refused
            exact .violated _
          · cases refused

/-- The principal has a name, and a window that ends before it starts is a fault of the answer. -/
theorem isInAnswer_of_readAssertion {source : Element} {window : Window} {failure : Failure}
    (refused : (readAssertion source window).result = .error failure) :
    failure.IsInAnswer .saml11 := by
  rw [readAssertion_result] at refused
  split at refused
  · cases refused
    exact .nameless
  · split at refused
    · cases refused
      exact .violated _
    · cases refused

/-- An answer of SAML fails with what is wrong in it. -/
theorem isInAnswer_of_read {tolerance : Span} {body : String} {now : Instant} {failure : Failure}
    (refused : (Saml.read tolerance body now).result = .error failure) :
    failure.IsInAnswer .saml11 := by
  cases parsed : Element.parse body with
  | error fault =>
      rw [Saml.read, parsed] at refused
      cases refused
      exact .violated _
  | ok envelope =>
      rw [read_of_parse parsed, readRoot_result] at refused
      split at refused
      · rename_i earlier failed
        cases refused
        exact isInAnswer_of_assertions failed
      · split at refused
        · cases refused
          exact .untimely _ _ rfl
        · rename_i source window _
          cases read : (readAssertion source window).result with
          | error earlier =>
              rw [read] at refused
              cases refused
              exact isInAnswer_of_readAssertion read
          | ok assertion =>
              rw [read] at refused
              cases refused

end Saml

/-- Whatever the version of the protocol, a reading fails for what is wrong with the answer. -/
theorem Dialect.isInAnswer_of_read {dialect : Dialect} {body : String} {now : Instant}
    {failure : Failure} (refused : (dialect.read body now).result = .error failure) :
    failure.IsInAnswer dialect.protocol := by
  cases dialect with
  | cas10 endpoint => exact PlainText.isInAnswer_of_read refused
  | cas20 endpoint expectsProxies => exact ServiceResponse.isInAnswer_of_read refused .cas20
  | cas30 endpoint expectsProxies => exact ServiceResponse.isInAnswer_of_read refused .cas30
  | saml11 endpoint tolerance identifiers => exact Saml.isInAnswer_of_read refused

namespace Validator

/-- Nothing is read from a delivery for a fault on the way or for what is wrong with the answer. -/
theorem failure_of_replyOf {validator : Validator} {delivery : Delivery} {now : Instant}
    {failure : Failure} (failed : validator.replyOf delivery now = .error failure) :
    (∃ fault, failure = .transport fault) ∨ failure.IsInAnswer validator.dialect.protocol := by
  rw [replyOf] at failed
  split at failed
  · rename_i unaccepted
    cases failed
    rw [accept] at unaccepted
    split at unaccepted
    · rename_i fault _
      cases unaccepted
      exact Or.inl ⟨fault, rfl⟩
    · cases unaccepted
  · exact Or.inr (Dialect.isInAnswer_of_read failed)

variable (validator : Validator) (transport : Transport) (randomBits : BitVec 128) (now : Instant)
  (uptime : Span) (store : Option GrantStore) {ticket service : String}

/-- A validation fails with the reading or, once a reply is read, with its chain of proxies. -/
theorem validate_eq_error_iff (spokenTicket : isBlankText ticket = false)
    (spokenService : isBlankText service = false) (failure : Failure) :
    (validator.validate transport randomBits now uptime store ticket service).result.1 =
        .error failure ↔
      validator.replyOf (validator.exchange transport randomBits now ticket service) now =
          .error failure ∨
        ∃ reply, validator.replyOf (validator.exchange transport randomBits now ticket service)
            now = .ok reply ∧
          validator.config.policy.authorizes reply.proxies = false ∧
            failure = .invalidProxyChain reply.proxies := by
  rw [validate_result _ _ _ _ _ _ _ _ spokenTicket spokenService]
  cases validator.replyOf (validator.exchange transport randomBits now ticket service) now with
  | error earlier => simp
  | ok reply =>
      cases trusted : validator.config.policy.authorizes reply.proxies with
      | true => simp [settle, trusted]
      | false => simp [settle, trusted, eq_comm (a := failure)]

/-- Nothing but a blank ticket or a blank service is the fault of the caller. -/
theorem validate_invalidArgument_iff (ticket service : String) :
    (∃ fault, (validator.validate transport randomBits now uptime store ticket service).result.1 =
        .error (.invalidArgument fault)) ↔
      isBlankText ticket = true ∨ isBlankText service = true := by
  cases spokenTicket : isBlankText ticket with
  | true => simp [validate_of_blankTicket, spokenTicket]
  | false =>
      cases spokenService : isBlankText service with
      | true => simp [validate_of_blankService, spokenTicket, spokenService]
      | false =>
          constructor
          · rintro ⟨fault, failed⟩
            rcases (validator.validate_eq_error_iff transport randomBits now uptime store
              spokenTicket spokenService _).1 failed with unread | ⟨reply, -, -, other⟩
            · rcases failure_of_replyOf unread with ⟨lost, other⟩ | inAnswer
              · cases other
              · cases inAnswer
            · cases other
          · rintro (blank | blank) <;> cases blank

end Validator

end SignOn
