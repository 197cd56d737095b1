import SignOn.Proofs.Validator.Exchange

/-
This file shows that a validation makes its checks one after another, and what each outcome leaves behind.
-/

namespace SignOn.Validator

open SignOn.Text

/-- The checks that a validation makes of a delivery. -/
inductive Check
  | arrival
  | transport
  | status
  | reading
  | chain
  deriving DecidableEq

namespace Check

/-- These checks come before anything is looked up in the store. -/
def leading : List Check := [.arrival, .transport, .status, .reading]

/-- The chain of proxies is checked last. -/
def inOrder : List Check := leading ++ [.chain]

/-- The failure of one check, whatever comes of the others. -/
def failure? (validator : Validator) (delivery : Delivery) (now : Instant) :
    Check → Option Failure
  | .arrival =>
    if validator.config.timeout.nanos < delivery.delay.nanos then
      some (.transport (.timeout validator.config.timeout))
    else none
  | .transport =>
    match delivery.outcome with
    | .error fault => some (.transport fault)
    | .ok _ => none
  | .status =>
    match delivery.outcome with
    | .error _ => none
    | .ok answer =>
      if 200 ≤ answer.status ∧ answer.status < 300 then none
      else some (.transport (.status answer.status))
  | .reading =>
    match delivery.outcome with
    | .error _ => none
    | .ok answer =>
      match validator.reading answer now with
      | .error failure => some failure
      | .ok _ => none
  | .chain =>
    match delivery.outcome with
    | .error _ => none
    | .ok answer =>
      match validator.reading answer now with
      | .error _ => none
      | .ok reply =>
        if validator.config.policy.authorizes reply.proxies then none
        else some (.invalidProxyChain reply.proxies)

end Check

/-- The failure of the first check that fails. -/
def firstFailure? (validator : Validator) (delivery : Delivery) (now : Instant)
    (checks : List Check) : Option Failure :=
  checks.findSome? (Check.failure? validator delivery now)

/-- A reply that passes the leading checks refers to a granting ticket. -/
structure Carries (validator : Validator) (delivery : Delivery) (now : Instant) (iou : String) :
    Prop where
  passed : ∀ check ∈ Check.leading, check.failure? validator delivery now = none
  refers : ∃ answer reply, delivery.outcome = .ok answer ∧
    validator.reading answer now = .ok reply ∧ reply.grantingTicketIou = some iou

variable (validator : Validator) (delivery : Delivery) (now : Instant)

/-- A lookup among the checks of a delivery takes them one by one. -/
theorem firstFailure?_cons (check : Check) (others : List Check) :
    validator.firstFailure? delivery now (check :: others) =
      (check.failure? validator delivery now).or
        (validator.firstFailure? delivery now others) := by
  rw [firstFailure?, List.findSome?_cons, firstFailure?]
  cases check.failure? validator delivery now with
  | none => rfl
  | some failure => rfl

/-- No check fails first exactly when all are passed. -/
theorem firstFailure?_eq_none_iff (checks : List Check) :
    validator.firstFailure? delivery now checks = none ↔
      ∀ check ∈ checks, check.failure? validator delivery now = none :=
  List.findSome?_eq_none_iff

/-- A delivery that comes after the timeout fails for it, whatever it brings. -/
theorem accept_of_late (late : validator.config.timeout.nanos < delivery.delay.nanos) :
    validator.accept delivery = .error (.transport (.timeout validator.config.timeout)) := by
  rw [accept, Delivery.within, if_pos late]
  rfl

/-- A delivery in time that failed on its way fails with its own fault. -/
theorem accept_of_fault (inTime : ¬ validator.config.timeout.nanos < delivery.delay.nanos)
    {fault : TransportFault} (failed : delivery.outcome = .error fault) :
    validator.accept delivery = .error (.transport fault) := by
  rw [accept, Delivery.within, if_neg inTime, failed]
  rfl

/-- An answer in time is accepted exactly when its status is one of success. -/
theorem accept_of_answer (inTime : ¬ validator.config.timeout.nanos < delivery.delay.nanos)
    {answer : Answer} (answered : delivery.outcome = .ok answer) :
    validator.accept delivery =
      if 200 ≤ answer.status ∧ answer.status < 300 then .ok answer
      else .error (.transport (.status answer.status)) := by
  rw [accept, Delivery.within, if_neg inTime, answered]
  change (match acceptSuccess answer with | .error fault => _ | .ok answer => _) = _
  by_cases success : 200 ≤ answer.status ∧ answer.status < 300
  · simp [acceptSuccess, Answer.isSuccess, success]
  · rw [if_neg success, acceptSuccess, if_neg (by simpa [Answer.isSuccess] using success)]

/-- A text that is answered at once is read as it is. -/
theorem replyOf_answering (charset : validator.charset = .utf8) {text : String}
    (opens : text.toList.head? = some '<') (request : Request) :
    validator.replyOf (answering text request) now = (validator.dialect.read text now).result := by
  have inTime : ¬ validator.config.timeout.nanos < (answering text request).delay.nanos :=
    Nat.not_lt_zero _
  rw [replyOf, accept_of_answer validator (answering text request) inTime rfl,
    if_pos ⟨(by decide : 200 ≤ 200), (by decide : 200 < 300)⟩]
  simp only [reading, charset, Charset.decodeBody_encode opens]

/-- A delivery is read up to the first of the leading checks that fails. -/
theorem replyOf_eq :
    validator.replyOf delivery now =
      match validator.firstFailure? delivery now Check.leading with
      | some failure => .error failure
      | none =>
        match delivery.outcome with
        | .error fault => .error (.transport fault)
        | .ok answer => validator.reading answer now := by
  simp only [Check.leading, firstFailure?_cons, Check.failure?]
  by_cases late : validator.config.timeout.nanos < delivery.delay.nanos
  · rw [replyOf, accept_of_late validator delivery late]
    simp only [if_pos late]
    rfl
  · simp only [if_neg late, Option.none_or]
    cases arrived : delivery.outcome with
    | error fault =>
        rw [replyOf, accept_of_fault validator delivery late arrived]
        rfl
    | ok answer =>
        rw [replyOf, accept_of_answer validator delivery late arrived]
        by_cases success : 200 ≤ answer.status ∧ answer.status < 300
        · simp only [if_pos success, Option.none_or]
          cases validator.reading answer now with
          | error failure => rfl
          | ok reply => rfl
        · simp only [if_neg success]
          rfl

/-- A delivery that passes the leading checks holds a reply. -/
theorem exists_reply_of_passed
    (passed : ∀ check ∈ Check.leading, check.failure? validator delivery now = none) :
    ∃ answer reply, delivery.outcome = .ok answer ∧ validator.reading answer now = .ok reply ∧
      validator.replyOf delivery now = .ok reply := by
  have unfailing := (validator.firstFailure?_eq_none_iff delivery now Check.leading).2 passed
  have readings := validator.replyOf_eq delivery now
  have transported := passed .transport (by decide)
  have readable := passed .reading (by decide)
  cases arrived : delivery.outcome with
  | error fault => simp [Check.failure?, arrived] at transported
  | ok answer =>
      cases read : validator.reading answer now with
      | error failure => simp [Check.failure?, arrived, read] at readable
      | ok reply =>
          refine ⟨answer, reply, rfl, read, ?_⟩
          simp only [readings, unfailing, arrived, read]

/-- The last check is about the chain of the reply. -/
theorem firstFailure?_inOrder :
    validator.firstFailure? delivery now Check.inOrder =
      match validator.replyOf delivery now with
      | .error failure => some failure
      | .ok reply =>
        if validator.config.policy.authorizes reply.proxies then none
        else some (.invalidProxyChain reply.proxies) := by
  have split : validator.firstFailure? delivery now Check.inOrder =
      (validator.firstFailure? delivery now Check.leading).or
        (Check.chain.failure? validator delivery now) := by
    rw [firstFailure?, Check.inOrder, List.findSome?_append, firstFailure?]
    simp
  cases failed : validator.firstFailure? delivery now Check.leading with
  | some failure =>
      rw [split, validator.replyOf_eq delivery now, failed]
      rfl
  | none =>
      obtain ⟨answer, reply, arrived, read, held⟩ := validator.exists_reply_of_passed delivery now
        ((validator.firstFailure?_eq_none_iff delivery now Check.leading).1 failed)
      rw [split, failed, held, Option.none_or]
      simp only [Check.failure?, arrived, read]

/-- The reply that passes the leading checks is the one that is settled. -/
theorem Carries.held {validator : Validator} {delivery : Delivery} {now : Instant} {iou : String}
    (carries : Carries validator delivery now iou) :
    ∃ reply, validator.replyOf delivery now = .ok reply ∧ reply.grantingTicketIou = some iou := by
  obtain ⟨answer, reply, arrived, read, refers⟩ := carries.refers
  have unfailing :=
    (validator.firstFailure?_eq_none_iff delivery now Check.leading).2 carries.passed
  refine ⟨reply, ?_, refers⟩
  simp only [replyOf_eq, unfailing, arrived, read]

/-- The reference that is looked up is the one that the reply carries. -/
theorem carriedIou?_eq_some_iff (iou : String) :
    validator.carriedIou? delivery now = some iou ↔ Carries validator delivery now iou := by
  constructor
  · intro carried
    rw [carriedIou?, validator.replyOf_eq delivery now] at carried
    cases failed : validator.firstFailure? delivery now Check.leading with
    | some failure => simp [failed] at carried
    | none =>
        have passed := (validator.firstFailure?_eq_none_iff delivery now Check.leading).1 failed
        obtain ⟨answer, reply, arrived, read, held⟩ :=
          validator.exists_reply_of_passed delivery now passed
        simp only [failed, arrived, read] at carried
        exact ⟨passed, answer, reply, arrived, read, carried⟩
  · intro carries
    obtain ⟨reply, held, refers⟩ := carries.held
    rw [carriedIou?, held]
    exact refers

/-- A store is settled by taking what the reply refers to, whether the chain is trusted or not. -/
theorem settle_store (uptime : Span) (store : Option GrantStore) (reply : Reply) :
    match store, reply.grantingTicketIou with
    | some before, some iou => ∃ after,
        ((validator.equipped store).settle uptime store reply).2 = some after ∧
          before.Took iou after
    | _, _ => ((validator.equipped store).settle uptime store reply).2 = store := by
  rw [settle, correlateReply]
  cases reply.grantingTicketIou with
  | none =>
      cases store with
      | none => rfl
      | some before => rfl
  | some iou =>
      cases store with
      | none => rfl
      | some before =>
          refine ⟨(before.retrieve uptime iou).result.2, ?_, before.took_retrieve uptime iou⟩
          simp only [equipped, correlate_result]

section Spoken

variable {ticket service : String} (spokenTicket : isBlankText ticket = false)
  (spokenService : isBlankText service = false) (transport : Transport)
  (randomBits : BitVec 128) (uptime : Span) (store : Option GrantStore)

include spokenTicket spokenService

/-- What is read from a delivery does not depend on the issuer. -/
theorem validate_equipped_result :
    ((validator.equipped store).validate transport randomBits now uptime store
        ticket service).result =
      match validator.replyOf (validator.exchange transport randomBits now ticket service) now with
      | .error failure => (.error failure, store)
      | .ok reply => (validator.equipped store).settle uptime store reply := by
  rw [validate_result _ transport randomBits now uptime store ticket service spokenTicket
    spokenService]
  obtain ⟨issuer, same⟩ := validator.equipped_eq store
  rw [same]
  rfl

/-- A validator with a store sends one request, whatever comes of it. -/
theorem validate_equipped_requests :
    ((validator.equipped store).validate transport randomBits now uptime store
        ticket service).requests = [validator.dialect.request randomBits ticket service now] := by
  rw [validate_requests _ transport randomBits now uptime store ticket service spokenTicket
    spokenService]
  obtain ⟨issuer, same⟩ := validator.equipped_eq store
  rw [same]

/-- The outcome of a validation is that of the first check that fails. -/
theorem validate_outcome :
    match validator.firstFailure? (validator.exchange transport randomBits now ticket service) now
      Check.inOrder with
    | some failure => ((validator.equipped store).validate transport randomBits now uptime store
        ticket service).result.1 = .error failure
    | none => ∃ assertion, ((validator.equipped store).validate transport randomBits now uptime
        store ticket service).result.1 = .ok assertion := by
  rw [validator.validate_equipped_result now spokenTicket spokenService, firstFailure?_inOrder]
  cases validator.replyOf (validator.exchange transport randomBits now ticket service) now with
  | error failure => rfl
  | ok reply =>
      have sameConfig : (validator.equipped store).config = validator.config := by
        obtain ⟨issuer, same⟩ := validator.equipped_eq store
        rw [same]
      simp only [settle, sameConfig]
      by_cases trusted : validator.config.policy.authorizes reply.proxies = true
      · simp only [if_pos trusted]
        exact ⟨_, rfl⟩
      · simp only [if_neg trusted]

/-- What the reply refers to is taken out of the store. -/
theorem validate_takes {before : GrantStore} {iou : String}
    (carries : Carries validator (validator.exchange transport randomBits now ticket service) now
      iou) :
    ∃ after, ((validator.equipped (some before)).validate transport randomBits now uptime
      (some before) ticket service).result.2 = some after ∧ before.Took iou after := by
  rw [validator.validate_equipped_result now spokenTicket spokenService]
  obtain ⟨reply, held, refers⟩ := carries.held
  have settled := validator.settle_store uptime (some before) reply
  rw [refers] at settled
  rw [held]
  exact settled

/-- Without a store, or without a reference in a reply, everything is left as it was. -/
theorem validate_leaves
    (unreferred : store = none ∨
      ∀ iou, ¬ Carries validator (validator.exchange transport randomBits now ticket service) now
        iou) :
    ((validator.equipped store).validate transport randomBits now uptime store
      ticket service).result.2 = store := by
  rw [validator.validate_equipped_result now spokenTicket spokenService]
  cases held : validator.replyOf (validator.exchange transport randomBits now ticket service) now with
  | error failure => rfl
  | ok reply =>
      have settled := validator.settle_store uptime store reply
      cases refers : reply.grantingTicketIou with
      | none =>
          rw [refers] at settled
          cases store with
          | none => exact settled
          | some before => exact settled
      | some iou =>
          rw [refers] at settled
          cases store with
          | none => exact settled
          | some before =>
              have carries := (validator.carriedIou?_eq_some_iff _ now iou).1
                (by rw [carriedIou?, held]; exact refers)
              rcases unreferred with absent | never
              · cases absent
              · exact absurd carries (never iou)

end Spoken

/-- A validation succeeds when something is read and its chain is trusted. -/
theorem validate_ok_iff (validator : Validator) (transport : Transport) (randomBits : BitVec 128)
    (now : Instant) (uptime : Span) (store : Option GrantStore) (ticket service : String) :
    (∃ assertion, ((validator.equipped store).validate transport randomBits now uptime store
        ticket service).result.1 = .ok assertion) ↔
      isBlankText ticket = false ∧ isBlankText service = false ∧
        ∃ reply, validator.replyOf (validator.exchange transport randomBits now ticket service)
          now = .ok reply ∧ validator.config.policy.authorizes reply.proxies = true := by
  cases spokenTicket : isBlankText ticket with
  | true => simp [validate_of_blankTicket, spokenTicket]
  | false =>
      cases spokenService : isBlankText service with
      | true => simp [validate_of_blankService, spokenTicket, spokenService]
      | false =>
          have outcome := validator.validate_outcome now spokenTicket spokenService transport
            randomBits uptime store
          rw [firstFailure?_inOrder] at outcome
          cases held : validator.replyOf
            (validator.exchange transport randomBits now ticket service) now with
          | error failure =>
              rw [held] at outcome
              simp [outcome]
          | ok reply =>
              rw [held] at outcome
              by_cases trusted : validator.config.policy.authorizes reply.proxies = true
              · simp only [if_pos trusted] at outcome
                simp [outcome, trusted]
              · simp only [if_neg trusted] at outcome
                simp [outcome, trusted]

/-- A validation of something blank does nothing. Any other sends one request, fails with the first check
that fails, and takes out of the store what its reply refers to. -/
theorem validate_follows_checks (validator : Validator) (transport : Transport)
    (randomBits : BitVec 128) (now : Instant) (uptime : Span) (store : Option GrantStore)
    (ticket service : String) :
    let validation :=
      (validator.equipped store).validate transport randomBits now uptime store ticket service
    let delivery := validator.exchange transport randomBits now ticket service
    if isBlankText ticket ∨ isBlankText service then
      validation.result = (.error (.invalidArgument
          (if isBlankText ticket then .blankTicket else .blankService)), store) ∧
        validation.requests = [] ∧ validation.log = []
    else
      validation.requests = [validator.dialect.request randomBits ticket service now] ∧
        (match validator.firstFailure? delivery now Check.inOrder with
          | some failure => validation.result.1 = .error failure
          | none => ∃ assertion, validation.result.1 = .ok assertion) ∧
        (∀ before iou, store = some before → Carries validator delivery now iou →
          ∃ after, validation.result.2 = some after ∧ before.Took iou after) ∧
        ((store = none ∨ ∀ iou, ¬ Carries validator delivery now iou) →
          validation.result.2 = store) := by
  intro validation delivery
  by_cases blankTicket : isBlankText ticket = true
  · rw [if_pos (Or.inl blankTicket), if_pos blankTicket]
    have silent : validation = pure (.error (.invalidArgument .blankTicket), store) :=
      validate_of_blankTicket _ transport randomBits now uptime store ticket service blankTicket
    rw [silent]
    exact ⟨rfl, rfl, rfl⟩
  have spokenTicket := Bool.eq_false_iff.2 blankTicket
  by_cases blankService : isBlankText service = true
  · rw [if_pos (Or.inr blankService), if_neg blankTicket]
    have silent : validation = pure (.error (.invalidArgument .blankService), store) :=
      validate_of_blankService _ transport randomBits now uptime store ticket service spokenTicket
        blankService
    rw [silent]
    exact ⟨rfl, rfl, rfl⟩
  have spokenService := Bool.eq_false_iff.2 blankService
  rw [if_neg (not_or.2 ⟨blankTicket, blankService⟩)]
  refine ⟨?requests, ?outcome, ?takes, ?leaves⟩
  case requests =>
    exact validator.validate_equipped_requests now spokenTicket spokenService transport randomBits
      uptime store
  case outcome =>
    exact validator.validate_outcome now spokenTicket spokenService transport randomBits uptime
      store
  case takes =>
    rintro before iou rfl carries
    exact validator.validate_takes now spokenTicket spokenService transport randomBits uptime
      carries
  case leaves =>
    exact validator.validate_leaves now spokenTicket spokenService transport randomBits uptime
      store

end SignOn.Validator
