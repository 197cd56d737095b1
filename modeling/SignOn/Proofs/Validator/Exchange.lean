import SignOn.Proofs.GrantStore.Lookup
import SignOn.Proofs.Text.Utf8
import SignOn.Validator

/-
This file shows what one validation sends, what it answers, and what it leaves in the store.
-/

namespace SignOn.Logged

/-- A line that is written on a condition does not change the result. -/
theorem result_of_note {Result : Type} (condition : Prop) [Decidable condition] (level : LogLevel)
    (message : String) (next : Unit → Logged Result) :
    (if condition then write level message >>= next else next ()).result = (next ()).result := by
  split
  · rfl
  · rfl

end SignOn.Logged

namespace SignOn.Traced

theorem liftM_result {Result : Type} (logged : Logged Result) :
    (liftM logged : Traced Result).result = logged.result := rfl

theorem liftM_requests {Result : Type} (logged : Logged Result) :
    (liftM logged : Traced Result).requests = [] := rfl

end SignOn.Traced

namespace SignOn.Charset

open SignOn.Text

/-- A body that opens with a tag has no byte order mark, and all of it is read back. -/
theorem decodeBody_encode {text : String} (opens : text.toList.head? = some '<') :
    (Charset.utf8.decodeBody (Utf8.encode text.toList)).result = text := by
  have unmarked : Charset.utf8.sniff (Utf8.encode text.toList) =
      (.utf8, Utf8.encode text.toList) := by
    obtain ⟨others, same⟩ := List.head?_eq_some_iff.1 opens
    rw [same]
    rfl
  have decoded : Charset.utf8.decodeWithoutMark (Utf8.encode text.toList) =
      ⟨text.toList.reverse, false⟩ := by
    change Charset.decodeUtf8 _ = _
    rw [decodeUtf8, Utf8.read_encode]
  rw [decodeBody, unmarked]
  simp only [decoded, Decoding.characters, List.reverse_reverse, String.ofList_toList]
  rfl

end SignOn.Charset

namespace SignOn.ProxyPolicy

/-- A chain is refused exactly when the policy does not authorize it, and the failure names it. -/
theorem authorize_result (policy : ProxyPolicy) (chain : ProxyChain) :
    (policy.authorize chain).result =
      if policy.authorizes chain then .ok () else .error (.invalidProxyChain chain) := by
  rw [authorize, Logged.result_of_note]
  split
  · rfl
  · rfl

end SignOn.ProxyPolicy

namespace SignOn.Validator

open SignOn.Text

/-- A validator that is given a store has an issuer too. -/
def equipped (validator : Validator) (store : Option GrantStore) : Validator :=
  match store with
  | none => validator
  | some _ => validator.withStore

/-- A transport that has the same text for every request, at once and as a success. -/
def answering (text : String) : Transport :=
  fun _ => ⟨⟨0⟩, .ok ⟨200, Utf8.encode text.toList⟩⟩

/-- A validator for one server with the default settings and some allowed chains. -/
def allowing (chains : List ProxyChain) : Validator :=
  let config :=
    { Config.ofServer "https://cas.example.com" .cas20 with allowedChains := ⟨chains⟩ }
  ⟨config, .utf8, config.dialect, none⟩

/-- The delivery that follows on the request for a ticket. -/
def exchange (validator : Validator) (transport : Transport) (randomBits : BitVec 128)
    (now : Instant) (ticket service : String) : Delivery :=
  transport (validator.dialect.request randomBits ticket service now)

/-- What is read from an answer. -/
def reading (validator : Validator) (answer : Answer) (now : Instant) : Except Failure Reply :=
  (validator.dialect.read (validator.charset.decodeBody answer.body).result now).result

/-- What is read from a delivery that is accepted. -/
def replyOf (validator : Validator) (delivery : Delivery) (now : Instant) :
    Except Failure Reply :=
  match validator.accept delivery with
  | .error failure => .error failure
  | .ok answer => validator.reading answer now

/-- The reference to a granting ticket in the reply that is read from a delivery. -/
def carriedIou? (validator : Validator) (delivery : Delivery) (now : Instant) : Option String :=
  match validator.replyOf delivery now with
  | .error _ => none
  | .ok reply => reply.grantingTicketIou

/-- The capability that a grant gives. -/
def enable (validator : Validator) (assertion : Assertion) (grant : Option Grant) : Assertion :=
  match grant, validator.issuer with
  | some grant, some issuer => assertion.withCapability ⟨grant.ticket, issuer⟩
  | _, _ => assertion

/-- What becomes of a reply: the verdict on it and the store that it leaves. -/
def settle (validator : Validator) (uptime : Span) (store : Option GrantStore) (reply : Reply) :
    Except Failure Assertion × Option GrantStore :=
  let correlated := (validator.correlateReply uptime store reply).result
  (if validator.config.policy.authorizes reply.proxies then .ok correlated.1
    else .error (.invalidProxyChain reply.proxies), correlated.2)

variable (validator : Validator) (transport : Transport) (randomBits : BitVec 128)
  (now : Instant) (uptime : Span) (store : Option GrantStore) (ticket service : String)

/-- Only the issuer of a validator depends on whether it is given a store. -/
theorem equipped_eq : ∃ issuer, validator.equipped store = { validator with issuer := issuer } := by
  cases store with
  | none => exact ⟨validator.issuer, rfl⟩
  | some store =>
      cases present : validator.issuer with
      | none =>
          refine ⟨some ⟨validator.config.serverUrl, validator.charset⟩, ?_⟩
          simp only [equipped, withStore, present, withIssuer]
      | some issuer =>
          refine ⟨some issuer, ?_⟩
          simp only [equipped, withStore, present]
          rw [← present]

theorem withStore_config : validator.withStore.config = validator.config := by
  rw [withStore]
  cases validator.issuer with
  | none => rfl
  | some issuer => rfl

theorem exists_issuer_of_withStore : ∃ issuer, validator.withStore.issuer = some issuer := by
  rw [withStore]
  cases present : validator.issuer with
  | none => exact ⟨_, rfl⟩
  | some issuer => exact ⟨issuer, present⟩

/-- A reply is refused exactly when its chain is not authorized. -/
theorem authorizeReply_result (reply : Reply) :
    (validator.authorizeReply reply).result =
      if validator.config.policy.authorizes reply.proxies then .ok ()
      else .error (.invalidProxyChain reply.proxies) := by
  rw [authorizeReply, Logged.result_of_note, ProxyPolicy.authorize_result]

/-- A reference is looked up once, and what is found under it enables the principal. -/
theorem correlate_result (store : GrantStore) (assertion : Assertion) (iou : String) :
    (validator.withStore.correlate uptime (some store) assertion iou).result =
      (validator.withStore.enable assertion ((store.live uptime)[iou]?),
        some (store.retrieve uptime iou).result.2) := by
  obtain ⟨issuer, present⟩ := validator.exists_issuer_of_withStore
  have ticket := store.retrieve_ticket uptime iou
  simp only [correlate, enable, present, Logged.bind_result]
  cases found : (store.live uptime)[iou]? with
  | none =>
      rw [found] at ticket
      simp only [ticket]
      rfl
  | some grant =>
      rw [found] at ticket
      simp only [ticket]
      rfl

/-- The verdict on a reply depends only on the live grant that the reply refers to. -/
theorem settle_outcome (store : GrantStore) (reply : Reply) :
    (validator.withStore.settle uptime (some store) reply).1 =
      if validator.withStore.config.policy.authorizes reply.proxies then
        .ok (match reply.grantingTicketIou with
          | none => reply.assertion
          | some iou => validator.withStore.enable reply.assertion ((store.live uptime)[iou]?))
      else .error (.invalidProxyChain reply.proxies) := by
  rw [settle, correlateReply]
  cases reply.grantingTicketIou with
  | none => rfl
  | some iou => simp only [correlate_result]

/-- The outcome of a reply is that of settling it, whatever is written to the log. -/
theorem resolve_result (reply : Reply) :
    (validator.resolve ticket service uptime store reply).result =
      validator.settle uptime store reply := by
  simp only [resolve, settle, Traced.bind_result, Traced.liftM_result, authorizeReply_result]
  by_cases trusted : validator.config.policy.authorizes reply.proxies = true
  · simp only [if_pos trusted]
    rfl
  · simp only [if_neg trusted]
    rfl

/-- Nothing is sent once there is a reply. -/
theorem resolve_requests (reply : Reply) :
    (validator.resolve ticket service uptime store reply).requests = [] := by
  simp only [resolve, Traced.bind_requests, Traced.liftM_result, Traced.liftM_requests,
    authorizeReply_result]
  by_cases trusted : validator.config.policy.authorizes reply.proxies = true
  · simp only [if_pos trusted]
    rfl
  · simp only [if_neg trusted]
    rfl

/-- A blank ticket is refused at once. -/
theorem validate_of_blankTicket (blank : isBlankText ticket = true) :
    validator.validate transport randomBits now uptime store ticket service =
      pure (.error (.invalidArgument .blankTicket), store) := by
  rw [validate, if_pos blank]

/-- A blank service is refused at once, behind a ticket that is not blank. -/
theorem validate_of_blankService (spoken : isBlankText ticket = false)
    (blank : isBlankText service = true) :
    validator.validate transport randomBits now uptime store ticket service =
      pure (.error (.invalidArgument .blankService), store) := by
  rw [validate, if_neg (by simp [spoken]), if_pos blank]

section Spoken

variable (spokenTicket : isBlankText ticket = false) (spokenService : isBlankText service = false)

include spokenTicket spokenService

/-- The outcome is that of the reading, and a reply is settled. -/
theorem validate_result :
    (validator.validate transport randomBits now uptime store ticket service).result =
      match validator.replyOf (validator.exchange transport randomBits now ticket service) now with
      | .error failure => (.error failure, store)
      | .ok reply => validator.settle uptime store reply := by
  rw [validate, if_neg (by simp [spokenTicket]), if_neg (by simp [spokenService])]
  simp only [Traced.bind_result, replyOf, exchange, Traced.send]
  cases validator.accept (transport (validator.dialect.request randomBits ticket service now)) with
  | error failure => rfl
  | ok answer =>
      simp only [Traced.bind_result, Traced.liftM_result]
      rw [show (validator.readAnswer answer now).result = validator.reading answer now from rfl]
      cases validator.reading answer now with
      | error failure => rfl
      | ok reply => exact validator.resolve_result uptime store ticket service reply

/-- Nothing is sent after the one request. -/
theorem validate_requests :
    (validator.validate transport randomBits now uptime store ticket service).requests =
      [validator.dialect.request randomBits ticket service now] := by
  rw [validate, if_neg (by simp [spokenTicket]), if_neg (by simp [spokenService])]
  simp only [Traced.bind_requests, Traced.send]
  cases validator.accept (transport (validator.dialect.request randomBits ticket service now)) with
  | error failure => rfl
  | ok answer =>
      simp only [Traced.bind_requests, Traced.liftM_result]
      rw [show (validator.readAnswer answer now).result = validator.reading answer now from rfl]
      cases validator.reading answer now with
      | error failure => rfl
      | ok reply =>
          simp only [Traced.bind_requests, resolve_requests]
          rfl

end Spoken

end SignOn.Validator
