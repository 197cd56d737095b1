import SignOn.Proofs.RequestAddress
import SignOn.Proofs.Validator.Exchange

/-
This file shows how much of a ticket can be read from what its validation logs.
-/

namespace SignOn

open SignOn.Text

/-- Only an address of SAML says nothing about the ticket. -/
theorem Dialect.url_eq_iff (dialect : Dialect) (first second service : String) :
    dialect.url first service = dialect.url second service ↔
      dialect.protocol = .saml11 ∨ first = second := by
  constructor
  · intro same
    have read := congrArg (fun address => Form.decode (Form.query address)) same
    simp only [Dialect.url, Endpoint.decode_query_url, Endpoint.parameters, List.append_assoc]
      at read
    cases dialect with
    | saml11 endpoint tolerance identifiers => exact Or.inl rfl
    | _ => exact Or.inr (congrArg Prod.snd (List.cons.inj read).1)
  · rintro (timed | rfl)
    · cases dialect with
      | saml11 endpoint tolerance identifiers => rfl
      | _ => cases timed
    · rfl

/-- The message of a failed connection shows the address. -/
theorem TransportFault.address_of_message {first second reason : String}
    (same : (connection first reason).message = (connection second reason).message) :
    first = second := by
  have shown (address : String) : (connection address reason).message =
      "Failed to reach CAS server at " ++ address ++ ": " ++ reason := rfl
  rw [shown, shown, String.append_assoc, String.append_assoc, String.append_assoc,
    String.append_assoc] at same
  exact (String.append_left_inj _).1 ((String.append_right_inj _).1 same)

namespace Validator

/-- Two connections fail in time, each with the address of its own request and for one reason. -/
def Unreached (validator : Validator) (transport : Transport) (first second : Request) : Prop :=
  ∃ reason,
    (transport first).within validator.config.timeout = .error (.connection first.url reason) ∧
    (transport second).within validator.config.timeout = .error (.connection second.url reason)

/-- Deliveries come to the same, but for the address that a failed connection names. -/
inductive TreatsAlike (validator : Validator) (transport : Transport) (first second : Request) :
    Prop
  | same (same : (transport first).within validator.config.timeout =
      (transport second).within validator.config.timeout)
  | unreached (unreached : validator.Unreached transport first second)

/-- What a validation does once a delivery is accepted or not. -/
def follow (validator : Validator) (accepted : Except Failure Answer) (now : Instant)
    (uptime : Span) (store : Option GrantStore) (ticket service : String) : Validation :=
  match accepted with
  | .error failure => do
    reject ticket .requestBuilt failure
    return (.error failure, store)
  | .ok answer => do
    advance ticket .requestBuilt .responseReceived
    match ← validator.readAnswer answer now with
    | .error failure =>
      reject ticket .responseReceived failure
      return (.error failure, store)
    | .ok reply =>
      advance ticket .responseReceived .parsed
      validator.resolve ticket service uptime store reply

/-- A delivery that is lost fails with the fault that lost it. -/
theorem accept_of_within_error {validator : Validator} {delivery : Delivery} {fault : TransportFault}
    (lost : delivery.within validator.config.timeout = .error fault) :
    validator.accept delivery = .error (.transport fault) := by
  rw [accept, lost]
  rfl

variable (validator : Validator) (transport : Transport) (randomBits : BitVec 128) (now : Instant)
  (uptime : Span) (store : Option GrantStore) {first second : String} (service : String)

/-- Tickets that start alike are followed alike. -/
theorem follow_congr (start : shownTicket first = shownTicket second)
    (accepted : Except Failure Answer) :
    validator.follow accepted now uptime store first service =
      validator.follow accepted now uptime store second service := by
  simp only [follow, resolve, advance, reject, start]

/-- One request is sent between the first line of the log and all others. -/
theorem validate_eq_follow {ticket : String} (spokenTicket : isBlankText ticket = false)
    (spokenService : isBlankText service = false) :
    validator.validate transport randomBits now uptime store ticket service = (do
      advance ticket .idle .requestBuilt
      let delivery ← Traced.send transport
        (validator.dialect.request randomBits ticket service now)
      validator.follow (validator.accept delivery) now uptime store ticket service) := by
  rw [validate, if_neg (by simp [spokenTicket]), if_neg (by simp [spokenService])]
  rfl

/-- The log of a validation begins with the request, and its delivery decides over the rest. -/
theorem validate_log {ticket : String} (spokenTicket : isBlankText ticket = false)
    (spokenService : isBlankText service = false) :
    (validator.validate transport randomBits now uptime store ticket service).log =
      (advance ticket .idle .requestBuilt).log ++
        (validator.follow (validator.accept
            (validator.exchange transport randomBits now ticket service))
          now uptime store ticket service).log := by
  rw [validate_eq_follow _ _ _ _ _ _ _ spokenTicket spokenService]
  rfl

/-- Tickets that start alike are logged alike exactly when their deliveries are followed alike. -/
theorem validate_log_eq_iff (spokenFirst : isBlankText first = false)
    (spokenSecond : isBlankText second = false) (spokenService : isBlankText service = false)
    (start : shownTicket first = shownTicket second) :
    (validator.validate transport randomBits now uptime store first service).log =
        (validator.validate transport randomBits now uptime store second service).log ↔
      (validator.follow (validator.accept
          (validator.exchange transport randomBits now first service))
        now uptime store second service).log =
      (validator.follow (validator.accept
          (validator.exchange transport randomBits now second service))
        now uptime store second service).log := by
  have opening : (advance first .idle .requestBuilt).log =
      (advance second .idle .requestBuilt).log := by
    simp only [advance, start]
  rw [validate_log _ _ _ _ _ _ _ spokenFirst spokenService,
    validate_log _ _ _ _ _ _ _ spokenSecond spokenService, opening,
    validator.follow_congr now uptime store service start]
  exact List.append_right_inj _

/-- A connection that fails is logged with the address of its request. -/
theorem follow_log_unreached_iff (firstUrl secondUrl reason ticket : String) :
    (validator.follow (.error (.transport (.connection firstUrl reason))) now uptime store ticket
        service).log =
      (validator.follow (.error (.transport (.connection secondUrl reason))) now uptime store ticket
        service).log ↔ firstUrl = secondUrl := by
  have line (url : String) : (validator.follow (.error (.transport (.connection url reason))) now
      uptime store ticket service).log =
        [⟨.warn, "Ticket " ++ shownTicket ticket ++ " rejected after " ++ "RequestBuilt" ++ ": " ++
          ("Transport error: " ++ (TransportFault.connection url reason).message)⟩] := rfl
  constructor
  · intro same
    rw [line, line] at same
    have messages := congrArg LogLine.message (List.cons.inj same).1
    have faults := (String.append_right_inj _).1 ((String.append_right_inj _).1 messages)
    exact TransportFault.address_of_message faults
  · rintro rfl
    rfl

/--
What a validation logs shows no more of a ticket than its first ten characters, unless the server is
not reached. The address in that failure holds the whole ticket in all versions but SAML.
-/
theorem logs_alike_iff (spokenFirst : isBlankText first = false)
    (spokenSecond : isBlankText second = false)
    (start : first.toList.take 10 = second.toList.take 10)
    (alike : validator.TreatsAlike transport
      (validator.dialect.request randomBits first service now)
      (validator.dialect.request randomBits second service now)) :
    (validator.validate transport randomBits now uptime store first service).log =
        (validator.validate transport randomBits now uptime store second service).log ↔
      isBlankText service = true ∨ first = second ∨ validator.dialect.protocol = .saml11 ∨
        ¬ validator.Unreached transport (validator.dialect.request randomBits first service now)
          (validator.dialect.request randomBits second service now) := by
  cases spokenService : isBlankText service with
  | true =>
      rw [validate_of_blankService _ _ _ _ _ _ _ _ spokenFirst spokenService,
        validate_of_blankService _ _ _ _ _ _ _ _ spokenSecond spokenService]
      simp
  | false =>
      have shown : shownTicket first = shownTicket second := congrArg String.ofList start
      rw [validate_log_eq_iff _ _ _ _ _ _ _ spokenFirst spokenSecond spokenService shown]
      -- The address in a failed connection is all that can tell the deliveries apart.
      by_cases unreached : validator.Unreached transport
          (validator.dialect.request randomBits first service now)
          (validator.dialect.request randomBits second service now)
      · have named := unreached
        obtain ⟨reason, ofFirst, ofSecond⟩ := named
        rw [exchange, exchange, accept_of_within_error ofFirst, accept_of_within_error ofSecond,
          follow_log_unreached_iff, Dialect.url_request, Dialect.url_request, Dialect.url_eq_iff]
        simp only [unreached, not_true, or_false, Bool.false_eq_true, false_or]
        exact or_comm
      · have followed : validator.accept (validator.exchange transport randomBits now first service) =
            validator.accept (validator.exchange transport randomBits now second service) := by
          rcases alike with same | alone
          · rw [accept, accept, exchange, exchange, same]
          · exact absurd alone unreached
        rw [followed]
        simp only [unreached, not_false_eq_true, or_true]

/-- A connection that fails is logged alike for tickets of SAML that start alike. -/
theorem logs_alike_iff_of_saml :
    let dialect := Dialect.saml11 (Endpoint.ofServer "https://cas.example.com") ⟨0⟩ .drawn
    let validator := (allowing []).withDialect dialect
    let transport : Transport := fun request => ⟨⟨0⟩, .error (.connection request.url "refused")⟩
    let log (ticket : String) :=
      (validator.validate transport 0 default ⟨0⟩ none ticket "https://app.example.com/").log
    isBlankText "ST-1234567-alpha" = false ∧ isBlankText "ST-1234567-bravo" = false ∧
      "ST-1234567-alpha".toList.take 10 = "ST-1234567-bravo".toList.take 10 ∧
      validator.TreatsAlike transport
        (validator.dialect.request 0 "ST-1234567-alpha" "https://app.example.com/" default)
        (validator.dialect.request 0 "ST-1234567-bravo" "https://app.example.com/" default) ∧
      log "ST-1234567-alpha" = log "ST-1234567-bravo" := by
  intro dialect validator transport log
  have spokenFirst : isBlankText "ST-1234567-alpha" = false := by decide
  have spokenSecond : isBlankText "ST-1234567-bravo" = false := by decide
  have start : "ST-1234567-alpha".toList.take 10 = "ST-1234567-bravo".toList.take 10 := by decide
  have alike : validator.TreatsAlike transport
      (validator.dialect.request 0 "ST-1234567-alpha" "https://app.example.com/" default)
      (validator.dialect.request 0 "ST-1234567-bravo" "https://app.example.com/" default) :=
    .unreached ⟨"refused", rfl, rfl⟩
  have logs := logs_alike_iff validator transport 0 default ⟨0⟩ none "https://app.example.com/"
    spokenFirst spokenSecond start alike
  exact ⟨spokenFirst, spokenSecond, start, alike, logs.2 (Or.inr (Or.inr (Or.inl rfl)))⟩

/-- A connection that fails shows in the log how tickets that start alike go on. -/
theorem unreached_log_shows_ticket :
    let transport : Transport := fun request => ⟨⟨0⟩, .error (.connection request.url "refused")⟩
    let log (ticket : String) := ((allowing []).validate transport 0 default ⟨0⟩ none ticket
      "https://app.example.com/").log
    isBlankText "ST-1234567-alpha" = false ∧ isBlankText "ST-1234567-bravo" = false ∧
      "ST-1234567-alpha".toList.take 10 = "ST-1234567-bravo".toList.take 10 ∧
      (allowing []).TreatsAlike transport
        ((allowing []).dialect.request 0 "ST-1234567-alpha" "https://app.example.com/" default)
        ((allowing []).dialect.request 0 "ST-1234567-bravo" "https://app.example.com/" default) ∧
      log "ST-1234567-alpha" ≠ log "ST-1234567-bravo" := by
  refine ⟨by decide, by decide, by decide, .unreached ⟨"refused", rfl, rfl⟩, ?_⟩
  decide +kernel

end Validator

end SignOn
