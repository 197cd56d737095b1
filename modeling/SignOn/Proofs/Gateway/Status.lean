import SignOn.Gateway.Serve
import SignOn.Proofs.AttributeBag
import SignOn.Proofs.Validator.Failures

/-
This file shows whom the status of a response blames for a failure.
-/

namespace SignOn

open SignOn.Text

namespace Validator

/-- A server fails when it gives no answer in time, or one that is not an answer of its protocol. -/
inductive ServerFails (validator : Validator) (delivery : Delivery) (now : Instant) : Prop
  | late (late : validator.config.timeout.nanos < delivery.delay.nanos)
  | lost (fault : TransportFault) (lost : delivery.outcome = .error fault)
  | refused (answer : Answer) (arrived : delivery.outcome = .ok answer)
    (unsuccessful : ¬ (200 ≤ answer.status ∧ answer.status < 300))
  | violated (answer : Answer) (arrived : delivery.outcome = .ok answer) (violation : Violation)
    (read : validator.reading answer now = .error (.protocolViolation violation))

end Validator

namespace Gateway

open ValidateRoute

/-- A call is handled when each of its parameters comes once or not at all. -/
structure Inquires (call : Call) (ticket service : Option String) : Prop where
  path : call.path = validatePath
  method : call.method = "GET" ∨ call.method = "HEAD"
  ticket : AttributeBag.valuesUnder (Form.decode call.query) "ticket" = ticket.toList
  service : AttributeBag.valuesUnder (Form.decode call.query) "service" = service.toList

/-- A parameter says nothing when it is missing or blank. -/
def IsSilent (parameter : Option String) : Prop :=
  parameter = none ∨ ∃ text, parameter = some text ∧ isBlankText text = true

/-- The delivery that follows on the request of a gateway. -/
def delivery (gateway : Gateway) (around : Surroundings) (ticket service : String) : Delivery :=
  gateway.validator.exchange around.transport around.randomBits around.now ticket service

/-- A parameter is blank exactly when it says nothing. -/
theorem isBlankText_getD_iff (parameter : Option String) :
    isBlankText (parameter.getD "") = true ↔ IsSilent parameter := by
  cases parameter with
  | none => exact ⟨fun _ => Or.inl rfl, fun _ => rfl⟩
  | some text =>
      constructor
      · intro blank
        exact Or.inr ⟨text, rfl, blank⟩
      · rintro (missing | ⟨same, spoken, blank⟩)
        · cases missing
        · cases spoken
          exact blank

/-- A parameter that comes at most once is known. -/
theorem readKnown?_cons {pairs : List (String × String)} {name : String} {value : Option String}
    (comes : AttributeBag.valuesUnder pairs name = value.toList) (names : List String) :
    readKnown? (name :: names) pairs = (readKnown? names pairs).map (value :: ·) := by
  rw [AttributeBag.valuesUnder] at comes
  cases value with
  | none =>
      have nothing := List.map_eq_nil_iff.1 comes
      rw [Option.map_eq_bind, readKnown?, List.mapM_cons, nothing]
      rfl
  | some text =>
      obtain ⟨pair, alone, same⟩ := List.map_eq_singleton_iff.1 comes
      rw [Option.map_eq_bind, readKnown?, List.mapM_cons, alone, ← same]
      rfl

/-- A call that is handled has its two parameters found. -/
theorem Inquires.known {call : Call} {ticket service : Option String}
    (inquires : Inquires call ticket service) :
    readKnown? parameterNames (Form.decode call.query) = some [ticket, service] := by
  rw [parameterNames, readKnown?_cons inquires.ticket, readKnown?_cons inquires.service]
  rfl

namespace ValidateRoute

/-- The status of the response to an outcome. -/
def outcomeStatus : Except Failure Assertion → Nat
  | .ok _ => 200
  | .error failure => (Blame.ofFailure failure).status

/-- A response has the status of its outcome. -/
theorem respond_status (outcome : Except Failure Assertion) :
    (respond outcome).result.status = outcomeStatus outcome := by
  cases outcome with
  | ok assertion => rfl
  | error failure => rfl

/-- A request is to blame exactly for arguments that are not valid. -/
theorem Blame.ofFailure_eq_invalidRequest_iff (failure : Failure) :
    Blame.ofFailure failure = .invalidRequest ↔ ∃ fault, failure = .invalidArgument fault := by
  cases failure <;> simp [Blame.ofFailure]

end ValidateRoute

/-- The response to a call tells the outcome of the validation by its status. -/
theorem serve_status (gateway : Gateway) (around : Surroundings) (store : GrantStore) {call : Call}
    {ticket service : Option String} (inquires : Inquires call ticket service) :
    (gateway.serve around store call).result.1.status =
      outcomeStatus (gateway.validate around store (ticket.getD "") (service.getD "")).result.1 := by
  have asked (shared : Option GrantStore) :
      (answerQuery (gateway.validate around store) shared call).result.1.status =
        outcomeStatus
          (gateway.validate around store (ticket.getD "") (service.getD "")).result.1 := by
    rw [answerQuery, inquires.known]
    exact respond_status _
  rw [serve, if_pos inquires.path]
  simp only [Traced.bind_result, Traced.pure_result, answer]
  rcases inquires.method with get | head
  · simp only [get]
    exact asked _
  · simp only [head, Traced.bind_result, Traced.pure_result, Response.withoutBody]
    exact asked _

/-- A parameter that comes more than once cannot be known. -/
theorem readKnown?_of_repeated {names : List String} {pairs : List (String × String)} {name : String}
    (member : name ∈ names) (repeated : 2 ≤ (AttributeBag.valuesUnder pairs name).length) :
    readKnown? names pairs = none := by
  induction names with
  | nil => cases member
  | cons first others inductionHypothesis =>
      rw [readKnown?, List.mapM_cons]
      rcases List.mem_cons.1 member with rfl | later
      · rw [AttributeBag.valuesUnder, List.length_map] at repeated
        cases kept : pairs.filter (·.1 == name) with
        | nil =>
            rw [kept] at repeated
            cases repeated
        | cons pair rest =>
            cases rest with
            | nil =>
                rw [kept, List.length_singleton] at repeated
                omega
            | cons another rest => rfl
      · have unknown := inductionHypothesis later
        rw [readKnown?] at unknown
        rw [unknown]
        exact Option.bind_fun_none _

/-- A call that repeats a parameter is refused before anything is validated. -/
theorem serve_of_repeated (gateway : Gateway) (around : Surroundings) (store : GrantStore)
    {call : Call} (path : call.path = validatePath)
    (method : call.method = "GET" ∨ call.method = "HEAD") {name : String}
    (member : name ∈ parameterNames)
    (repeated : 2 ≤ (AttributeBag.valuesUnder (Form.decode call.query) name).length) :
    ∃ response : Response, gateway.serve around store call = pure (response, store) ∧
      response.status = 400 := by
  have unknown := readKnown?_of_repeated member repeated
  have kept : (if gateway.sharesStore then some store else none).getD store = store := by
    cases gateway.sharesStore <;> rfl
  rcases method with get | head
  · refine ⟨queryRefusal, ?_, rfl⟩
    simp only [serve, if_pos path, answer, get, answerQuery, unknown, pure_bind, kept]
  · refine ⟨queryRefusal.withoutBody, ?_, rfl⟩
    simp only [serve, if_pos path, answer, head, answerQuery, unknown, pure_bind, kept]

/-- The failures that blame the server are those on the way and those against the protocol. -/
theorem serverFails_iff (validator : Validator) (delivery : Delivery) (now : Instant) :
    validator.ServerFails delivery now ↔
      ∃ failure, validator.replyOf delivery now = .error failure ∧
        Blame.ofFailure failure = .serverUnavailable := by
  by_cases late : validator.config.timeout.nanos < delivery.delay.nanos
  · rw [Validator.replyOf, Validator.accept_of_late validator delivery late]
    exact ⟨fun _ => ⟨_, rfl, rfl⟩, fun _ => .late late⟩
  cases arrived : delivery.outcome with
  | error fault =>
      rw [Validator.replyOf, Validator.accept_of_fault validator delivery late arrived]
      exact ⟨fun _ => ⟨_, rfl, rfl⟩, fun _ => .lost fault arrived⟩
  | ok answer =>
      rw [Validator.replyOf, Validator.accept_of_answer validator delivery late arrived]
      by_cases success : 200 ≤ answer.status ∧ answer.status < 300
      · rw [if_pos success]
        constructor
        · rintro (tooLate | ⟨fault, lost⟩ | ⟨other, same, unsuccessful⟩ |
            ⟨other, same, violation, read⟩)
          · exact absurd tooLate late
          · cases arrived.symm.trans lost
          · cases arrived.symm.trans same
            exact absurd success unsuccessful
          · cases arrived.symm.trans same
            exact ⟨_, read, rfl⟩
        · rintro ⟨failure, read, blamed⟩
          -- Of the failures in an answer only violations of the protocol blame the server.
          cases Dialect.isInAnswer_of_read read with
          | violated violation => exact .violated answer arrived violation read
          | rejected code detail => cases blamed
          | nameless => cases blamed
          | untimely now toleranceMillis timed => cases blamed
      · rw [if_neg success]
        exact ⟨fun _ => ⟨_, rfl, rfl⟩, fun _ => .refused answer arrived success⟩

section Spoken

variable (gateway : Gateway) (around : Surroundings) (store : GrantStore) {ticket service : String}

/-- What a validation fails with blames the server exactly when the server fails. -/
theorem exists_serverUnavailable_iff (spokenTicket : isBlankText ticket = false)
    (spokenService : isBlankText service = false) :
    (∃ failure, (gateway.validate around store ticket service).result.1 = .error failure ∧
        Blame.ofFailure failure = .serverUnavailable) ↔
      gateway.validator.ServerFails (gateway.delivery around ticket service) around.now := by
  rw [serverFails_iff]
  refine exists_congr fun failure => ?_
  rw [Gateway.validate, Validator.validate_eq_error_iff _ _ _ _ _ _ spokenTicket spokenService]
  constructor
  · rintro ⟨unread | ⟨reply, -, -, rfl⟩, blamed⟩
    · exact ⟨unread, blamed⟩
    · cases blamed
  · rintro ⟨unread, blamed⟩
    exact ⟨Or.inl unread, blamed⟩

end Spoken

/-- The ways in which a call ends, with the status that tells of each. -/
inductive Ends (isSilent serverFails : Prop) (outcome : Except Failure Assertion) : Nat → Prop
  | invalid (silent : isSilent) (fault : ArgumentFault)
    (same : outcome = .error (.invalidArgument fault)) : Ends isSilent serverFails outcome 400
  | unavailable (spoken : ¬ isSilent) (fails : serverFails) (failure : Failure)
    (same : outcome = .error failure) : Ends isSilent serverFails outcome 502
  | denied (spoken : ¬ isSilent) (works : ¬ serverFails) (failure : Failure)
    (same : outcome = .error failure) : Ends isSilent serverFails outcome 401
  | validated (spoken : ¬ isSilent) (works : ¬ serverFails) (assertion : Assertion)
    (same : outcome = .ok assertion) : Ends isSilent serverFails outcome 200

/-- A status that is known tells how the call ended. -/
theorem Ends.tells {isSilent serverFails : Prop} {outcome : Except Failure Assertion} {status : Nat}
    (ends : Ends isSilent serverFails outcome status) :
    (status = 400 ↔ isSilent) ∧ (status = 502 ↔ ¬ isSilent ∧ serverFails) ∧
      (status = 401 ↔ ¬ isSilent ∧ ¬ serverFails ∧ ∃ failure, outcome = .error failure) ∧
      (status = 200 ↔ ∃ assertion, outcome = .ok assertion) ∧ status ≠ 500 := by
  cases ends with
  | invalid silent fault same => simp [silent, same]
  | unavailable spoken fails failure same => simp [spoken, fails, same]
  | denied spoken works failure same => simp [spoken, works, same]
  | validated spoken works assertion same => simp [spoken, works, same]

/-- A call that is handled ends in one of these ways. -/
theorem serve_ends (gateway : Gateway) (around : Surroundings) (store : GrantStore) {call : Call}
    {ticket service : Option String} (inquires : Inquires call ticket service) :
    Ends (IsSilent ticket ∨ IsSilent service)
      (gateway.validator.ServerFails
        (gateway.delivery around (ticket.getD "") (service.getD "")) around.now)
      (gateway.validate around store (ticket.getD "") (service.getD "")).result.1
      (gateway.serve around store call).result.1.status := by
  rw [gateway.serve_status around store inquires, ← isBlankText_getD_iff, ← isBlankText_getD_iff]
  generalize ticket.getD "" = ticket
  generalize service.getD "" = service
  have argued : (∃ fault, (gateway.validate around store ticket service).result.1 =
      .error (.invalidArgument fault)) ↔ isBlankText ticket = true ∨ isBlankText service = true :=
    Validator.validate_invalidArgument_iff _ _ _ _ _ _ _ _
  by_cases silent : isBlankText ticket = true ∨ isBlankText service = true
  · obtain ⟨fault, failed⟩ := argued.2 silent
    rw [failed]
    exact .invalid silent fault rfl
  have spoken := not_or.1 silent
  rw [Bool.not_eq_true, Bool.not_eq_true] at spoken
  have served := gateway.exists_serverUnavailable_iff around store spoken.1 spoken.2
  by_cases fails :
      gateway.validator.ServerFails (gateway.delivery around ticket service) around.now
  · obtain ⟨failure, failed, blamed⟩ := served.2 fails
    rw [failed, outcomeStatus, blamed]
    exact .unavailable silent fails failure rfl
  cases outcome : (gateway.validate around store ticket service).result.1 with
  | ok assertion => exact .validated silent fails assertion rfl
  | error failure =>
      rw [outcomeStatus]
      cases blamed : Blame.ofFailure failure with
      | invalidRequest =>
          obtain ⟨fault, rfl⟩ := (Blame.ofFailure_eq_invalidRequest_iff failure).1 blamed
          exact absurd (argued.1 ⟨fault, outcome⟩) silent
      | serverUnavailable => exact absurd (served.1 ⟨failure, outcome, blamed⟩) fails
      | authenticationFailed => exact .denied silent fails failure rfl

end Gateway

/--
Only what is wrong with an answer is blamed on the answer, and only a blank ticket or service is
blamed on the caller. The status of a response tells which of the caller, the server and the user a
failure is blamed on.
-/
theorem failures_blamed_by_origin :
    (∀ (dialect : Dialect) (body : String) (now : Instant) (failure : Failure),
      (dialect.read body now).result = .error failure → failure.IsInAnswer dialect.protocol) ∧
    (∀ (validator : Validator) (transport : Transport) (randomBits : BitVec 128) (now : Instant)
      (uptime : Span) (store : Option GrantStore) (ticket service : String),
      (∃ fault, (validator.validate transport randomBits now uptime store ticket service).result.1 =
          .error (.invalidArgument fault)) ↔
        isBlankText ticket = true ∨ isBlankText service = true) ∧
    ∀ (gateway : Gateway) (around : Gateway.Surroundings) (store : GrantStore) (call : Gateway.Call)
      (ticket service : Option String), Gateway.Inquires call ticket service →
      let status := (gateway.serve around store call).result.1.status
      let outcome :=
        (gateway.validate around store (ticket.getD "") (service.getD "")).result.1
      let delivery := gateway.delivery around (ticket.getD "") (service.getD "")
      let serverFails := gateway.validator.ServerFails delivery around.now
      let isSilent := Gateway.IsSilent ticket ∨ Gateway.IsSilent service
      (status = 400 ↔ isSilent) ∧
        (status = 502 ↔ ¬ isSilent ∧ serverFails) ∧
        (status = 401 ↔ ¬ isSilent ∧ ¬ serverFails ∧ ∃ failure, outcome = .error failure) ∧
        (status = 200 ↔ ∃ assertion, outcome = .ok assertion) ∧
        status ≠ 500 := by
  refine ⟨fun dialect body now failure refused => dialect.isInAnswer_of_read refused,
    fun validator transport randomBits now uptime store ticket service =>
      validator.validate_invalidArgument_iff transport randomBits now uptime store ticket service, ?_⟩
  intro gateway around store call ticket service inquires
  exact (gateway.serve_ends around store inquires).tells

/-- Without a connection the server is blamed, and without a service the caller is. -/
theorem failures_blamed_by_origin_without_connection :
    let gateway : Gateway := ⟨Validator.allowing [], ⟨"/callback".toList⟩, true⟩
    let around : Gateway.Surroundings :=
      ⟨fun request => ⟨⟨0⟩, .error (.connection request.url "refused")⟩, 0, default, ⟨0⟩⟩
    let store := GrantStore.empty GrantStore.defaultRetention GrantStore.defaultCapacity
    let asking : Gateway.Call := ⟨"GET", "/validate?ticket=ST-1&service=app", none, ""⟩
    let lacking : Gateway.Call := ⟨"HEAD", "/validate?ticket=ST-1", none, ""⟩
    Gateway.Inquires asking (some "ST-1") (some "app") ∧
      (gateway.serve around store asking).result.1.status = 502 ∧
      Gateway.Inquires lacking (some "ST-1") none ∧
      (gateway.serve around store lacking).result.1.status = 400 ∧
      (PlainText.read "maybe" default = .error (.protocolViolation .neitherYesNorNo) ∧
        (Failure.protocolViolation .neitherYesNorNo).IsInAnswer .cas10) := by
  intro gateway around store asking lacking
  have complete : Gateway.Inquires asking (some "ST-1") (some "app") :=
    ⟨by decide +kernel, Or.inl rfl, by decide +kernel, by decide +kernel⟩
  have incomplete : Gateway.Inquires lacking (some "ST-1") none :=
    ⟨by decide +kernel, Or.inr rfl, by decide +kernel, by decide +kernel⟩
  obtain ⟨reading, -, serving⟩ := failures_blamed_by_origin
  have refused : PlainText.read "maybe" default = .error (.protocolViolation .neitherYesNorNo) :=
    rfl
  have spoken : ¬ (Gateway.IsSilent (some "ST-1") ∨ Gateway.IsSilent (some "app")) := by
    rw [← Gateway.isBlankText_getD_iff, ← Gateway.isBlankText_getD_iff]
    decide
  refine ⟨complete, ?_, incomplete, ?_, refused, ?_⟩
  · exact (serving gateway around store asking _ _ complete).2.1.2 ⟨spoken, .lost _ rfl⟩
  · exact (serving gateway around store lacking _ _ incomplete).1.2 (Or.inr (Or.inl rfl))
  · exact reading (.cas10 (Endpoint.ofServer "https://cas.example.com")) "maybe" default _ refused

end SignOn
