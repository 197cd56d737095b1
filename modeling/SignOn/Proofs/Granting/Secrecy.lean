import SignOn.Proofs.Gateway.Status
import SignOn.Proofs.GrantStore.Secrecy
import SignOn.Proofs.Granting.Correlation

/-
This file shows that granting tickets show in no answer, no log line and no description.
-/

namespace SignOn

open SignOn.Text

/-- An assertion with the granting ticket in its capability blotted out. -/
def Assertion.withoutTicket (assertion : Assertion) : Assertion :=
  let capability := assertion.principal.capability.map fun capability =>
    { capability with grantingTicket := "" }
  { assertion with principal := { assertion.principal with capability := capability } }

/-- A description shows nothing of the granting ticket. -/
theorem Assertion.describe_withoutTicket (assertion : Assertion) :
    assertion.withoutTicket.describe = assertion.describe := by
  have same : assertion.withoutTicket.principal.canProxy = assertion.principal.canProxy :=
    Option.isSome_map
  rw [Assertion.describe, Assertion.describe, Principal.describe, Principal.describe, same]
  rfl

theorem Json.ofAssertion_withoutTicket (assertion : Assertion) :
    ofAssertion assertion.withoutTicket = ofAssertion assertion := rfl

/-- The same failure, or assertions that differ in nothing but the granting ticket. -/
def SameOutcome (first second : Except Failure Assertion) : Prop :=
  first.map Assertion.withoutTicket = second.map Assertion.withoutTicket

/-- The same is described, or the same failure met. -/
theorem SameOutcome.describe_eq {first second : Except Failure Assertion}
    (same : SameOutcome first second) :
    first.map Assertion.describe = second.map Assertion.describe := by
  have described (outcome : Except Failure Assertion) :
      (outcome.map Assertion.withoutTicket).map Assertion.describe =
        outcome.map Assertion.describe := by
    cases outcome with
    | error failure => rfl
    | ok assertion => exact congrArg Except.ok assertion.describe_withoutTicket
  rw [← described, same, described]

/-- Both sides have stores, which differ in nothing but their tickets, or neither has one. -/
inductive SameStores : Bool → Option GrantStore → Option GrantStore → Prop
  | both {first second : GrantStore} (same : first.SameButTickets second) :
    SameStores true (some first) (some second)
  | neither : SameStores false none none

/-- What a validation leaves differs in nothing but granting tickets. -/
structure SameValidation (hasStore : Bool)
    (left right : Except Failure Assertion × Option GrantStore) : Prop where
  outcome : SameOutcome left.1 right.1
  stores : SameStores hasStore left.2 right.2

namespace Validator

/-- What a reply is correlated to differs in nothing but granting tickets. -/
structure SameCorrelation (hasStore : Bool) (left right : Assertion × Option GrantStore) : Prop where
  assertion : left.1.withoutTicket = right.1.withoutTicket
  stores : SameStores hasStore left.2 right.2

variable (validator : Validator) (now : Instant) (uptime : Span) {hasStore : Bool}
  {first second : Option GrantStore} (same : SameStores hasStore first second)

include same

/-- One reference is correlated alike in stores that differ in nothing but their tickets. -/
theorem correlate_agrees (assertion : Assertion) (iou : String) :
    Logged.Agrees (SameCorrelation hasStore) (validator.correlate uptime first assertion iou)
      (validator.correlate uptime second assertion iou) := by
  cases same with
  | neither =>
      rw [correlate.eq_def]
      exact (Logged.Agrees.pure
        (⟨rfl, .neither⟩ : SameCorrelation false (assertion, none) (assertion, none))).behind
  | @both store other same =>
      rw [correlate.eq_def, correlate.eq_def]
      cases validator.issuer with
      | none => exact (Logged.Agrees.pure ⟨rfl, .both same⟩).behind
      | some issuer =>
          -- A ticket that is found shows in nothing but the capability.
          refine (same.retrieve uptime iou).bind ?_
          rintro ⟨found, remaining⟩ ⟨foundToo, remainingToo⟩ ⟨sameFound, remain⟩
          cases found with
          | none =>
              cases foundToo with
              | none => exact (Logged.Agrees.pure ⟨rfl, .both remain⟩).behind
              | some ticket => cases sameFound
          | some ticket =>
              cases foundToo with
              | none => cases sameFound
              | some other => exact (Logged.Agrees.pure ⟨rfl, .both remain⟩).behind

/-- One reply is correlated alike in stores that differ in nothing but their tickets. -/
theorem correlateReply_agrees (reply : Reply) :
    Logged.Agrees (SameCorrelation hasStore) (validator.correlateReply uptime first reply)
      (validator.correlateReply uptime second reply) := by
  rw [correlateReply, correlateReply]
  cases reply.grantingTicketIou with
  | none => exact Logged.Agrees.pure ⟨rfl, same⟩
  | some iou => exact validator.correlate_agrees uptime same reply.assertion iou

/-- One reply is resolved alike, whatever the tickets in the store. -/
theorem resolve_agrees (ticket service : String) (reply : Reply) :
    Traced.Agrees (SameValidation hasStore) (validator.resolve ticket service uptime first reply)
      (validator.resolve ticket service uptime second reply) := by
  rw [resolve, resolve]
  refine (Traced.Agrees.ofLogged (validator.correlateReply_agrees uptime same reply)).bind ?_
  rintro ⟨assertion, left⟩ ⟨assertionToo, leftToo⟩ ⟨sameAssertion, sameLeft⟩
  -- The verdict on the chain of proxies goes by the reply alone, which both sides have in common.
  refine Traced.Agrees.behind fun verdict => ?_
  cases verdict with
  | error failure => exact Traced.Agrees.behind fun _ => .pure ⟨rfl, sameLeft⟩
  | ok _ =>
      have sameName : assertion.principal.name = assertionToo.principal.name :=
        congrArg (fun assertion => assertion.principal.name) sameAssertion
      simp only [sameName]
      exact Traced.Agrees.behind fun _ => Traced.Agrees.behind fun _ =>
        .pure ⟨congrArg Except.ok sameAssertion, sameLeft⟩

/-- A validation shows nothing of the granting tickets in its store. -/
theorem validate_agrees (transport : Transport) (randomBits : BitVec 128) (ticket service : String) :
    Traced.Agrees (SameValidation hasStore)
      (validator.validate transport randomBits now uptime first ticket service)
      (validator.validate transport randomBits now uptime second ticket service) := by
  rw [validate, validate]
  split
  · exact .pure ⟨rfl, same⟩
  split
  · exact .pure ⟨rfl, same⟩
  refine Traced.Agrees.behind fun _ => Traced.Agrees.behind fun delivery => ?_
  cases validator.accept delivery with
  | error failure => exact Traced.Agrees.behind fun _ => .pure ⟨rfl, same⟩
  | ok answer =>
      refine Traced.Agrees.behind fun _ => Traced.Agrees.behind fun reading => ?_
      cases reading with
      | error failure => exact Traced.Agrees.behind fun _ => .pure ⟨rfl, same⟩
      | ok reply =>
          exact Traced.Agrees.behind fun _ => validator.resolve_agrees uptime same ticket service reply

end Validator

namespace Gateway

/-- The same response goes out, and what is left of stores differs in nothing but their tickets. -/
structure SameAnswer (hasStore : Bool) (left right : Response × Option GrantStore) : Prop where
  response : left.1 = right.1
  stores : SameStores hasStore left.2 right.2

/-- The same response goes out, and the stores differ in nothing but their tickets. -/
structure SameResponse (left right : Response × GrantStore) : Prop where
  response : left.1 = right.1
  stores : left.2.SameButTickets right.2

namespace ValidateRoute

/-- Outcomes that differ in nothing but granting tickets get one response. -/
theorem respond_eq {first second : Except Failure Assertion} (same : SameOutcome first second) :
    respond first = respond second := by
  cases first with
  | error failure =>
      cases second with
      | error other =>
          cases same
          rfl
      | ok assertion => cases same
  | ok assertion =>
      cases second with
      | error failure => cases same
      | ok other =>
          have json : Json.ofAssertion assertion = Json.ofAssertion other := by
            rw [← Json.ofAssertion_withoutTicket, Except.ok.inj same, Json.ofAssertion_withoutTicket]
          rw [respond, respond, json]

variable {left right : Validate} {hasStore : Bool} {first second : Option GrantStore}
  (validations : ∀ ticket service,
    Traced.Agrees (SameValidation hasStore) (left ticket service) (right ticket service))
  (same : SameStores hasStore first second) (call : Call)

include validations same

/-- A query is answered alike, whatever the tickets in the store. -/
theorem answerQuery_agrees :
    Traced.Agrees (SameAnswer hasStore) (answerQuery left first call)
      (answerQuery right second call) := by
  rw [answerQuery, answerQuery]
  split
  · refine (validations _ _).bind ?_
    rintro ⟨outcome, remaining⟩ ⟨outcomeToo, remainingToo⟩ ⟨sameOutcome, remain⟩
    simp only [respond_eq sameOutcome]
    exact Traced.Agrees.behind fun response => .pure ⟨rfl, remain⟩
  · exact .pure ⟨rfl, same⟩

/-- A response shows of granting tickets only what the validation behind it does. -/
theorem answer_agrees :
    Traced.Agrees (SameAnswer hasStore) (answer left first call) (answer right second call) := by
  have asked := answerQuery_agrees validations same call
  rw [answer, answer]
  split
  · exact asked
  · refine asked.bind ?_
    rintro ⟨response, remaining⟩ ⟨responseToo, remainingToo⟩ ⟨sameResponse, remain⟩
    exact .pure ⟨congrArg Response.withoutBody sameResponse, remain⟩
  · exact .pure ⟨rfl, same⟩

end ValidateRoute

variable {first second : GrantStore}

/-- What a call about a ticket is answered shows nothing of the granting tickets that are kept. -/
theorem serve_agrees (gateway : Gateway) (around : Surroundings)
    (same : first.SameButTickets second) {call : Call} (path : call.path = validatePath) :
    Traced.Agrees SameResponse (gateway.serve around first call)
      (gateway.serve around second call) := by
  have shared : SameStores gateway.sharesStore (if gateway.sharesStore then some first else none)
      (if gateway.sharesStore then some second else none) := by
    cases gateway.sharesStore with
    | false => exact .neither
    | true => exact .both same
  have answered := ValidateRoute.answer_agrees
    (fun ticket service => gateway.validator.validate_agrees around.now around.uptime shared
      around.transport around.randomBits ticket service) shared call
  rw [serve, serve, if_pos path, if_pos path]
  refine answered.bind ?_
  rintro ⟨response, left⟩ ⟨responseToo, leftToo⟩ ⟨sameResponse, remain⟩
  generalize gateway.sharesStore = hasStore at remain
  cases remain with
  | both kept => exact .pure ⟨sameResponse, kept⟩
  | neither => exact .pure ⟨sameResponse, same⟩

end Gateway

namespace Callback

/-- The same goes back to the server, and the stores differ in nothing but their tickets. -/
structure SameReceipt {Reply : Type} (left right : GrantStore × Reply) : Prop where
  stores : left.1.SameButTickets right.1
  reply : left.2 = right.2

variable {first second : GrantStore} {ticket other : String}

theorem given?_of_spoken (spoken : isBlankText ticket = false) :
    given? (some ticket) = some (trim ticket) := by
  have nonempty : trim ticket ≠ "" := by
    rw [Ne, trim_eq_empty_iff, spoken]
    exact Bool.false_ne_true
  rw [given?, Option.map_some, Option.filter_some, if_pos (by simpa using nonempty)]

/-- What goes back for a delivery shows nothing of the ticket that is delivered. -/
theorem receive_agrees (same : first.SameButTickets second)
    (counted : first.counted = second.counted) (now : Span) (iou : Option String)
    (spoken : isBlankText ticket = false) (spokenToo : isBlankText other = false) :
    Logged.Agrees SameReceipt (receive first now iou (some ticket))
      (receive second now iou (some other)) := by
  rw [receive, receive, given?_of_spoken spoken, given?_of_spoken spokenToo]
  cases given? iou with
  | none => exact (Logged.Agrees.pure ⟨same, rfl⟩).behind
  | some iou =>
      refine (same.save counted now iou (trim ticket) (trim other)).bind ?_
      intro saved savedToo kept
      exact (Logged.Agrees.pure ⟨kept, rfl⟩).behind

end Callback

namespace Gateway

/-- A parameter comes at most once or is repeated. -/
theorem exists_toList_or_repeated (values : List String) :
    (∃ value : Option String, values = value.toList) ∨ 2 ≤ values.length := by
  match values with
  | [] => exact Or.inl ⟨none, rfl⟩
  | [value] => exact Or.inl ⟨some value, rfl⟩
  | value :: next :: others => exact Or.inr (Nat.le_add_left 2 others.length)

/-- Two texts deliver different tickets under the same references. -/
structure DeliverAlike (parameters others ticket other : String) : Prop where
  references : AttributeBag.valuesUnder (Form.decode parameters) "pgtIou" =
    AttributeBag.valuesUnder (Form.decode others) "pgtIou"
  delivered : AttributeBag.valuesUnder (Form.decode parameters) "pgtId" = [ticket]
  deliveredToo : AttributeBag.valuesUnder (Form.decode others) "pgtId" = [other]

namespace CallbackRoute

variable {first second : GrantStore} {parameters others ticket other : String}

/-- Tickets that are delivered under one reference are received alike. -/
theorem deliver_agrees (same : first.SameButTickets second)
    (counted : first.counted = second.counted) (now : Span) (refusal : Response)
    (spoken : isBlankText ticket = false) (spokenToo : isBlankText other = false)
    (alike : DeliverAlike parameters others ticket other) :
    Logged.Agrees Callback.SameReceipt (deliver first now refusal parameters)
      (deliver second now refusal others) := by
  rw [deliver, deliver]
  rcases exists_toList_or_repeated (AttributeBag.valuesUnder (Form.decode parameters) "pgtIou")
    with ⟨iou, once⟩ | repeated
  · have known {text delivered : String}
        (reference : AttributeBag.valuesUnder (Form.decode text) "pgtIou" = iou.toList)
        (alone : AttributeBag.valuesUnder (Form.decode text) "pgtId" = (some delivered).toList) :
        readKnown? parameterNames (Form.decode text) = some [iou, some delivered] := by
      rw [parameterNames, readKnown?_cons reference, readKnown?_cons alone]
      rfl
    rw [known once alike.delivered, known (alike.references.symm.trans once) alike.deliveredToo]
    refine (Callback.receive_agrees same counted now iou spoken spokenToo).bind ?_
    rintro ⟨saved, body⟩ ⟨savedToo, bodyToo⟩ ⟨kept, reply⟩
    exact .pure ⟨kept, congrArg Response.xml reply⟩
  · have known : "pgtIou" ∈ parameterNames := by decide
    rw [readKnown?_of_repeated known repeated,
      readKnown?_of_repeated known (alike.references ▸ repeated)]
    exact .pure ⟨same, rfl⟩

end CallbackRoute

end Gateway

/--
Stores that differ in nothing but their granting tickets are not told apart by any validation, by what
an assertion is described as, or by what the gateway answers. What goes back for a delivery and what
is logged do not depend on the ticket that is delivered.
-/
theorem granting_tickets_stay_secret {first second : GrantStore} (same : first.SameButTickets second) :
    (∀ (validator : Validator) (transport : Transport) (randomBits : BitVec 128) (now : Instant)
      (uptime : Span) (ticket service : String),
      let left := validator.validate transport randomBits now uptime (some first) ticket service
      let right := validator.validate transport randomBits now uptime (some second) ticket service
      Traced.Agrees (SameValidation true) left right ∧
        left.result.1.map Assertion.describe = right.result.1.map Assertion.describe) ∧
    (∀ (gateway : Gateway) (around : Gateway.Surroundings) (call : Gateway.Call),
      call.path = Gateway.validatePath →
        Traced.Agrees Gateway.SameResponse (gateway.serve around first call)
          (gateway.serve around second call)) ∧
    (first.counted = second.counted → ∀ (now : Span) (ticket other : String),
      isBlankText ticket = false → isBlankText other = false →
        (∀ iou, Logged.Agrees Callback.SameReceipt (Callback.receive first now iou (some ticket))
          (Callback.receive second now iou (some other))) ∧
        ∀ refusal parameters others, Gateway.DeliverAlike parameters others ticket other →
          Logged.Agrees Callback.SameReceipt
            (Gateway.CallbackRoute.deliver first now refusal parameters)
            (Gateway.CallbackRoute.deliver second now refusal others)) := by
  refine ⟨?validation, ?gateway, ?delivery⟩
  case validation =>
    intro validator transport randomBits now uptime ticket service left right
    have agrees : Traced.Agrees (SameValidation true) left right :=
      validator.validate_agrees now uptime (.both same) transport randomBits ticket service
    exact ⟨agrees, agrees.result.outcome.describe_eq⟩
  case gateway =>
    intro gateway around call path
    exact gateway.serve_agrees around same path
  case delivery =>
    intro counted now ticket other spoken spokenToo
    exact ⟨fun iou => Callback.receive_agrees same counted now iou spoken spokenToo,
      fun refusal parameters others alike =>
        Gateway.CallbackRoute.deliver_agrees same counted now refusal spoken spokenToo alike⟩

/-- Two principals get different tickets under one reference, and neither of them shows. -/
theorem granting_tickets_stay_secret_under_reference :
    let store (ticket : String) := (GrantStore.empty (.ofSeconds 60) 100).put ⟨0⟩ "I" ticket
    let validation (ticket : String) :=
      Granting.System.validation ⟨⟨1⟩, store ticket⟩ Granting.callWithReference
    let gateway : Gateway := ⟨Granting.callWithReference.validator.withStore, ⟨[]⟩, true⟩
    let around : Gateway.Surroundings :=
      ⟨Granting.callWithReference.transport, 0, default, ⟨1⟩⟩
    let call : Gateway.Call := ⟨"GET", "/validate?ticket=ST-1&service=app", none, ""⟩
    let deliver := Gateway.CallbackRoute.deliver
    (∃ assertion other : Assertion,
      (validation "PGT-alpha").result.1 = .ok assertion ∧
        (validation "PGT-bravo").result.1 = .ok other ∧
        assertion.principal.capability ≠ other.principal.capability ∧
        assertion.describe = other.describe) ∧
      (validation "PGT-alpha").log = (validation "PGT-bravo").log ∧
      (gateway.serve around (store "PGT-alpha") call).log =
        (gateway.serve around (store "PGT-bravo") call).log ∧
      (deliver (store "PGT-alpha") ⟨1⟩ Gateway.queryRefusal "pgtIou=J&pgtId=PGT-charlie").log =
        (deliver (store "PGT-bravo") ⟨1⟩ Gateway.queryRefusal "pgtId=PGT-delta&pgtIou=J").log := by
  intro store validation gateway around call deliver
  have same : (store "PGT-alpha").SameButTickets (store "PGT-bravo") :=
    (GrantStore.SameButTickets.refl _).put ⟨0⟩ "I" _ _
  obtain ⟨validating, serving, delivering⟩ := granting_tickets_stay_secret same
  have alike : Gateway.DeliverAlike "pgtIou=J&pgtId=PGT-charlie" "pgtId=PGT-delta&pgtIou=J"
      "PGT-charlie" "PGT-delta" :=
    ⟨by decide +kernel, by decide +kernel, by decide +kernel⟩
  have accepted (ticket : String) : ∃ assertion issuer,
      (validation ticket).result.1 = .ok assertion ∧
        assertion.principal.capability = some ⟨ticket, issuer⟩ := by
    have spoken : Granting.callWithReference.isBlank = false := by decide
    have outcome := Granting.System.validation_outcome ⟨⟨1⟩, store ticket⟩ spoken
    rw [Granting.replyOf_callWithReference] at outcome
    obtain ⟨issuer, capability⟩ := Granting.System.capability_of_validation _ outcome
    refine ⟨_, issuer, outcome, capability.trans ?_⟩
    have carried : Granting.callWithReference.carriedIou? = some "I" := by
      rw [Granting.Call.carriedIou?, spoken, if_neg (by simp), Validator.carriedIou?,
        Granting.replyOf_callWithReference]
    rw [Granting.System.found?, carried, Option.bind_some, GrantStore.getElem?_live,
      GrantStore.getElem?_put _ _ _ _ _ (by decide), if_pos rfl]
    rfl
  obtain ⟨assertion, issuer, isAlpha, alpha⟩ := accepted "PGT-alpha"
  obtain ⟨other, issuerToo, isBravo, bravo⟩ := accepted "PGT-bravo"
  obtain ⟨agrees, described⟩ := validating Granting.callWithReference.validator.withStore
    Granting.callWithReference.transport 0 default ⟨1⟩ "ST-1" "https://app"
  refine ⟨⟨assertion, other, isAlpha, isBravo, ?differ, ?described⟩, agrees.log, ?serve, ?deliver⟩
  case differ =>
    rw [alpha, bravo]
    simp
  case described =>
    change (validation _).result.1.map _ = (validation _).result.1.map _ at described
    rw [isAlpha, isBravo] at described
    exact Except.ok.inj described
  case serve => exact (serving gateway around call (by decide +kernel)).log
  case deliver =>
    exact ((delivering rfl ⟨1⟩ "PGT-charlie" "PGT-delta" (by decide) (by decide)).2 _ _ _ alike).log

end SignOn
